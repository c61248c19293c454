import PulseBridge.Text.Blank
import PulseBridge.Text.Letters

/-!
# Environments from files

A file may add variables to the environment, one on a line: a name, an equals sign and a value.
Values may be quoted, may contain escapes, and may refer to variables set before with a dollar.
Variables that are set already keep their values. Reading stops at the first line that is not well
formed; what stood before it counts.
-/

namespace PulseBridge.Settings

/-- An environment: names and values, the first of each name counting. -/
abbrev Environment := List (String × String)

/-- What a reference stands for: a variable, or nothing. -/
def Environment.expand (environment : Environment) (name : List Char) : List Char :=
  ((environment.lookup (String.ofList name)).getD "").toList

/-- How much of a reference has been read. -/
inductive Reference where
  /-- The letters after a dollar, last first. -/
  | open (letters : List Char)
  /-- What stands in braces after a dollar, last first. -/
  | braced (letters : List Char)

/-- Where the reading of a value stands. -/
inductive ValueState where
  | plain
  | single
  | double
  /-- After a backslash. -/
  | escaped (inDouble : Bool)
  | reference (reference : Reference) (inDouble : Bool)
  /-- After a blank: only blanks or a remark may follow. -/
  | ending

/-- The state between references, inside double quotes or not. -/
def ValueState.outside (inDouble : Bool) : ValueState := if inDouble then .double else .plain

/-- Read the characters of a value. What has been understood is gathered last first. -/
def readValue (environment : Environment) :
    ValueState → List Char → List Char → Option (List Char)
  | .plain, gathered, [] => some gathered.reverse
  | .ending, gathered, [] => some gathered.reverse
  | .escaped false, gathered, [] => some gathered.reverse
  | .reference (.open letters) false, gathered, [] =>
      some (gathered.reverse ++ environment.expand letters.reverse)
  | _, _, [] => none
  | .ending, gathered, c :: cs =>
      if c == ' ' || c == '\t' then readValue environment .ending gathered cs
      else if c == '#' then some gathered.reverse
      else none
  | .escaped inDouble, gathered, c :: cs =>
      if "\\'\"$ ".toList.contains c then
        readValue environment (.outside inDouble) (c :: gathered) cs
      else if c == 'n' then readValue environment (.outside inDouble) ('\n' :: gathered) cs
      else none
  | .single, gathered, c :: cs =>
      if c == '\'' then readValue environment .plain gathered cs
      else readValue environment .single (c :: gathered) cs
  | .reference (.open letters) inDouble, gathered, c :: cs =>
      if Text.isLetterOrNumber c then
        readValue environment (.reference (.open (c :: letters)) inDouble) gathered cs
      else if c == '\x7b' && letters.isEmpty then
        readValue environment (.reference (.braced []) inDouble) gathered cs
      else
        let gathered := (environment.expand letters.reverse).reverse ++ gathered
        if c == '$' then readValue environment (.reference (.open []) inDouble) gathered cs
        else readValue environment (.outside inDouble) (c :: gathered) cs
  | .reference (.braced letters) inDouble, gathered, c :: cs =>
      if c == '\x7d' then
        readValue environment (.outside inDouble)
          ((environment.expand letters.reverse).reverse ++ gathered) cs
      else readValue environment (.reference (.braced (c :: letters)) inDouble) gathered cs
  | .double, gathered, c :: cs =>
      if c == '$' then readValue environment (.reference (.open []) true) gathered cs
      else if c == '"' then readValue environment .plain gathered cs
      else if c == '\\' then readValue environment (.escaped true) gathered cs
      else readValue environment .double (c :: gathered) cs
  | .plain, gathered, c :: cs =>
      if c == '$' then readValue environment (.reference (.open []) false) gathered cs
      else if c == '\'' then readValue environment .single gathered cs
      else if c == '"' then readValue environment .double gathered cs
      else if c == '\\' then readValue environment (.escaped false) gathered cs
      else if c == ' ' || c == '\t' then readValue environment .ending gathered cs
      else readValue environment .plain (c :: gathered) cs

/-- The text without the blanks at its front. -/
def skipBlanks (cs : List Char) : List Char := cs.dropWhile Text.isBlank

/-- A name, and what follows it and the blanks after it. -/
def readName : List Char → Option (String × List Char)
  | [] => none
  | c :: cs =>
      if c.isAlpha || c == '_' then
        let isNameChar (c : Char) : Bool := c.isAlphanum || c == '_' || c == '.'
        some (String.ofList (c :: cs.takeWhile isNameChar), skipBlanks (cs.dropWhile isNameChar))
      else none

/-- What follows an equals sign. -/
def afterEquals : List Char → Option (List Char)
  | '=' :: cs => some cs
  | _ => none

/-- A name and what stands after its equals sign. The word `export` may stand before the name. -/
def readAssignment (cs : List Char) : Option (String × List Char) := do
  let (name, rest) ← readName cs
  match afterEquals rest with
  | some value => return (name, value)
  | none =>
      if name == "export" then
        let (name, rest) ← readName rest
        return (name, ← afterEquals rest)
      else none

/-- What a line says. -/
inductive EnvironmentLine where
  /-- Nothing. -/
  | empty
  | assignment (name value : String)
  | malformed

/-- Read a line. -/
def readLine (environment : Environment) (line : String) : EnvironmentLine :=
  let cs := Text.trimChars line.toList
  if cs.isEmpty || cs.head? == some '#' then .empty
  else
    match readAssignment cs with
    | none => .malformed
    | some (name, rest) =>
        let rest := skipBlanks rest
        if rest.isEmpty || rest.head? == some '#' then .assignment name ""
        else
          match readValue environment .plain [] rest with
          | some value => .assignment name (String.ofList value)
          | none => .malformed

/-- The environment after some lines. References see the variables that are set, and otherwise the
values of earlier lines, which are the same as the variables that those lines set. -/
def Environment.load : Environment → List String → Environment
  | environment, [] => environment
  | environment, line :: lines =>
      match readLine environment line with
      | .malformed => environment
      | .empty => load environment lines
      | .assignment name value =>
          if (environment.lookup name).isSome then load environment lines
          else load (environment ++ [(name, value)]) lines

/-- The lines of a text. -/
def linesOf (text : String) : List String :=
  (text.splitOn "\n").map fun line => if line.endsWith "\r" then (line.dropEnd 1).toString else line

end PulseBridge.Settings
