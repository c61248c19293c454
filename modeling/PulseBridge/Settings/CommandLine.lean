import PulseBridge.Net.Address
import PulseBridge.Text.Terminal

/-!
# Command lines

A program takes options, each with a long name and perhaps a letter, and each with a value that may
also come from a variable of the environment. The reading of a command line fills a record step by
step: every `Flag` knows how its value changes the record.

Arguments are handled from left to right. A value that stands on its own is only looked at when the
next option, or the end, comes; an argument that is not known is reported before that. Variables
are looked at last, for the options that were not given.
-/

namespace PulseBridge.Settings

/-- Why a value is refused. -/
inductive ValueFault where
  /-- An empty value where there must be one. -/
  | missing
  | noDigits
  | badDigit
  | tooLarge
  | badAddress
  deriving DecidableEq, Repr

/-- The reason in words. -/
def ValueFault.message : ValueFault → String
  | .missing => "a value is required"
  | .noDigits => "cannot parse integer from empty string"
  | .badDigit => "invalid digit found in string"
  | .tooLarge => "number too large to fit in target type"
  | .badAddress => "invalid socket address syntax"

/-- An option whose value fills a record of `σ`. -/
structure Flag (σ : Type) where
  name : String
  letter : Option Char
  /-- What stands for the value in the help. -/
  hint : String
  /-- The variable that may hold the value. -/
  envVar : Option String
  help : String
  accept : String → Except ValueFault (σ → σ)

/-- How an option with a value is named in messages. -/
def Flag.title {σ : Type} (flag : Flag σ) : String := "--" ++ flag.name ++ " <" ++ flag.hint ++ ">"

/-- A program and its options. -/
structure Program (σ : Type) where
  name : String
  purpose : String
  flags : List (Flag σ)
  /-- The record before any option is given. -/
  blank : σ

/-- Why a command line is not followed. -/
inductive UsageFault where
  | unknownArgument (argument : String)
  | valueMissing (option : String)
  | badValue (value option : String) (fault : ValueFault)
  | repeated (option : String)
  /-- An option that takes no value was given one. -/
  | unwantedValue (value option : String)
  | helpAsked
  | versionAsked
  deriving DecidableEq, Repr

/-- What the user typed, as it stands in a message: it ends with itself whatever it does to a
terminal. -/
def typed (text : String) : String := text ++ Text.Terminal.reset

/-- The first line of what the user is told, on a terminal. -/
def UsageFault.notice : UsageFault → String
  | .unknownArgument argument => "error: unexpected argument '" ++ typed argument ++ "' found"
  | .valueMissing option =>
      "error: a value is required for '" ++ option ++ "' but none was supplied"
  | .badValue value option fault =>
      "error: invalid value '" ++ typed value ++ "' for '" ++ option ++ "': " ++ fault.message
  | .repeated option => "error: the argument '" ++ option ++ "' cannot be used multiple times"
  | .unwantedValue value option =>
      "error: unexpected value '" ++ typed value ++ "' for '" ++ option
        ++ "' found; no more were expected"
  | .helpAsked => "help"
  | .versionAsked => "version"

/-- The first line of what the user is told. -/
def UsageFault.message (fault : UsageFault) : String := Text.Terminal.plain fault.notice

/-! ## Values -/

/-- A number of 64 bits in decimal, perhaps with a plus in front. -/
def readNumber (text : String) : Except ValueFault UInt64 :=
  let digits := match text.toList with
    | '+' :: c :: cs => c :: cs
    | cs => cs
  if digits.isEmpty then .error .noDigits
  else
    match digits.mapM (Net.digit? 10) with
    | none => .error .badDigit
    | some ds =>
        let n := Net.ofDigits 10 ds
        if n < 0x10000000000000000 then .ok (.ofNat n) else .error .tooLarge

/-- A socket address. -/
def readAddress (text : String) : Except ValueFault Net.SocketAddress :=
  match Net.SocketAddress.ofText? text with
  | some address => .ok address
  | none => .error .badAddress

/-- A path, which is not empty. -/
def readPath (text : String) : Except ValueFault String :=
  if text.isEmpty then .error .missing else .ok text

/-- An option whose value is read by `read` and put into the record by `set`. -/
def Flag.of {σ α : Type} (name : String) (letter : Option Char) (hint : String)
    (envVar : Option String) (help : String) (read : String → Except ValueFault α)
    (set : α → σ → σ) : Flag σ :=
  ⟨name, letter, hint, envVar, help, fun text => (read text).map set⟩

/-! ## Reading -/

variable {σ : Type}

/-- What has been read of a command line. -/
structure Reading (σ : Type) where
  record : σ
  /-- The names of the options given so far. -/
  given : List String
  verbosity : Nat
  /-- An option that waits for its value, or whose value has not been looked at. -/
  pending : Option (Flag σ × Option String)
  /-- Whether only plain arguments may follow. -/
  closed : Bool

/-- The greatest verbosity. -/
def verbosityMax : Nat := 255

namespace Reading

/-- Look at the value of an option. -/
def fill (r : Reading σ) (flag : Flag σ) (value : String) : Except UsageFault (Reading σ) :=
  match flag.accept value with
  | .ok set => .ok { r with record := set r.record, given := flag.name :: r.given }
  | .error .missing => .error (.valueMissing flag.title)
  | .error fault => .error (.badValue value flag.title fault)

/-- Give an option its value, once. -/
def give (r : Reading σ) (flag : Flag σ) (value : String) : Except UsageFault (Reading σ) :=
  if r.given.contains flag.name then .error (.repeated flag.title) else r.fill flag value

/-- Look at the value that has not been looked at yet. -/
def settle (r : Reading σ) : Except UsageFault (Reading σ) :=
  match r.pending with
  | none => .ok r
  | some (flag, none) => .error (.valueMissing flag.title)
  | some (flag, some value) => { r with pending := none }.give flag value

/-- An option is given, with a value attached to it or not. -/
def takeFlag (r : Reading σ) (flag : Flag σ) (attached : Option String) :
    Except UsageFault (Reading σ) := do
  let r ← r.settle
  match attached with
  | some value => r.give flag value
  | none => return { r with pending := some (flag, none) }

/-- One more demand for details. -/
def takeVerbose (r : Reading σ) : Except UsageFault (Reading σ) := do
  let r ← r.settle
  return { r with verbosity := min verbosityMax (r.verbosity + 1) }

/-- A demand that ends the reading. -/
def stop (r : Reading σ) (fault : UsageFault) : Except UsageFault (Reading σ) := do
  let _ ← r.settle
  .error fault

/-- The options without a value, by their long names, and how they are shown in messages. -/
def switches : List (String × String) :=
  [("verbose", "--verbose..."), ("help", "--help"), ("version", "--version")]

/-- A switch is given. -/
def takeSwitch (r : Reading σ) (name : String) : Except UsageFault (Reading σ) :=
  if name == "verbose" then r.takeVerbose
  else if name == "help" then r.stop .helpAsked
  else r.stop .versionAsked

/-- An argument that begins with two dashes, without them. -/
def takeLong (flags : List (Flag σ)) (r : Reading σ) (cs : List Char) :
    Except UsageFault (Reading σ) :=
  let name := String.ofList (cs.takeWhile (· != '='))
  let attached := match cs.dropWhile (· != '=') with
    | [] => none
    | _ :: value => some (String.ofList value)
  match flags.find? (·.name == name), switches.lookup name with
  | some flag, _ => r.takeFlag flag attached
  | none, some shown =>
      match attached with
      | some value => .error (.unwantedValue value shown)
      | none => r.takeSwitch name
  | none, none => .error (.unknownArgument ("--" ++ name))

/-- The letters after one dash. An option takes what follows its letter as its value. -/
def takeLetters (flags : List (Flag σ)) : Reading σ → List Char → Except UsageFault (Reading σ)
  | r, [] => .ok r
  | r, c :: cs =>
      match flags.find? (·.letter == some c) with
      | some flag =>
          r.takeFlag flag <| match cs with
            | [] => none
            | '=' :: value => some (String.ofList value)
            | value => some (String.ofList value)
      | none =>
          if c == 'v' then r.takeVerbose >>= fun r => takeLetters flags r cs
          else if c == 'h' then r.stop .helpAsked
          else if c == 'V' then r.stop .versionAsked
          else .error (.unknownArgument (String.ofList ['-', c]))

/-- An argument that is no option. -/
def takePlain (r : Reading σ) (argument : String) : Except UsageFault (Reading σ) :=
  match r.closed, r.pending with
  | false, some (flag, none) => .ok { r with pending := some (flag, some argument) }
  | _, _ => .error (.unknownArgument argument)

/-- Take one argument. -/
def take (flags : List (Flag σ)) (r : Reading σ) (argument : String) :
    Except UsageFault (Reading σ) :=
  if r.closed then r.takePlain argument
  else
    match argument.toList with
    | ['-', '-'] => .ok { r with closed := true }
    | '-' :: '-' :: cs => r.takeLong flags cs
    | '-' :: c :: cs => r.takeLetters flags (c :: cs)
    | _ => r.takePlain argument

/-- Look at the variable of an option that was not given. -/
def takeVariable (environment : List (String × String)) (r : Reading σ) (flag : Flag σ) :
    Except UsageFault (Reading σ) :=
  if r.given.contains flag.name then .ok r
  else
    match flag.envVar.bind fun v => environment.lookup v with
    | some value => r.fill flag value
    | none => .ok r

end Reading

/-- What a command line and an environment give a program: a record and the verbosity. -/
def Program.read (program : Program σ) (environment : List (String × String))
    (arguments : List String) : Except UsageFault (σ × Nat) := do
  let r ← arguments.foldlM (Reading.take program.flags) ⟨program.blank, [], 0, none, false⟩
  let r ← r.settle
  let r ← program.flags.foldlM (Reading.takeVariable environment) { r with pending := none }
  return (r.record, r.verbosity)

/-! ## Help -/

/-- What is said about the variable of an option: its name and its value. -/
def Flag.variableNote (environment : List (String × String)) (flag : Flag σ) : String :=
  match flag.envVar with
  | some v => " [env: " ++ v ++ "=" ++ (environment.lookup v).getD "" ++ "]"
  | none => ""

/-- One option in the help: how it is written, behind some blanks, and what it does. -/
structure HelpRow where
  lead : String
  title : String
  text : String

/-- How many characters the option takes in front of what it does. -/
def HelpRow.width (row : HelpRow) : Nat := row.lead.length + row.title.length

/-- The options in the help. -/
def Program.helpRows (program : Program σ) (environment : List (String × String)) :
    List HelpRow :=
  let own := program.flags.map fun flag : Flag σ =>
    let text := flag.help ++ flag.variableNote environment
    match flag.letter with
    | some c => (⟨"", String.ofList ['-', c, ',', ' '] ++ flag.title, text⟩ : HelpRow)
    | none => ⟨"    ", flag.title, text⟩
  own ++
    [ ⟨"", "-v, --verbose...", "Increase log verbosity (-v debug, -vv trace)"⟩,
      ⟨"", "-h, --help", "Print help"⟩,
      ⟨"", "-V, --version", "Print version"⟩ ]

/-- The width of a screen, in characters. -/
def screenWidth : Nat := 100

/-- Whether explanations stand on lines of their own: the options take more than two fifths of the
screen, and some explanation is longer than the rest of it. -/
def isTall (rows : List HelpRow) : Bool :=
  let widest := (rows.map (·.width)).foldl max 0
  let taken := widest + 4
  40 * screenWidth < 100 * taken && rows.any fun row => screenWidth - taken < row.text.length

/-- So many blanks. -/
def blanks (n : Nat) : String := String.ofList (List.replicate n ' ')

/-- An explanation that begins in some column; its further lines begin there too. -/
def hanging (column : Nat) (text : String) : String := text.replace "\n" ("\n" ++ blanks column)

/-- One option in the help, on a terminal. -/
def HelpRow.line (tall : Bool) (width : Nat) (row : HelpRow) : String :=
  "  " ++ row.lead ++ Text.Terminal.bold ++ row.title ++ Text.Terminal.reset
    ++ if tall then "\n" ++ blanks 10 ++ hanging 10 row.text
      else blanks (width - row.width + 2) ++ hanging (width + 4) row.text

/-- The help. -/
def Program.help (program : Program σ) (environment : List (String × String)) : String :=
  let rows := program.helpRows environment
  let width := (rows.map (·.width)).foldl max 0
  Text.Terminal.plain <| "\n".intercalate
    ([program.purpose, "", "Usage: " ++ program.name ++ " [OPTIONS]", "", "Options:"]
      ++ rows.map (HelpRow.line (isTall rows) width))
    ++ "\n"

/-- The version. -/
def Program.version (program : Program σ) : String := program.name ++ " 0.1.0\n"

end PulseBridge.Settings
