import PulseBridge.Text.Blank

/-!
# Chat commands

Someone in the chat may vote on the alerts of a check: the address `radalert:`, the name of the
check in single or double quotes, and `+1` or `-1`. Blanks may stand around each of them. Every
other text is answered with a help text.
-/

namespace PulseBridge

/-- What a voter thinks of an alert. -/
inductive Verdict where
  | useful
  | noise
  deriving DecidableEq, Repr

/-- The verdict as a number. -/
def Verdict.magnitude : Verdict → Int
  | .useful => 1
  | .noise => -1

/-- The verdict with its sign. -/
def Verdict.text : Verdict → String
  | .useful => "+1"
  | .noise => "-1"

/-- A command from the chat. -/
inductive ChatCommand where
  | vote (target : String) (verdict : Verdict)
  | help
  deriving DecidableEq, Repr

namespace ChatCommand

/-- The word that addresses a command. -/
def address : List Char := "radalert:".toList

/-- The text without the blanks at its front. -/
def skipBlanks (cs : List Char) : List Char := cs.dropWhile Text.isBlank

/-- What stands after `expected`, if the text begins with it. -/
def after? (expected cs : List Char) : Option (List Char) :=
  if expected.isPrefixOf cs then some (cs.drop expected.length) else none

/-- A quoted text that is not empty, and what follows it. -/
def quoted? : List Char → Option (List Char × List Char)
  | [] => none
  | quote :: cs =>
      if quote != '\'' && quote != '"' then none
      else
        match cs.takeWhile (· != quote), cs.dropWhile (· != quote) with
        | c :: body, _ :: rest => some (c :: body, rest)
        | _, _ => none

/-- A verdict and what follows it. -/
def verdict? : List Char → Option (Verdict × List Char)
  | '+' :: '1' :: rest => some (.useful, rest)
  | '-' :: '1' :: rest => some (.noise, rest)
  | _ => none

/-- The quoted target and the verdict of a vote. -/
def ballot? (cs : List Char) : Option (List Char × Verdict) := do
  let cs ← after? address (skipBlanks cs)
  let (target, cs) ← quoted? (skipBlanks cs)
  let (verdict, cs) ← verdict? (skipBlanks cs)
  if (skipBlanks cs).isEmpty then some (target, verdict) else none

/-- The command that a text is. -/
def ofText (text : String) : ChatCommand :=
  match ballot? text.toList with
  | some (target, verdict) =>
      match Text.trimChars target with
      | [] => .help
      | trimmed => .vote (String.ofList trimmed) verdict
  | none => .help

/-- The help text. -/
def helpText : String :=
  "\n".intercalate
    [ "usage: radalert: <command> [<args>]",
      "",
      "Available commands:",
      "   '<check>' +1    vote that an alert on <check> was useful",
      "   '<check>' -1    vote that an alert on <check> was noise",
      "   help            show this message" ]

/-- The answer to a command. -/
def reply : ChatCommand → String
  | .vote target verdict => "You voted " ++ verdict.text ++ " on '" ++ target ++ "'"
  | .help => helpText

end ChatCommand

end PulseBridge
