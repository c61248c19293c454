import PulseBridge.Notice
import PulseBridge.Text.Quoted

/-!
# The journal of a service

A service writes down what it tells: how grave it is, which part of the program speaks, in the
course of which work, and what is known of that work. Every entry becomes one line.
-/

namespace PulseBridge

/-- The work that is going on, outermost first, and what is known of it. -/
structure Scope where
  spans : List String
  facts : List (String × String)
  deriving DecidableEq, Repr

namespace Scope

/-- No particular work. -/
def none : Scope := ⟨[], []⟩

/-- The endless work of a part of the program. -/
def run (name value : String) : Scope := ⟨["run"], [(name, value)]⟩

/-- A piece of work within some other. -/
def within (outer : Scope) (span : String) (facts : List (String × String)) : Scope :=
  ⟨outer.spans ++ [span], outer.facts ++ facts⟩

/-- The spans in a line. -/
def opening (scope : Scope) : String :=
  if scope.spans.isEmpty then "" else ":".intercalate scope.spans ++ ": "

/-- The facts in a line. -/
def closing (scope : Scope) : String :=
  String.join (scope.facts.map fun (name, value) => " " ++ name ++ "=" ++ value)

end Scope

/-- One thing that was told. -/
structure Entry where
  level : Level
  /-- The part of the program that speaks. -/
  speaker : String
  scope : Scope
  message : String
  deriving DecidableEq, Repr

namespace Entry

/-- Whether a character of ASCII is a command to a terminal. -/
def isCommand (c : Char) : Bool := [0x07, 0x08, 0x0c, 0x1b, 0x7f].contains c.toNat

/-- A character of a message. What a terminal would take for a command is written as an escape. -/
def visibleChar (c : Char) : List Char :=
  if isCommand c then ['\\', 'x', Nat.digitChar (c.toNat / 16), Nat.digitChar (c.toNat % 16)]
  else if 0x80 ≤ c.toNat && c.toNat ≤ 0x9f then Text.codePointEscape c
  else [c]

/-- A message that is no command to a terminal. -/
def visible (message : String) : String := String.ofList (message.toList.flatMap visibleChar)

/-- The entry in one line. -/
def line (entry : Entry) : String :=
  entry.level.name ++ " " ++ entry.scope.opening ++ entry.speaker ++ ": " ++ visible entry.message
    ++ entry.scope.closing

/-- Something that a program tells about itself. -/
def told (speaker message : String) : Entry := ⟨.info, speaker, .none, message⟩

end Entry

namespace Notice

/-- The part of the program that a notice comes from. -/
def speaker : Notice → String
  | .contained .. => "radalert::actors::supervisor"
  | .deliveryFailed .. | .courierGone => "radalert::actors::dispatcher"
  | .refreshFailed _ | .undecodableChecks _ | .checkDropped _ | .checksKept .. =>
      "radalert::actors::refresher"
  | .pollFailed .. | .heartbeatsDropped _ => "radalert::actors::scheduler"
  | .alertRefused _ | .alertSuppressed .. => "radalert::api::routes::pacemaker"
  | .intakeFull | .intakeClosed _ | .waitingAlertLost => "radalert::api::state"
  | .lookupFailed _ | .lookupTimedOut => "radalert::slack"
  | .noMasterKey | .noWebhook => "radalert::config"

/-- The notice as an entry, told in the course of some work. -/
def entry (scope : Scope) (notice : Notice) : Entry :=
  ⟨notice.level, notice.speaker, scope, notice.message⟩

end Notice

end PulseBridge
