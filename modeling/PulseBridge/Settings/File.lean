import PulseBridge.Failure
import PulseBridge.Json.Record

/-!
# Settings from files

Settings may come from a file in JSON. This module says how files are read and why settings are
refused: the file cannot be read, it is not of the right shape, or what all sources together give
breaks a rule.
-/

namespace PulseBridge.Settings

/-- How long a call may take. -/
def usualTimeout : UInt64 := 5

/-- Why a file cannot be read. -/
inductive ReadFault where
  | absent
  | isDirectory
  /-- A step of the path leads through something that is no directory. -/
  | notDirectory
  | badName
  /-- The path, or a step of it, is longer than the system allows. -/
  | nameTooLong
  | notText
  | other (reason : String)
  deriving DecidableEq, Repr

/-- The reason in words. -/
def ReadFault.message : ReadFault → String
  | .absent => "No such file or directory (os error 2)"
  | .isDirectory => "Is a directory (os error 21)"
  | .notDirectory => "Not a directory (os error 20)"
  | .badName => "file name contained an unexpected NUL byte"
  | .nameTooLong => "File name too long (os error 36)"
  | .notText => "stream did not contain valid UTF-8"
  | .other reason => reason

/-- What is found at each path. -/
abbrev Files := (path : String) → Except ReadFault Octets

/-- The octets of a file that must be text. -/
def Files.readText (files : Files) (path : String) : Except ReadFault Octets := do
  let content ← files path
  if (Octets.text? content).isSome then return content else throw .notText

/-- The rules that settings must keep. -/
inductive Rule where
  | intervalsNotZero
  | timeoutsNotZero
  | roomForHeartbeats
  | pollsAllowed
  | timeoutNotZero
  | roomForAlerts
  deriving DecidableEq, Repr

/-- What is said when a rule is broken. -/
def Rule.message : Rule → String
  | .intervalsNotZero => "poll and refresh intervals must be greater than zero"
  | .timeoutsNotZero => "timeouts must be greater than zero"
  | .roomForHeartbeats => "sample channel capacity must be at least 1"
  | .pollsAllowed => "max_concurrent_polls must be at least 1 when set"
  | .timeoutNotZero => "timeout must be greater than zero"
  | .roomForAlerts => "alert channel capacity must be at least 1"

/-- Why settings are refused. -/
inductive SettingsFault where
  | unreadable (path : String) (fault : ReadFault)
  | malformed (path : String) (error : Json.Error)
  | broken (rule : Rule)

/-- The refusal as a chain of messages. -/
def SettingsFault.failure : SettingsFault → Failure
  | .unreadable path fault =>
      (Failure.of fault.message).during ("failed to read config file: " ++ path)
  | .malformed path error =>
      (Failure.of error.message).during ("invalid configuration file: " ++ path)
  | .broken rule => .of rule.message

/-- A record from a file, or, if there is none, the usual settings. -/
def fromFile {σ : Type} (usual : σ) (record : Json.Record σ) (files : Files) :
    Option String → Except SettingsFault σ
  | none => .ok usual
  | some path =>
      match files.readText path with
      | .error fault => .error (.unreadable path fault)
      | .ok content => (Json.decode record.reader content).mapError (.malformed path)

/-- The first rule of a list that is not kept. -/
def firstBroken : List (Rule × Bool) → Option Rule
  | [] => none
  | (rule, kept) :: rules => if kept then firstBroken rules else some rule

/-- Settings, unless they break a rule. -/
def require {σ : Type} (rules : List (Rule × Bool)) (settings : σ) : Except SettingsFault σ :=
  match firstBroken rules with
  | some rule => .error (.broken rule)
  | none => .ok settings

end PulseBridge.Settings
