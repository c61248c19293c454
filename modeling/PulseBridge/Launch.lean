import PulseBridge.ChatBridge
import PulseBridge.Nudger
import PulseBridge.Settings.Environment

/-!
# Launching the programs

A program reads its command line and its settings and then either stops at once, with what it
prints and its exit code, or goes to work. This module says which of the two happens, given the
environment, the files and the address to listen on; the work itself is that of the services.
-/

namespace PulseBridge

open Settings (Environment Files Nudging Relaying Program UsageFault SettingsFault)

/-- How a program ends: what it printed, the lines of its complaints, and its exit code. -/
structure Ending where
  code : UInt8
  output : String
  complaints : List String
  deriving DecidableEq, Repr

namespace Ending

/-- The lines of a text behind an indentation. Further lines of the text are indented by blanks. -/
def indented (start : String) (text : String) : List String :=
  match text.splitOn "\n" with
  | [] => []
  | first :: more =>
      (start ++ first) :: more.map (String.ofList (List.replicate start.length ' ') ++ ·)

/-- The causes of a failure, numbered if there are several. -/
def causeLines : List String → List String
  | [cause] => indented "    " cause
  | causes =>
      causes.zipIdx.flatMap fun (cause, i) => indented ("    " ++ toString i ++ ": ") cause

/-- The complaints about a failure: what failed, and on further lines why. -/
def failureLines (failure : Failure) : List String :=
  match failure.messages with
  | [] => []
  | [message] => ("Error: " ++ message).splitOn "\n"
  | message :: causes =>
      ("Error: " ++ message).splitOn "\n" ++ ["", "Caused by:"] ++ causeLines causes

/-- A program that fails after some lines of its journal. -/
def failed (told : List Entry) (failure : Failure) : Ending :=
  ⟨1, "", told.map (·.line) ++ failureLines failure⟩

/-- A program whose command line is not followed. Help and version are no complaints. -/
def usage {σ : Type} (program : Program σ) (environment : Environment) : UsageFault → Ending
  | .helpAsked => ⟨0, program.help environment, []⟩
  | .versionAsked => ⟨0, program.version, []⟩
  | fault =>
      ⟨2, "",
        [ fault.message, "", "Usage: " ++ program.name ++ " [OPTIONS]", "",
          "For more information, try '--help'." ]⟩

end Ending

/-- The environment of a program, with what a file adds to it. -/
def fullEnvironment (environment : Environment) : Option String → Environment
  | some text => environment.load (Settings.linesOf text)
  | none => environment

/-- The settings of the nudger, unless it stops at once. -/
def launchNudger (files : Files) (environment : Environment) (arguments : List String) :
    Except Ending Nudging := do
  let (given, _) ←
    (Nudging.program.read environment arguments).mapError (.usage Nudging.program environment)
  (Nudging.resolve files given).mapError fun fault => .failed [] fault.failure

/-- Why an address cannot be listened on. -/
inductive ListenFault where
  | inUse
  | notHere
  | forbidden
  | other (reason : String)
  deriving DecidableEq, Repr

/-- The reason in words. -/
def ListenFault.message : ListenFault → String
  | .inUse => "Address already in use (os error 98)"
  | .notHere => "Cannot assign requested address (os error 99)"
  | .forbidden => "Permission denied (os error 13)"
  | .other reason => reason

/-- The settings of the bridge, unless it stops at once. -/
def launchBridge (files : Files) (environment : Environment) (arguments : List String) :
    Except Ending Relaying := do
  let (given, _) ←
    (Relaying.program.read environment arguments).mapError (.usage Relaying.program environment)
  (Relaying.resolve files given).mapError fun fault => .failed [] fault.failure

/-- What is told once the relay listens, unless it cannot. -/
def openBridge (settings : Relaying) (listening : Except ListenFault Net.SocketAddress) :
    Except Ending (List Entry) :=
  let told := ChatBridge.opening settings
  match listening with
  | .ok address => .ok (told ++ [ChatBridge.listening address])
  | .error fault => .error (.failed told (.of fault.message))

end PulseBridge
