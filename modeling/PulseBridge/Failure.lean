import PulseBridge.Http.CallError

/-!
# Failures

A failure is a chain of messages: what was attempted, then why that failed, down to the first
cause.
-/

namespace PulseBridge

/-- A chain of messages, outermost first. -/
structure Failure where
  messages : List String
  deriving DecidableEq, Repr

namespace Failure

/-- A failure of one message. -/
def of (message : String) : Failure := ⟨[message]⟩

/-- The failure of a call. -/
def ofCall (e : Http.CallError) : Failure := ⟨e.chain⟩

/-- The failure as the cause of a failure to do something greater. -/
def during (attempt : String) (failure : Failure) : Failure := ⟨attempt :: failure.messages⟩

/-- The whole chain in one line. -/
def text (failure : Failure) : String := ": ".intercalate failure.messages

/-- What happens when someone commands what has stopped already. -/
def unreachable (command : String) : Failure :=
  ⟨["failed to send " ++ command ++ " command", "channel closed"]⟩

end Failure

end PulseBridge
