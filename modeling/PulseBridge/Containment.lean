import PulseBridge.Notice

/-!
# Containment

A piece of work may panic. Containment turns a panic into a notice, so that it costs no more than
the work that it interrupted.
-/

namespace PulseBridge

/-- What a panic carries. -/
inductive Panic where
  | text (message : String)
  /-- Something that is no text. -/
  | other
  deriving DecidableEq, Repr

/-- What a panic carries, in words. -/
def Panic.message : Panic → String
  | .text message => message
  | .other => "<non-string panic payload>"

/-- How a piece of work ends. -/
inductive Outcome (α : Type) where
  | finished (value : α)
  | panicked (panic : Panic)
  deriving DecidableEq, Repr

namespace Outcome

variable {α : Type}

/-- The value of work that finished. -/
def value? : Outcome α → Option α
  | .finished a => some a
  | .panicked _ => none

/-- What is told about the end of an operation. -/
def notices (operation : String) : Outcome α → List Notice
  | .finished _ => []
  | .panicked panic => [.contained operation panic.message]

end Outcome

end PulseBridge
