import PulseBridge.Octets

/-!
# What has arrived

A message is read again and again as more of it arrives. A reader says whether more must come,
whether what came can be no message, or what has arrived.
-/

namespace PulseBridge.Http

/-- What has arrived, as far as it can be told. -/
inductive Arrival (ε α : Type) where
  /-- More must come. -/
  | unfinished
  | refused (fault : ε)
  | arrived (value : α)
  deriving Repr

namespace Arrival

variable {ε δ α β : Type}

/-- Go on with what has arrived. -/
def andThen (x : Arrival ε α) (f : α → Arrival ε β) : Arrival ε β :=
  match x with
  | .unfinished => .unfinished
  | .refused fault => .refused fault
  | .arrived a => f a

/-- The same in terms of another kind of fault. -/
def mapFault (x : Arrival ε α) (f : ε → δ) : Arrival δ α :=
  match x with
  | .unfinished => .unfinished
  | .refused fault => .refused (f fault)
  | .arrived a => .arrived a

/-- Want more, which is a fault if nothing more comes. -/
def wanting (ended : Bool) (fault : ε) : Arrival ε α :=
  if ended then .refused fault else .unfinished

end Arrival

end PulseBridge.Http
