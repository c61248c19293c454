import PulseBridge.Json.Value

/-!
# Typed values out of a tree

Where several shapes are tried one after the other, the document is first built as a tree and the
shapes are then looked for in it. A `Pick` takes a typed value out of a tree or finds none; a
record is taken from an object or from a list, under the rules of `Json.Record`.
-/

namespace PulseBridge.Json

/-- Takes a typed value out of a tree. -/
abbrev Pick (α : Type) := Value → Option α

namespace Pick

/-- A text. -/
def text : Pick String
  | .text s => some s
  | _ => none

/-- A truth value. -/
def boolean : Pick Bool
  | .boolean b => some b
  | _ => none

/-- A number as a double. -/
def f64 : Pick Float
  | .number n => some n.toFloat
  | _ => none

/-- An integer that is not negative. -/
def u64 : Pick UInt64
  | .number (.integer n) => if 0 ≤ n then some (UInt64.ofNat n.toNat) else none
  | _ => none

/-- Nothing for `null`, and else what `p` takes. -/
def nullable {α : Type} (p : Pick α) : Pick (Option α)
  | .null => some none
  | v => (p v).map some

end Pick

/-- A member of a record that is taken out of a tree. -/
structure Slot (σ : Type) where
  name : String
  /-- Whether a record without the member is refused. -/
  needed : Bool
  pick : Pick (σ → σ)

/-- A member that is filled by setting it. -/
def Slot.of {σ α : Type} (name : String) (needed : Bool) (p : Pick α) (set : α → σ → σ) : Slot σ :=
  ⟨name, needed, fun v => (p v).map set⟩

variable {σ : Type}

/-- Fill slots from members. Members of other names are passed over; a repeated one is refused. -/
def fillFromMembers (slots : List (Slot σ)) :
    List (String × Value) → List String → σ → Option σ
  | [], seen, x =>
      if slots.all fun slot => !slot.needed || seen.contains slot.name then some x else none
  | (key, v) :: members, seen, x =>
      match slots.find? (·.name == key) with
      | none => fillFromMembers slots members seen x
      | some slot =>
          if seen.contains key then none
          else (slot.pick v).bind fun fill => fillFromMembers slots members (key :: seen) (fill x)

/-- Fill slots from the elements of a list, in order. -/
def fillFromElements : List (Slot σ) → List Value → σ → Option σ
  | [], [], x => some x
  | [], _ :: _, _ => none
  | slots, [], x => if slots.all (!·.needed) then some x else none
  | slot :: slots, v :: vs, x =>
      (slot.pick v).bind fun fill => fillFromElements slots vs (fill x)

/-- Take a record out of an object. -/
def Pick.members (slots : List (Slot σ)) (blank : σ) : Pick σ
  | .object ms => fillFromMembers slots ms [] blank
  | _ => none

/-- Take a record out of an object or a list. -/
def Pick.record (slots : List (Slot σ)) (blank : σ) : Pick σ
  | .list vs => fillFromElements slots vs blank
  | v => Pick.members slots blank v

end PulseBridge.Json
