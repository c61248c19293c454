import PulseBridge.Proofs.Json.Fields

/-!
# Members as they stand in a document

An object can be taken apart without saying what its values are: each member is then its name and
the octets of its value, which is passed over as the value of an unknown field is. Texts, lists of
texts and whatever else passes over so are found as they were written, so an object that was written
member by member has these members and no others.

## Main definitions

* `Reader.raw`, `Reader.object`: a value as its octets, an object as its members.
* `Passes`: octets that are passed over as one value.

## Main statements

* `decode_object`: a written object has the members it was written from.
-/

namespace PulseBridge.Json

open Ascii

/-! ## Readers -/

/-- Read a value as the octets that it takes up. -/
def Reader.raw : Reader Octets := fun _ s =>
  (skipValue (skipBlanks s)).map fun rest =>
    ((skipBlanks s).take ((skipBlanks s).length - rest.length), rest)

/-- Read an object as its members, in the order of the document. -/
def Reader.object {α : Type} (r : Reader α) : Reader (List (String × α)) := fun room s =>
  match skipBlanks s with
  | [] => .error ⟨.endInValue, .peeked []⟩
  | openBrace :: rest =>
      match room with
      | 0 => .error ⟨.nestedTooDeep, .peeked (openBrace :: rest)⟩
      | room + 1 => anyMembers r room (openBrace :: rest) true [] rest
  | b :: rest => .error (refuse (.record "object") b rest)

/-- An object that was written has the members it was written from, in this order and no others. -/
theorem decode_object {α : Type} {r : Reader α} {written : List (String × Octets)}
    {values : List (String × α)}
    (reads : List.Forall₂ (fun w v => w.1 = v.1 ∧ Reads r 126 w.2 v.2) written values) :
    decode (Reader.object r) (writeMembers written) = .ok values := by
  apply decode_of_reads
  intro rest _
  rw [writeMembers_eq, List.append_assoc, List.cons_append, List.singleton_append, Reader.object,
    skipBlanks_cons rfl]
  exact anyMembers_written reads rest rfl

/-! ## Values that are passed over -/

/-- Octets that are passed over as one value, whatever may follow them. -/
structure Passes (written : Octets) : Prop where
  begins : ∃ b tail, written = b :: tail ∧ isBlank b = false
  skip : ∀ rest, Follows rest → skipValue (written ++ rest) = .ok rest

/-- What is passed over as a value is read as it stands. -/
theorem Passes.reads_raw {written : Octets} (h : Passes written) (room : Nat) :
    Reads Reader.raw room written written := by
  intro rest follows
  have skipped : skipBlanks (written ++ rest) = written ++ rest := by
    obtain ⟨b, tail, rfl, notBlank⟩ := h.begins
    exact skipBlanks_cons notBlank (tail ++ rest)
  have taken : (written ++ rest).take ((written ++ rest).length - rest.length) = written := by
    rw [List.length_append, Nat.add_sub_cancel]
    exact List.take_left
  rw [Reader.raw, skipped, h.skip rest follows]
  exact congrArg (fun taken => Except.ok (taken, rest)) taken

/-- Octets that are passed over as a value without brackets of its own. -/
def IsLeaf (written : Octets) : Prop :=
  ∃ b tail, written = b :: tail ∧ isBlank b = false ∧ b ∉ [openBracket, openBrace, closeBracket] ∧
    ∀ rest, Follows rest → skipLeaf b (tail ++ rest) = .ok rest

/-- Passing over a leaf leads to what follows it. -/
theorem skipRounds_leaf {written : Octets} (leaf : IsLeaf written) (tick : UInt8) (clock : Octets)
    (stack : List Bracket) {rest : Octets} (follows : Follows rest) :
    skipRounds (tick :: clock) .value stack (written ++ rest) =
      if stack.isEmpty then .ok rest else skipRounds clock .next stack rest := by
  obtain ⟨b, tail, rfl, notBlank, noBracket, skip⟩ := leaf
  rw [List.cons_append, skipRounds.eq_3, skipBlanks_cons notBlank]
  split
  · next h => cases h
  · next h => exact absurd (by simp [(List.cons.inj h).1]) noBracket
  · next h => exact absurd (by simp [(List.cons.inj h).1]) noBracket
  · next h =>
      cases h
      rw [skip rest follows]

theorem IsLeaf.passes {written : Octets} (leaf : IsLeaf written) : Passes written where
  begins := by
    obtain ⟨b, tail, rfl, notBlank, -⟩ := leaf
    exact ⟨b, tail, rfl, notBlank⟩
  skip := fun _ follows => skipRounds_leaf leaf comma _ [] follows

/-- A written text is passed over. -/
theorem isLeaf_writeText (s : String) : IsLeaf (writeText s) := by
  refine ⟨quote, (Octets.ofText s).flatMap escapeOctet ++ [quote], rfl, rfl, by decide, ?_⟩
  intro rest _
  rw [List.append_assoc, List.singleton_append]
  exact (spells_written _).isQuotable.skipText rest

end PulseBridge.Json
