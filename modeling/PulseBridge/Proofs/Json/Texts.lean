import Mathlib.Data.List.Forall2
import PulseBridge.Json.Value
import PulseBridge.Proofs.Json.Spellings

/-!
# Texts come back as they were written

Whatever a text holds, reading what `writeText` makes of it gives the text again and leaves what
follows. An object whose members were written so comes back member by member, so that nothing that
stands in a text can be taken for punctuation of the object.

## Main statements

* `readText_writeText`: what is written is read back.
* `decode_writeTexts`: an object of texts is read back as the members it was written from.
-/

namespace PulseBridge.Json

open Ascii

/-! ## Written texts -/

/-- What is written is read back, whatever follows. -/
theorem readText_writeText (s : String) (rest : Octets) :
    readText ((Octets.ofText s).flatMap escapeOctet ++ quote :: rest) = .ok (s, rest) :=
  (spells_written (Octets.ofText s)).readText rest

/-- No octet of a text is written with fewer octets. -/
theorem length_lt_writeText (s : String) : (Octets.ofText s).length < (writeText s).length := by
  have each (octets : Octets) : octets.length ≤ (octets.flatMap escapeOctet).length := by
    induction octets with
    | nil => exact Nat.le_refl 0
    | cons b octets ih =>
        have some : 0 < (escapeOctet b).length := by
          unfold escapeOctet
          split_ifs <;> exact Nat.succ_pos _
        rw [List.flatMap_cons, List.length_append, List.length_cons]
        omega
  have whole := each (Octets.ofText s)
  rw [writeText, List.length_append, List.length_cons]
  omega

theorem skipBlanks_cons {b : UInt8} (h : isBlank b = false) (rest : Octets) :
    skipBlanks (b :: rest) = b :: rest :=
  List.dropWhile_cons_of_neg (by simp [h])

theorem readValue_writeText (room : Nat) (s : String) (rest : Octets) :
    readValue room (writeText s ++ rest) = .ok (.text s, rest) := by
  have scalar : readScalar quote ((Octets.ofText s).flatMap escapeOctet ++ quote :: rest) =
      (readText ((Octets.ofText s).flatMap escapeOctet ++ quote :: rest)).map
        fun read => (.text read.1, read.2) := rfl
  rw [readText_writeText] at scalar
  rw [writeText, List.append_assoc, List.cons_append, List.singleton_append, readValue,
    skipBlanks_cons rfl]
  exact scalar

/-! ## Objects -/

/-- Whether what follows a value cannot be part of it: a blank, a comma or the end of a bracket. -/
def Follows (rest : Octets) : Prop :=
  ∀ b ∈ rest.head?, b = comma ∨ b = closeBracket ∨ b = closeBrace ∨ isBlank b = true

theorem follows_nil : Follows [] := fun _ h => nomatch h

/-- Whatever follows a value is one of these octets. -/
theorem Follows.cases {rest : Octets} (follows : Follows rest) {b : UInt8} (h : b ∈ rest.head?) :
    b ∈ [comma, closeBracket, closeBrace, space, tab, lineFeed, carriageReturn] := by
  have octet := follows b h
  simp only [isBlank, Bool.or_eq_true, beq_iff_eq] at octet
  simp only [List.mem_cons, List.not_mem_nil, or_false]
  tauto

/-- Whether a value is read from some octets, whatever may follow them. -/
def Reads {α : Type} (r : Reader α) (room : Nat) (written : Octets) (a : α) : Prop :=
  ∀ rest, Follows rest → r room (written ++ rest) = .ok (a, rest)

theorem reads_writeText (room room' : Nat) (s : String) :
    Reads (fun _ => readValue room) room' (writeText s) (.text s) :=
  fun rest _ => readValue_writeText room s rest

section Members

variable {α : Type} {r : Reader α} {room : Nat} {gathered : List (String × α)}

/-- What is written for one member of an object. -/
def writeMember (member : String × Octets) : Octets := writeText member.1 ++ colon :: member.2

theorem writeMembers_eq (members : List (String × Octets)) :
    writeMembers members =
      openBrace :: joinWithCommas (members.map writeMember) ++ [closeBrace] := rfl

theorem nextMember_first (key : String) (rest : Octets) :
    Reader.nextMember true (writeText key ++ rest) =
      .ok (some ((Octets.ofText key).flatMap escapeOctet ++ quote :: rest)) := by
  rw [writeText, List.append_assoc, List.cons_append, List.singleton_append]
  rfl

theorem nextMember_further (key : String) (rest : Octets) :
    Reader.nextMember false (comma :: (writeText key ++ rest)) =
      .ok (some ((Octets.ofText key).flatMap escapeOctet ++ quote :: rest)) := by
  rw [writeText, List.append_assoc, List.cons_append, List.singleton_append]
  rfl

/-- A member that follows is gathered. -/
theorem anyMembers_member {key : String} {written rest s clock : Octets} {v : α} {first : Bool}
    (reads : Reads r room written v) (follows : Follows rest) (tick : UInt8)
    (next : Reader.nextMember first s =
      .ok (some ((Octets.ofText key).flatMap escapeOctet ++ quote :: colon :: (written ++ rest)))) :
    anyMembers r room (tick :: clock) first gathered s =
      anyMembers r room clock false ((key, v) :: gathered) rest := by
  have colon : readColon (colon :: (written ++ rest)) = .ok (written ++ rest) := rfl
  rw [anyMembers, next]
  simp only [readText_writeText, colon, reads rest follows]

/-- What follows a member of a written object is no part of its value. -/
theorem follows_members (written : List (String × Octets)) (rest : Octets) :
    Follows (written.flatMap (fun w => comma :: writeMember w) ++ closeBrace :: rest) := by
  cases written <;> simp [Follows]

/-- The members that follow the first one are read up to the closing brace. -/
theorem anyMembers_further {written : List (String × Octets)} {values : List (String × α)}
    (reads : List.Forall₂ (fun w v => w.1 = v.1 ∧ Reads r room w.2 v.2) written values)
    {clock : Octets} (long : written.length < clock.length) (rest : Octets) :
    anyMembers r room clock false gathered
        (written.flatMap (fun w => comma :: writeMember w) ++ closeBrace :: rest) =
      .ok (gathered.reverse ++ values, rest) := by
  induction reads generalizing clock gathered with
  | nil =>
      cases clock with
      | nil => cases long
      | cons tick clock =>
          rw [List.append_nil]
          rfl
  | @cons w v written values one _ ih =>
      cases clock with
      | nil => cases long
      | cons tick clock =>
          obtain ⟨key, octets⟩ := w
          obtain ⟨rfl, hread⟩ := one
          rw [List.flatMap_cons, List.append_assoc, writeMember, List.cons_append,
            List.append_assoc, List.cons_append]
          rw [anyMembers_member hread (follows_members written rest) tick (nextMember_further ..),
            ih (Nat.lt_of_succ_lt_succ long), List.reverse_cons, List.append_assoc,
            List.singleton_append]

/-- Every member that follows the first one has at least its comma. -/
theorem length_le_further (written : List (String × Octets)) :
    written.length ≤ (written.flatMap fun w => comma :: writeMember w).length := by
  induction written with
  | nil => exact Nat.le_refl 0
  | cons w written ih =>
      simp only [List.flatMap_cons, List.length_append, List.length_cons]
      omega

end Members

theorem joinWithCommas_cons (part : Octets) (parts : List Octets) :
    joinWithCommas (part :: parts) = part ++ parts.flatMap (comma :: ·) := by
  induction parts generalizing part with
  | nil => simp [joinWithCommas]
  | cons next parts ih => simp_all [joinWithCommas, List.intercalate]

/-- Every part is no longer than the whole. -/
theorem length_le_joinWithCommas {parts : List Octets} {part : Octets} (h : part ∈ parts) :
    part.length ≤ (joinWithCommas parts).length := by
  cases parts with
  | nil => cases h
  | cons first parts =>
      rw [joinWithCommas_cons, List.length_append]
      rcases List.mem_cons.mp h with rfl | further
      · omega
      · obtain ⟨before, after, rfl⟩ := List.append_of_mem further
        simp only [List.flatMap_append, List.flatMap_cons, List.length_append, List.length_cons]
        omega

/-- The first member of a written object, and what follows it. -/
theorem joinWithCommas_members (key : String) (octets : Octets)
    (written : List (String × Octets)) (rest : Octets) :
    joinWithCommas (((key, octets) :: written).map writeMember) ++ closeBrace :: rest =
      writeText key ++ colon :: (octets ++
        (written.flatMap (fun w => comma :: writeMember w) ++ closeBrace :: rest)) := by
  rw [List.map_cons, joinWithCommas_cons, List.flatMap_map]
  simp only [List.append_assoc, List.cons_append, writeMember]

/-- The members of an object that was written are read up to its closing brace. -/
theorem anyMembers_written {α : Type} {r : Reader α} {room : Nat}
    {written : List (String × Octets)} {values : List (String × α)}
    (reads : List.Forall₂ (fun w v => w.1 = v.1 ∧ Reads r room w.2 v.2) written values)
    (rest : Octets) {s : Octets}
    (hs : joinWithCommas (written.map writeMember) ++ closeBrace :: rest = s) :
    anyMembers r room (openBrace :: s) true [] s = .ok (values, rest) := by
  cases reads with
  | nil =>
      rw [← hs]
      rfl
  | @cons w v written values one further =>
      obtain ⟨name, v⟩ := v
      obtain ⟨key, octets⟩ := w
      obtain ⟨rfl, hread⟩ := one
      rw [← hs, joinWithCommas_members, anyMembers_member hread (follows_members written rest)
        openBrace (nextMember_first ..), anyMembers_further further]
      · rfl
      · have enough := length_le_further written
        simp only [List.length_append, List.length_cons]
        omega

/-- An object is read back as the members it was written from. -/
theorem readValue_writeMembers {room : Nat} {written : List (String × Octets)}
    {values : List (String × Value)}
    (reads : List.Forall₂ (fun w v => w.1 = v.1 ∧ Reads (fun _ => readValue room) room w.2 v.2)
      written values) (rest : Octets) :
    readValue (room + 1) (writeMembers written ++ rest) = .ok (.object values, rest) := by
  have object (members : Octets) : readValue (room + 1) (openBrace :: members) =
      (anyMembers (fun _ => readValue room) room (openBrace :: members) true [] members).map
        fun read => (.object read.1, read.2) := by
    rw [readValue, skipBlanks_cons rfl]
    rfl
  rw [writeMembers_eq, List.append_assoc, List.cons_append, List.singleton_append, object,
    anyMembers_written reads rest rfl]
  rfl

/-- An object of texts is read back as what it was written from, and nothing else. -/
theorem decode_writeTexts (members : List (String × String)) :
    decode readValue (writeMembers (members.map fun (key, text) => (key, writeText text))) =
      .ok (.object (members.map fun (key, text) => (key, .text text))) := by
  have reads : List.Forall₂
      (fun (w : String × Octets) (v : String × Value) =>
        w.1 = v.1 ∧ Reads (fun _ => readValue 126) 126 w.2 v.2)
      (members.map fun (key, text) => (key, writeText text))
      (members.map fun (key, text) => (key, .text text)) := by
    rw [List.forall₂_map_left_iff, List.forall₂_map_right_iff, List.forall₂_same]
    exact fun member _ => ⟨rfl, reads_writeText _ _ _⟩
  have read := readValue_writeMembers reads []
  rw [List.append_nil] at read
  rw [decode, show depthLimit = 126 + 1 from rfl, read]
  rfl

end PulseBridge.Json
