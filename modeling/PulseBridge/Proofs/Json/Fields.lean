import PulseBridge.Proofs.Json.Texts

/-!
# Records come back as they were written

A record whose members were written one after the other, each by a name of its own, is read by
filling its fields in that order. Members may be left out as long as no field is needed. Lists are
read element by element, and a value that may be `null` is read as it is unless it begins like that
word.

## Main statements

* `Record.reads_written`: a written record is read by filling the fields that were written.
* `reads_list`: a written list is read as the list of what its elements are read as.
-/

namespace PulseBridge.Json

open Ascii

/-! ## Texts, and values that may be absent -/

theorem Reads.map {α β : Type} {r : Reader α} {room : Nat} {written : Octets} {a : α}
    (h : Reads r room written a) (f : α → β) : Reads (r.map f) room written (f a) := by
  intro rest follows
  rw [Reader.map, h rest follows]

/-- A text is read back. -/
theorem reads_text (room : Nat) (s : String) : Reads Reader.text room (writeText s) s := by
  intro rest _
  rw [writeText, List.append_assoc, List.cons_append, List.singleton_append, Reader.text,
    skipBlanks_cons rfl]
  exact readText_writeText s rest

/-- A value that does not begin like `null` is read as it is. -/
theorem reads_nullable {α : Type} {r : Reader α} {room : Nat} {b : UInt8} {tail : Octets} {a : α}
    (h : Reads r room (b :: tail) a) (notBlank : isBlank b = false) (notNull : b ≠ lowerN) :
    Reads (Reader.nullable r) room (b :: tail) (some a) := by
  intro rest follows
  have read := h.map some rest follows
  rw [List.cons_append] at read ⊢
  rw [Reader.nullable, skipBlanks_cons notBlank]
  split
  · next same => exact absurd (List.cons.inj same).1 notNull
  · exact read

/-! ## Lists -/

/-- Octets that begin like an element of a list, with no blank and not with its end. -/
def BeginsElement (written : Octets) : Prop :=
  ∃ b tail, written = b :: tail ∧ isBlank b = false ∧ b ≠ closeBracket

theorem beginsElement_writeText (s : String) : BeginsElement (writeText s) :=
  ⟨quote, _, rfl, rfl, by decide⟩

theorem nextElement_first {written : Octets} (begins : BeginsElement written) (rest : Octets) :
    Reader.nextElement true (written ++ rest) = .ok (some (written ++ rest)) := by
  obtain ⟨b, tail, rfl, notBlank, notEnd⟩ := begins
  rw [List.cons_append, Reader.nextElement, skipBlanks_cons notBlank]
  split
  · next h => cases h
  · next h => exact absurd (List.cons.inj h).1 notEnd
  · next h =>
      cases h
      rfl

theorem nextElement_further {written : Octets} (begins : BeginsElement written) (rest : Octets) :
    Reader.nextElement false (comma :: (written ++ rest)) = .ok (some (written ++ rest)) := by
  obtain ⟨b, tail, rfl, notBlank, notEnd⟩ := begins
  have skipped : skipBlanks (b :: (tail ++ rest)) = b :: (tail ++ rest) :=
    skipBlanks_cons notBlank _
  rw [Reader.nextElement, skipBlanks_cons rfl]
  split
  · next h => cases h
  · next h => exact absurd (List.cons.inj h).1 (by decide)
  · next h =>
      obtain ⟨rfl, rfl⟩ := List.cons.inj h
      rw [if_neg (by decide), if_pos (by decide), List.cons_append, skipped]
      split
      · next h => cases h
      · next h => exact absurd (List.cons.inj h).1 notEnd
      · rfl

section Elements

variable {α : Type} {r : Reader α} {room : Nat} {gathered : List α}

/-- An element that follows is gathered. -/
theorem elements_element {written rest s clock : Octets} {a : α} {first : Bool}
    (reads : Reads r room written a) (follows : Follows rest) (tick : UInt8)
    (next : Reader.nextElement first s = .ok (some (written ++ rest))) :
    Reader.elements r room (tick :: clock) first gathered s =
      Reader.elements r room clock false (a :: gathered) rest := by
  rw [Reader.elements, next]
  simp only [reads rest follows]

/-- What follows an element of a written list. -/
theorem follows_further (written : List Octets) (rest : Octets) :
    Follows (written.flatMap (comma :: ·) ++ closeBracket :: rest) := by
  cases written <;> simp [Follows]

/-- The elements that follow the first one are read up to the closing bracket. -/
theorem elements_further {written : List Octets} {values : List α}
    (reads : List.Forall₂ (fun w a => BeginsElement w ∧ Reads r room w a) written values)
    {clock : Octets} (long : written.length < clock.length) (rest : Octets) :
    Reader.elements r room clock false gathered
        (written.flatMap (comma :: ·) ++ closeBracket :: rest) =
      .ok (gathered.reverse ++ values, rest) := by
  induction reads generalizing clock gathered with
  | nil =>
      cases clock with
      | nil => cases long
      | cons tick clock =>
          rw [List.append_nil]
          rfl
  | @cons w a written values one _ ih =>
      cases clock with
      | nil => cases long
      | cons tick clock =>
          rw [List.flatMap_cons, List.cons_append, List.cons_append, List.append_assoc,
            elements_element one.2 (follows_further written rest) tick
              (nextElement_further one.1 _),
            ih (Nat.lt_of_succ_lt_succ long), List.reverse_cons, List.append_assoc,
            List.singleton_append]

end Elements

/-- Every element that follows the first one has at least its comma. -/
theorem length_le_flatMap_comma (written : List Octets) :
    written.length ≤ (written.flatMap (comma :: ·)).length := by
  induction written with
  | nil => exact Nat.le_refl 0
  | cons w written ih =>
      simp only [List.flatMap_cons, List.length_append, List.length_cons]
      omega

/-- A list is read back element by element. -/
theorem reads_list {α : Type} {r : Reader α} {room : Nat} {written : List Octets} {values : List α}
    (reads : List.Forall₂ (fun w a => BeginsElement w ∧ Reads r room w a) written values) :
    Reads (Reader.list r) (room + 1) (writeList written) values := by
  intro rest _
  rw [writeList, List.append_assoc, List.cons_append, List.singleton_append, Reader.list,
    skipBlanks_cons rfl]
  change Reader.elements r room (openBracket :: _) true [] _ = _
  cases reads with
  | nil => rfl
  | @cons w a written values one further =>
      rw [joinWithCommas_cons, List.append_assoc,
        elements_element one.2 (follows_further written rest) openBracket
          (nextElement_first one.1 _),
        elements_further further]
      · rfl
      · have enough := length_le_flatMap_comma written
        simp only [List.length_append, List.length_cons]
        omega

/-- A list of texts is read back. -/
theorem reads_texts (room : Nat) (texts : List String) :
    Reads (Reader.list Reader.text) (room + 1) (writeList (texts.map writeText)) texts := by
  apply reads_list
  rw [List.forall₂_map_left_iff, List.forall₂_same]
  exact fun s _ => ⟨beginsElement_writeText s, reads_text room s⟩

/-! ## Records -/

namespace Record

variable {σ : Type} {r : Record σ} {room : Nat}

/-- Whether a written member fills the field of its name, and how. -/
def Fills (r : Record σ) (room : Nat) (written : String × Octets) (fill : σ → σ) : Prop :=
  ∃ f, r.field? written.1 = some f ∧ f.name = written.1 ∧ Reads f.read room written.2 fill

/-- A member that fills a field set to what a reader reads. -/
theorem fills_of {α : Type} {name : String} {aliases : List String} {needed : Bool}
    {reader : Reader α} {set : α → σ → σ} {octets : Octets} {a : α}
    (found : r.field? name = some (.of name aliases needed reader set))
    (reads : Reads reader room octets a) {fill : σ → σ} (filling : set a = fill) :
    r.Fills room (name, octets) fill :=
  ⟨_, found, rfl, filling ▸ reads.map set⟩

/-- A record after some of its fields have been filled, first to last. -/
def filled (fills : List (σ → σ)) (value : σ) : σ := fills.foldl (fun value fill => fill value) value

/-- A member whose field has not been seen fills it. -/
theorem members_member {key : String} {written rest s clock : Octets} {fill : σ → σ} {first : Bool}
    {seen : List String} {value : σ} (fills : r.Fills room (key, written) fill)
    (unseen : key ∉ seen) (follows : Follows rest) (tick : UInt8)
    (next : Reader.nextMember first s =
      .ok (some ((Octets.ofText key).flatMap escapeOctet ++ quote :: colon :: (written ++ rest)))) :
    r.members room (tick :: clock) first seen value s =
      r.members room clock false (key :: seen) (fill value) rest := by
  obtain ⟨f, found, rfl, reads⟩ := fills
  have colon : readColon (colon :: (written ++ rest)) = .ok (written ++ rest) := rfl
  have fresh : seen.contains f.name = false := by simpa using unseen
  rw [members, next]
  simp only [readText_writeText, found, fresh, colon, reads rest follows, Bool.false_eq_true,
    if_false]

/-- The members that follow the first one fill their fields up to the closing brace. -/
theorem members_further {written : List (String × Octets)} {fills : List (σ → σ)}
    (each : List.Forall₂ (r.Fills room) written fills) {clock : Octets}
    (long : written.length < clock.length) {seen : List String}
    (unseen : ∀ name ∈ written.map Prod.fst, name ∉ seen)
    (distinct : (written.map Prod.fst).Nodup)
    (complete : r.absent? ((written.map Prod.fst).reverse ++ seen) = none) (value : σ)
    (rest : Octets) :
    r.members room clock false seen value
        (written.flatMap (fun w => comma :: writeMember w) ++ closeBrace :: rest) =
      .ok (filled fills value, rest) := by
  induction each generalizing clock seen value with
  | nil =>
      cases clock with
      | nil => cases long
      | cons tick clock =>
          have ended : Reader.nextMember false (closeBrace :: rest) = .ok none := rfl
          have complete : r.absent? seen = none := complete
          have closed : Reader.endObject (closeBrace :: rest) = .ok rest := rfl
          rw [List.flatMap_nil, List.nil_append, members, ended]
          simp only [complete, closed]
          rfl
  | @cons w fill written fills one _ ih =>
      cases clock with
      | nil => cases long
      | cons tick clock =>
          obtain ⟨key, octets⟩ := w
          obtain ⟨notAgain, distinct⟩ := List.nodup_cons.mp distinct
          -- The clock loses an octet with each member, which takes up more than one.
          rw [List.flatMap_cons, List.append_assoc, writeMember, List.cons_append,
            List.append_assoc, List.cons_append,
            members_member one (unseen key List.mem_cons_self) (follows_members written rest)
              tick (nextMember_further ..)]
          apply ih (Nat.lt_of_succ_lt_succ long) _ distinct
          · simpa using complete
          · intro name hname
            rw [List.mem_cons, not_or]
            exact ⟨fun same => notAgain (same ▸ hname), unseen name (List.mem_cons_of_mem key hname)⟩

/-- A written record is read by filling the fields that were written, in their order. -/
theorem reads_written {written : List (String × Octets)} {fills : List (σ → σ)}
    (each : List.Forall₂ (r.Fills room) written fills) (distinct : (written.map Prod.fst).Nodup)
    (complete : r.absent? (written.map Prod.fst).reverse = none) :
    Reads r.reader (room + 1) (writeMembers written) (filled fills r.blank) := by
  intro rest _
  rw [writeMembers_eq, List.append_assoc, List.cons_append, List.singleton_append, reader,
    skipBlanks_cons rfl]
  change (r.members room (openBrace :: _) true [] r.blank _).mapError _ = _
  cases each with
  | nil =>
      have ended : Reader.nextMember true (closeBrace :: rest) = .ok none := rfl
      have complete : r.absent? [] = none := complete
      have closed : Reader.endObject (closeBrace :: rest) = .ok rest := rfl
      change (r.members room (openBrace :: closeBrace :: rest) true [] r.blank
        (closeBrace :: rest)).mapError _ = _
      rw [members, ended]
      simp only [complete, closed]
      rfl
  | @cons w fill written fills one further =>
      obtain ⟨key, octets⟩ := w
      obtain ⟨notAgain, distinct⟩ := List.nodup_cons.mp distinct
      rw [joinWithCommas_members, members_member one List.not_mem_nil (follows_members written rest)
        openBrace (nextMember_first ..), members_further further]
      · rfl
      · have enough := length_le_further written
        simp only [List.length_append, List.length_cons]
        omega
      · intro name hname
        rw [List.mem_singleton]
        exact fun same => notAgain (same ▸ hname)
      · exact distinct
      · simpa using complete

end Record

/-- What is read of the whole of a document is decoded. -/
theorem decode_of_reads {α : Type} {r : Reader α} {document : Octets} {a : α}
    (h : Reads r depthLimit document a) : decode r document = .ok a := by
  have read := h [] (by simp [Follows])
  rw [List.append_nil] at read
  rw [decode, read]
  rfl

end PulseBridge.Json
