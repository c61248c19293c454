import PulseBridge.Proofs.Json.Passed

/-!
# What is read is a value

A reader takes nothing off the front of a document but what spells a value of the grammar, whatever
it makes of it. So whatever can be said of every spelling of a tree can be said of every document
from which something is decoded.

## Main definitions

* `Sound`: whatever a reader takes is a value.

## Main statements

* `Record.sound_reader`, `Sound.list`: records and lists of them.
* `exists_spelled_of_decode`: a document from which something is decoded spells a tree.
-/

namespace PulseBridge.Json

open Ascii

variable {α β σ : Type} {s rest : Octets}

/-- Whether whatever a reader takes off the front is a value. -/
def Sound (r : Reader α) : Prop :=
  ∀ room s a rest, r room s = .ok (a, rest) → BeginsWithValue s rest

theorem Sound.map {r : Reader α} (h : Sound r) (f : α → β) : Sound (r.map f) := by
  intro room s b rest read
  rw [Reader.map] at read
  split at read
  · next a rest' first =>
      cases read
      exact h room s a _ first
  · cases read

theorem ok_of_map_ok {read : Except Fault α} {f : α → β} {b : β} (h : read.map f = .ok b) :
    ∃ a, read = .ok a ∧ f a = b := by
  cases read with
  | error fault => cases h
  | ok a =>
      cases h
      exact ⟨a, rfl, rfl⟩

theorem ok_of_mapError_ok {read : Except Fault α} {f : Fault → Fault} {a : α}
    (h : read.mapError f = .ok a) : read = .ok a := by
  cases read with
  | error fault => cases h
  | ok b =>
      cases h
      rfl

theorem ok_of_bind_ok {read : Except Fault α} {f : α → Except Fault β} {b : β}
    (h : read >>= f = .ok b) : ∃ a, read = .ok a ∧ f a = .ok b := by
  cases read with
  | error fault => cases h
  | ok a => exact ⟨a, rfl, h⟩

/-! ## Scalars -/

section Scalars

variable {b : UInt8} {tail : Octets}

theorem beginsWithValue_of_readText {text : String} (h : readText tail = .ok (text, rest)) :
    BeginsWithValue (quote :: tail) rest := by
  obtain ⟨literal, -, rfl⟩ := exists_quotable_of_readText h
  have leads := leads_of_spells literal.spells rest
  rw [Quotable.inQuotes, List.cons_append, List.append_assoc] at leads
  exact ⟨_, leads⟩

theorem beginsWithValue_of_readNumber {n : Number} (h : readNumber false s = .ok (n, rest)) :
    BeginsWithValue s rest := by
  obtain ⟨number, isUnsigned, rfl⟩ := exists_unsigned_of_readNumber h
  exact ⟨_, leads_of_spells (Numeral.spells ⟨number, .unsigned isUnsigned⟩) rest⟩

theorem beginsWithValue_of_readNumber_minus {n : Number} (h : readNumber true s = .ok (n, rest)) :
    BeginsWithValue (minus :: s) rest := by
  obtain ⟨number, isUnsigned, rfl⟩ := exists_unsigned_of_readNumber h
  exact ⟨_, leads_of_spells (Numeral.spells ⟨_, .negative isUnsigned⟩) rest⟩

/-- The letters of a word after the first one. -/
theorem leads_of_readLetters {t : Tree} {letters : Octets} (spells : t.Spells (b :: letters))
    (h : readLetters letters tail = .ok rest) : t.Leads (b :: tail) rest := by
  rw [readLetters_ok h]
  exact leads_of_spells spells rest

theorem sound_text : Sound Reader.text := by
  intro room s text rest read
  rw [Reader.text] at read
  split at read
  · cases read
  · next b tail skipped =>
      split_ifs at read with hquote
      obtain rfl := beq_iff_eq.mp hquote
      exact (beginsWithValue_of_readText read).of_skipBlanks skipped

theorem sound_number (wanted : Shape) (accept : Number → Except Cause α) :
    Sound (Reader.number wanted accept) := by
  intro room s a rest read
  rw [Reader.number] at read
  split at read
  · cases read
  · next b tail skipped =>
      dsimp only at read
      split_ifs at read with hminus digit
      · split at read
        · cases read
        · next n rest' number =>
            split at read
            · cases read
              obtain rfl := beq_iff_eq.mp hminus
              exact (beginsWithValue_of_readNumber_minus number).of_skipBlanks skipped
            · cases read
      · split at read
        · cases read
        · next n rest' number =>
            split at read
            · cases read
              exact (beginsWithValue_of_readNumber number).of_skipBlanks skipped
            · cases read

theorem Sound.nullable {r : Reader α} (h : Sound r) : Sound (Reader.nullable r) := by
  intro room s a rest read
  rw [Reader.nullable] at read
  split at read
  · next tail skipped =>
      obtain ⟨rest', letters, same⟩ := ok_of_map_ok read
      cases same
      have leads := leads_of_readLetters (show Tree.null.Spells _ from rfl) letters
      exact ⟨.null, leads.of_skipBlanks skipped⟩
  · exact h.map some room s a rest read

end Scalars

/-! ## Lists -/

/-- Another element is led by blanks, and by a comma unless it is the first one. -/
theorem nextElement_some {first : Bool} {s' : Octets}
    (h : Reader.nextElement first s = .ok (some s')) :
    ∃ before inner, Blanks before ∧ Blanks inner ∧
      s = before ++ (separator first ++ (inner ++ s')) := by
  rw [Reader.nextElement] at h
  split at h
  · cases h
  · cases h
  · next b tail notEnd skipped =>
      obtain ⟨before, hbefore, -, rfl⟩ := exists_blanks_of_skipBlanks skipped
      cases first with
      | true =>
          cases h
          exact ⟨before, [], hbefore, blanks_nil, rfl⟩
      | false =>
          simp only [Bool.false_eq_true, if_false] at h
          split_ifs at h with hcomma
          split at h
          · cases h
          · cases h
          · cases h
            obtain ⟨inner, hinner, shape⟩ := exists_blanks tail
            exact ⟨before, inner, hbefore, hinner, by rw [beq_iff_eq.mp hcomma, ← shape]; rfl⟩

theorem completes_of_endList (first : Bool) (h : Reader.endList s = .ok rest) :
    Completes .list first s rest := by
  rw [Reader.endList] at h
  split at h
  · cases h
  · next tail skipped =>
      cases h
      obtain ⟨before, hbefore, -, rfl⟩ := exists_blanks_of_skipBlanks skipped
      exact completes_end .list first hbefore _
  · split at h <;> cases h
  · cases h

/-- A value is one more element, where another one follows. -/
theorem Completes.of_element {first : Bool} {s' s'' : Octets} {t : Tree}
    (another : Reader.nextElement first s = .ok (some s')) (leads : t.Leads s' s'')
    (further : Completes .list false s'' rest) : Completes .list first s rest := by
  obtain ⟨before, inner, hbefore, hinner, rfl⟩ := nextElement_some another
  exact further.element leads first hbefore hinner

theorem completes_of_elements {r : Reader α} (sound : Sound r) {room : Nat} {clock : Octets}
    {first : Bool} {gathered as : List α}
    (h : Reader.elements r room clock first gathered s = .ok (as, rest)) :
    Completes .list first s rest := by
  induction clock generalizing first gathered s with
  | nil => cases h
  | cons tick clock ih =>
      rw [Reader.elements] at h
      split at h
      · cases h
      · split at h
        · cases h
        · next ended =>
            cases h
            exact completes_of_endList first ended
      · next s' another =>
          split at h
          · cases h
          · next a s'' read =>
              obtain ⟨t, leads⟩ := sound room s' a s'' read
              exact .of_element another leads (ih h)

/-- What is read as a list is one. -/
theorem exists_leads_of_list {r : Reader α} (sound : Sound r) {room : Nat} {as : List α}
    (h : Reader.list r room s = .ok (as, rest)) : ∃ ts, (Tree.list ts).Leads s rest := by
  rw [Reader.list] at h
  split at h
  · cases h
  · next tail skipped =>
      split at h
      · cases h
      · obtain ⟨ts, leads⟩ := (completes_of_elements sound h).list
        exact ⟨ts, leads.of_skipBlanks skipped⟩
  · cases h

theorem Sound.list {r : Reader α} (sound : Sound r) : Sound (Reader.list r) := by
  intro room s as rest read
  obtain ⟨ts, leads⟩ := exists_leads_of_list sound read
  exact ⟨_, leads⟩

/-! ## Objects -/

/-- Another member is led by blanks, and by a comma unless it is the first one, and by its quote. -/
theorem nextMember_some {first : Bool} {s' : Octets}
    (h : Reader.nextMember first s = .ok (some s')) :
    ∃ before inner, Blanks before ∧ Blanks inner ∧
      s = before ++ (separator first ++ (inner ++ quote :: s')) := by
  rw [Reader.nextMember] at h
  split at h
  · cases h
  · cases h
  · next b tail notEnd skipped =>
      obtain ⟨before, hbefore, -, rfl⟩ := exists_blanks_of_skipBlanks skipped
      cases first with
      | true =>
          simp only [if_true] at h
          split at h
          · cases h
          · next same =>
              cases h
              exact ⟨before, [], hbefore, blanks_nil, by rw [same]; rfl⟩
          · cases h
          · cases h
      | false =>
          simp only [Bool.false_eq_true, if_false] at h
          split_ifs at h with hcomma
          split at h
          · cases h
          · next same =>
              cases h
              obtain ⟨inner, hinner, shape⟩ := exists_blanks tail
              refine ⟨before, inner, hbefore, hinner, ?_⟩
              rw [beq_iff_eq.mp hcomma, shape, same]
              rfl
          · cases h
          · cases h

theorem completes_of_endObject (first : Bool) (h : Reader.endObject s = .ok rest) :
    Completes .object first s rest := by
  rw [Reader.endObject] at h
  split at h
  · cases h
  · next tail skipped =>
      cases h
      obtain ⟨before, hbefore, -, rfl⟩ := exists_blanks_of_skipBlanks skipped
      exact completes_end .object first hbefore _
  · cases h
  · cases h

/-- A key, its colon and a value are one more member, where another one follows. -/
theorem Completes.of_member {first : Bool} {s₁ s₂ s₃ s₄ : Octets} {name : String} {t : Tree}
    (another : Reader.nextMember first s = .ok (some s₁)) (key : readText s₁ = .ok (name, s₂))
    (colon : readColon s₂ = .ok s₃) (leads : t.Leads s₃ s₄)
    (further : Completes .object false s₄ rest) : Completes .object first s rest := by
  obtain ⟨before, inner, hbefore, hinner, rfl⟩ := nextMember_some another
  obtain ⟨literal, -, rfl⟩ := exists_quotable_of_readText key
  obtain ⟨between, hbetween, rfl⟩ := readColon_ok colon
  have member := further.member leads first literal hbefore hinner hbetween
  simpa only [Quotable.inQuotes, List.cons_append, List.append_assoc, List.nil_append] using member

theorem completes_of_anyMembers {r : Reader α} (sound : Sound r) {room : Nat} {clock : Octets}
    {first : Bool} {gathered as : List (String × α)}
    (h : anyMembers r room clock first gathered s = .ok (as, rest)) :
    Completes .object first s rest := by
  induction clock generalizing first gathered s with
  | nil => cases h
  | cons tick clock ih =>
      rw [anyMembers] at h
      split at h
      · cases h
      · split at h
        · cases h
        · next ended =>
            cases h
            exact completes_of_endObject first ended
      · next s₁ another =>
          split at h
          · cases h
          · next name s₂ key =>
              split at h
              · cases h
              · next s₃ colon =>
                  split at h
                  · cases h
                  · next a s₄ read =>
                      obtain ⟨t, leads⟩ := sound room s₃ a s₄ read
                      exact .of_member another key colon leads (ih h)

/-! ## Values of any shape -/

theorem beginsWithValue_of_readScalar {b : UInt8} {tail : Octets} {v : Value}
    (h : readScalar b tail = .ok (v, rest)) : BeginsWithValue (b :: tail) rest := by
  unfold readScalar at h
  split_ifs at h with hnull htrue hfalse hminus digit htext <;>
    obtain ⟨read, first, same⟩ := ok_of_map_ok h <;> cases same
  · obtain rfl := beq_iff_eq.mp hnull
    exact ⟨.null, leads_of_readLetters rfl first⟩
  · obtain rfl := beq_iff_eq.mp htrue
    exact ⟨.boolean true, leads_of_readLetters rfl first⟩
  · obtain rfl := beq_iff_eq.mp hfalse
    exact ⟨.boolean false, leads_of_readLetters rfl first⟩
  · obtain rfl := beq_iff_eq.mp hminus
    exact beginsWithValue_of_readNumber_minus first
  · exact beginsWithValue_of_readNumber first
  · obtain rfl := beq_iff_eq.mp htext
    exact beginsWithValue_of_readText first

theorem sound_readValue : Sound readValue := by
  intro room
  induction room with
  | zero =>
      intro s v rest h
      rw [readValue] at h
      split at h
      · cases h
      · cases h
      · cases h
      · next skipped =>
          exact (beginsWithValue_of_readScalar h).of_skipBlanks skipped
  | succ room ih =>
      intro s v rest h
      have sound : Sound fun _ => readValue room := fun _ => ih
      rw [readValue] at h
      split at h
      · cases h
      · next skipped =>
          obtain ⟨read, elements, same⟩ := ok_of_map_ok h
          cases same
          exact (completes_of_elements sound elements).isValue.of_skipBlanks skipped
      · next skipped =>
          obtain ⟨read, members, same⟩ := ok_of_map_ok h
          cases same
          exact (completes_of_anyMembers sound members).isValue.of_skipBlanks skipped
      · next skipped =>
          exact (beginsWithValue_of_readScalar h).of_skipBlanks skipped

/-! ## Records -/

namespace Record

variable {r : Record σ} {room : Nat}

theorem completes_of_members (sound : ∀ f ∈ r.fields, Sound f.read) {clock : Octets}
    {first : Bool} {seen : List String} {value x : σ}
    (h : r.members room clock first seen value s = .ok (x, rest)) :
    Completes .object first s rest := by
  induction clock generalizing first seen value s with
  | nil => cases h
  | cons tick clock ih =>
      rw [members] at h
      split at h
      · cases h
      · split at h
        · cases h
        · split at h
          · cases h
          · next ended =>
              cases h
              exact completes_of_endObject first ended
      · next s₁ another =>
          split at h
          · cases h
          · next name s₂ key =>
              split at h
              · split at h
                · cases h
                · next s₄ passed =>
                    obtain ⟨s₃, colon, skipped⟩ := ok_of_bind_ok passed
                    obtain ⟨t, leads⟩ := beginsWithValue_of_skipValue skipped
                    exact .of_member another key colon leads (ih h)
              · next f known =>
                  split_ifs at h
                  split at h
                  · cases h
                  · next s₃ colon =>
                      split at h
                      · cases h
                      · next fill s₄ read =>
                          obtain ⟨t, leads⟩ :=
                            sound f (List.mem_of_find?_eq_some known) room s₃ fill s₄ read
                          exact .of_member another key colon leads (ih h)

theorem completes_of_positions {fields : List (Field σ)} (sound : ∀ f ∈ fields, Sound f.read)
    {length : Nat} {first : Bool} {value x : σ}
    (h : r.positions room fields length first value s = .ok (x, rest)) :
    Completes .list first s rest := by
  induction fields generalizing length first value s with
  | nil =>
      rw [positions] at h
      split at h
      · cases h
      · next ended =>
          cases h
          exact completes_of_endList first ended
  | cons f fields ih =>
      obtain ⟨one, further⟩ := List.forall_mem_cons.mp sound
      rw [positions] at h
      split at h
      · cases h
      · split at h
        · cases h
        · split at h
          · cases h
          · next ended =>
              cases h
              exact completes_of_endList first ended
      · next s' another =>
          split at h
          · cases h
          · next fill s'' read =>
              obtain ⟨t, leads⟩ := one room s' fill s'' read
              exact .of_element another leads (ih further h)

/-- What is read as a record is a value. -/
theorem sound_reader (sound : ∀ f ∈ r.fields, Sound f.read) : Sound r.reader := by
  intro room s x rest h
  rw [reader] at h
  split at h
  · cases h
  · next tail skipped =>
      split at h
      · cases h
      · exact (completes_of_positions sound (ok_of_mapError_ok h)).isValue.of_skipBlanks skipped
  · next tail skipped =>
      split at h
      · cases h
      · exact (completes_of_members sound (ok_of_mapError_ok h)).isValue.of_skipBlanks skipped
  · cases h

end Record

/-! ## Documents -/

theorem decode_ok {r : Reader α} {document : Octets} {a : α} (h : decode r document = .ok a) :
    ∃ rest, r depthLimit document = .ok (a, rest) ∧ Blanks rest := by
  rw [decode] at h
  split at h
  · cases h
  · next a' rest read =>
      split at h
      · next ended =>
          cases h
          refine ⟨rest, read, ?_⟩
          obtain ⟨before, hbefore, shape⟩ := exists_blanks rest
          rwa [shape, ended, List.append_nil]
      · cases h

theorem Tree.Leads.padded {t : Tree} (h : t.Leads s rest) (ended : Blanks rest) :
    Padded t.Spells s := by
  obtain ⟨before, core, hbefore, spells, shape⟩ := h
  exact ⟨before, core, rest, hbefore, spells, ended, shape⟩

/-- Only what spells a value is decoded. -/
theorem exists_spelled_of_decode {r : Reader α} (sound : Sound r) {document : Octets} {a : α}
    (h : decode r document = .ok a) : ∃ t : Tree, Padded t.Spells document := by
  obtain ⟨rest, read, ended⟩ := decode_ok h
  obtain ⟨t, leads⟩ := sound _ _ _ _ read
  exact ⟨t, leads.padded ended⟩

/-- Only what spells a list is decoded as one. -/
theorem exists_spelled_of_decode_list {r : Reader α} (sound : Sound r) {document : Octets}
    {as : List α} (h : decode (.list r) document = .ok as) :
    ∃ ts, Padded (Tree.list ts).Spells document := by
  obtain ⟨rest, read, ended⟩ := decode_ok h
  obtain ⟨ts, leads⟩ := exists_leads_of_list sound read
  exact ⟨ts, leads.padded ended⟩

theorem mapM_id_eq_some_iff {outcomes : List (Option α)} {as : List α} :
    outcomes.mapM id = some as ↔ outcomes = as.map some := by
  induction outcomes generalizing as with
  | nil => cases as <;> simp
  | cons outcome outcomes ih =>
      cases outcome with
      | none => cases as <;> simp
      | some a =>
          cases hrest : outcomes.mapM id with
          | none =>
              have none (as : List α) : outcomes ≠ as.map some := fun h => by
                simp [ih.mpr h] at hrest
              cases as <;> simp [hrest, none]
          | some rest =>
              obtain rfl := ih.mp hrest
              cases as <;> simp [hrest, List.map_inj_right fun _ _ => Option.some.inj]

/-- A list that is spelled in some way is decoded exactly if its elements are all read, one after the
other. One bracket is open around them. -/
theorem decode_spelled_list_iff {r : Reader α} (uniform : Uniform r) {document : Octets}
    {ts : List Tree} (spells : Padded (Tree.list ts).Spells document) {as : List α} :
    decode (.list r) document = .ok as ↔
      List.Forall₂ (fun t a => Makes r (depthLimit - 1) t (some a)) ts as := by
  have decoded {outcomes : List (Option α)}
      (makes : List.Forall₂ (Makes r (depthLimit - 1)) ts outcomes) :
      (decode (.list r) document).toOption = outcomes.mapM id :=
    toOption_decode (makes_list makes) spells
  constructor
  · intro h
    obtain ⟨outcomes, makes⟩ := uniform.each (depthLimit - 1) ts
    have all : outcomes.mapM id = some as := by
      rw [← decoded makes, h]
      rfl
    obtain rfl := mapM_id_eq_some_iff.mp all
    exact List.forall₂_map_right_iff.mp makes
  · intro makes
    apply eq_ok
    rw [decoded (List.forall₂_map_right_iff.mpr makes)]
    exact mapM_id_eq_some_iff.mpr rfl

/-- A list is decoded exactly from what spells one whose elements are all read. -/
theorem decode_list_eq_ok_iff {r : Reader α} (sound : Sound r) (uniform : Uniform r)
    {document : Octets} {as : List α} :
    decode (.list r) document = .ok as ↔
      ∃ ts, Padded (Tree.list ts).Spells document ∧
        List.Forall₂ (fun t a => Makes r (depthLimit - 1) t (some a)) ts as := by
  constructor
  · intro h
    obtain ⟨ts, spells⟩ := exists_spelled_of_decode_list sound h
    exact ⟨ts, spells, (decode_spelled_list_iff uniform spells).mp h⟩
  · rintro ⟨ts, spells, makes⟩
    exact (decode_spelled_list_iff uniform spells).mpr makes

/-- A list is not decoded if one of its elements is not read. -/
theorem decode_list_ne_ok {r : Reader α} (uniform : Uniform r) {document : Octets}
    {ts : List Tree} (spells : Padded (Tree.list ts).Spells document) {t : Tree} (mem : t ∈ ts)
    (unread : ∀ a, ¬ Makes r (depthLimit - 1) t (some a)) (as : List α) :
    decode (.list r) document ≠ .ok as := by
  intro h
  have each := (decode_spelled_list_iff uniform spells).mp h
  obtain ⟨i, hi, rfl⟩ := List.mem_iff_getElem.mp mem
  exact unread _ (each.get hi (each.length_eq ▸ hi))

end PulseBridge.Json
