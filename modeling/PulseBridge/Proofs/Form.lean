import Mathlib.Data.List.Forall2
import PulseBridge.Form
import PulseBridge.Proofs.Utf8

/-!
# Forms come back as they were written

Whatever stands in the names and values of a form, and however it is spelled, decoding gives the
same pairs in the same order; what is written of a form is one of its spellings. It consists of few
octets, and in a component there is none of those that separate names, values and pairs, so that
nothing in a component can end it or begin another one.

## Main definitions

* `SpellsForm`: the ways to spell the pairs of a form.

## Main statements

* `SpellsForm.decode_eq`: every spelling is decoded as the pairs.
* `decode_encode`: what is written is read back.
* `isFormOctet_of_mem_encode`: of what octets a form is written.
-/

namespace PulseBridge.Form

open Ascii

/-! ## Components -/

theorem hexValue_hexDigit {n : Nat} (h : n < 16) :
    Octets.hexValue? (Octets.hexDigit n) = some n := by
  have all : ∀ n < 16, Octets.hexValue? (Octets.hexDigit n) = some n := by decide
  exact all n h

/-- A hexadecimal digit stands for itself in a component. -/
theorem isPlain_hexDigit {n : Nat} (h : n < 16) : isPlain (Octets.hexDigit n) = true := by
  have all : ∀ n < 16, isPlain (Octets.hexDigit n) = true := by decide
  exact all n h

/-- What stands for itself is none of the marks of a form. -/
theorem ne_of_isPlain {b : UInt8} (h : isPlain b = true) :
    b ≠ plus ∧ b ≠ percent ∧ b ≠ equals ∧ b ≠ ampersand := by
  refine ⟨?_, ?_, ?_, ?_⟩ <;>
  · rintro rfl
    exact absurd h (by decide)

/-- An octet of a component is written with octets that stand for themselves, a plus or a percent
sign. -/
theorem of_mem_encodeOctet {b c : UInt8} (h : c ∈ encodeOctet b) :
    isPlain c = true ∨ c = plus ∨ c = percent := by
  unfold encodeOctet at h
  split at h
  next hplain =>
      rw [List.mem_singleton.mp h]
      exact .inl hplain
  · split at h
    · exact .inr (.inl (List.mem_singleton.mp h))
    · have small : b.toNat < 256 := b.toNat_lt
      simp only [percentEncode, List.mem_cons, List.not_mem_nil, or_false] at h
      rcases h with rfl | rfl | rfl
      · exact .inr (.inr rfl)
      · exact .inl (isPlain_hexDigit (by omega))
      · exact .inl (isPlain_hexDigit (by omega))

theorem of_mem_encodeComponent {s : String} {c : UInt8} (h : c ∈ encodeComponent s) :
    isPlain c = true ∨ c = plus ∨ c = percent := by
  obtain ⟨b, -, hc⟩ := List.mem_flatMap.mp h
  exact of_mem_encodeOctet hc

/-- No separator stands in a component. -/
theorem ne_of_mem_encodeComponent {s : String} {c : UInt8} (h : c ∈ encodeComponent s) :
    c ≠ equals ∧ c ≠ ampersand := by
  rcases of_mem_encodeComponent h with hplain | rfl | rfl
  · exact (ne_of_isPlain hplain).2.2
  · decide
  · decide

/-- How a component may be spelled, and the octets that are meant: an octet that is no mark stands
for itself, a plus for a space, and a percent sign with two digits for any octet. -/
inductive Spells : Octets → Octets → Prop
  | nil : Spells [] []
  | self {b : UInt8} {spelled meant : Octets} (noMark : b ≠ ampersand ∧ b ≠ plus ∧ b ≠ percent)
      (rest : Spells spelled meant) : Spells (b :: spelled) (b :: meant)
  | plus {spelled meant : Octets} (rest : Spells spelled meant) :
      Spells (plus :: spelled) (space :: meant)
  | percent {high low : UInt8} {h l : Nat} {spelled meant : Octets}
      (hhigh : Octets.hexValue? high = some h) (hlow : Octets.hexValue? low = some l)
      (rest : Spells spelled meant) :
      Spells (percent :: high :: low :: spelled) (UInt8.ofNat (h * 16 + l) :: meant)

theorem ne_of_hexValue {b c : UInt8} {n : Nat} (hb : Octets.hexValue? b = some n)
    (hc : Octets.hexValue? c = none) : b ≠ c := by
  rintro rfl
  rw [hb] at hc
  cases hc

/-- No separator of pairs stands in a component. -/
theorem Spells.ne_ampersand {spelled meant : Octets} (h : Spells spelled meant) :
    ∀ b ∈ spelled, b ≠ ampersand := by
  induction h with
  | nil => simp
  | self noMark _ ih => exact List.forall_mem_cons.mpr ⟨noMark.1, ih⟩
  | plus _ ih => exact List.forall_mem_cons.mpr ⟨by decide, ih⟩
  | percent hhigh hlow _ ih =>
      refine List.forall_mem_cons.mpr ⟨by decide, List.forall_mem_cons.mpr ⟨?_, ?_⟩⟩
      · exact ne_of_hexValue hhigh rfl
      · exact List.forall_mem_cons.mpr ⟨ne_of_hexValue hlow rfl, ih⟩

/-- What is written for an octet of a component spells it. -/
theorem Spells.encodeOctet {spelled meant : Octets} (h : Spells spelled meant) (b : UInt8) :
    Spells (encodeOctet b ++ spelled) (b :: meant) := by
  unfold Form.encodeOctet
  split
  next hplain =>
      obtain ⟨hplus, hpercent, -, hampersand⟩ := ne_of_isPlain hplain
      exact .self ⟨hampersand, hplus, hpercent⟩ h
  · split
    next hspace =>
        rw [beq_iff_eq.mp hspace]
        exact .plus h
    · have small : b.toNat < 256 := b.toNat_lt
      have high := hexValue_hexDigit (n := b.toNat / 16) (by omega)
      have low := hexValue_hexDigit (n := b.toNat % 16) (by omega)
      have whole : b.toNat / 16 * 16 + b.toNat % 16 = b.toNat := Nat.div_add_mod' ..
      have spells := Spells.percent high low h
      rwa [whole, UInt8.ofNat_toNat] at spells

theorem spells_encodeComponent (s : String) : Spells (encodeComponent s) (Octets.ofText s) := by
  have each (octets : Octets) : Spells (octets.flatMap Form.encodeOctet) octets := by
    induction octets with
    | nil => exact .nil
    | cons b octets ih =>
        rw [List.flatMap_cons]
        exact ih.encodeOctet b
  exact each (Octets.ofText s)

/-- Any octet but a percent sign is decoded as it is. -/
theorem percentDecode_cons {b : UInt8} (h : b ≠ percent) (rest : Octets) :
    percentDecode (b :: rest) = b :: percentDecode rest := by
  rw [percentDecode]
  intro _ _ _ hb
  exact absurd hb h

/-- The octets with a space in the place of every plus. -/
def unplus (bs : Octets) : Octets := bs.map fun b => if b == plus then space else b

/-- An octet that is no plus is left as it is. -/
theorem unplus_cons {b : UInt8} (h : b ≠ plus) (bs : Octets) :
    unplus (b :: bs) = b :: unplus bs := by
  simp [unplus, h]

/-- What a component spells is decoded. -/
theorem Spells.percentDecode_unplus {spelled meant : Octets} (h : Spells spelled meant) :
    percentDecode (unplus spelled) = meant := by
  induction h with
  | nil => rfl
  | @self b spelled meant noMark _ ih =>
      rw [unplus_cons noMark.2.1, percentDecode_cons noMark.2.2, ih]
  | @plus spelled meant _ ih =>
      have unplused : unplus (Ascii.plus :: spelled) = space :: unplus spelled := rfl
      rw [unplused, percentDecode_cons (by decide), ih]
  | @percent high low h l spelled meant hhigh hlow _ ih =>
      rw [unplus_cons (by decide), unplus_cons (ne_of_hexValue hhigh rfl),
        unplus_cons (ne_of_hexValue hlow rfl)]
      refine (percentDecode.eq_2 _ _ _).trans ?_
      rw [hhigh, hlow]
      exact congrArg (_ :: ·) ih

/-- A component is decoded as the text that it spells. -/
theorem Spells.decodeComponent {spelled : Octets} {s : String}
    (h : Spells spelled (Octets.ofText s)) : decodeComponent spelled = s := by
  rw [Form.decodeComponent, ← unplus, h.percentDecode_unplus, Octets.lossyText_ofText]

/-! ## Pairs -/

/-- What stands before the first separator is the first piece. -/
theorem pieces_append {separator : UInt8} {piece : Octets} (h : ∀ b ∈ piece, b ≠ separator)
    (rest : Octets) :
    pieces separator (piece ++ separator :: rest) = piece :: pieces separator rest := by
  induction piece with
  | nil => simp [pieces]
  | cons b piece ih =>
      have hb : (b == separator) = false := by simpa using h b List.mem_cons_self
      rw [List.cons_append, pieces, ih fun c hc => h c (List.mem_cons_of_mem b hc)]
      simp [hb]

/-- What has no separator is one piece. -/
theorem pieces_eq_singleton {separator : UInt8} {piece : Octets}
    (h : ∀ b ∈ piece, b ≠ separator) : pieces separator piece = [piece] := by
  induction piece with
  | nil => rfl
  | cons b piece ih =>
      have hb : (b == separator) = false := by simpa using h b List.mem_cons_self
      rw [pieces, ih fun c hc => h c (List.mem_cons_of_mem b hc)]
      simp [hb]

/-- Whether a piece is a pair, its name and its value spelled in any way. The name ends at the first
sign of equality, so it holds none. -/
def SpellsPair (piece : Octets) (pair : String × String) : Prop :=
  ∃ name value, piece = name ++ equals :: value ∧ equals ∉ name ∧
    Spells name (Octets.ofText pair.1) ∧ Spells value (Octets.ofText pair.2)

theorem spellsPair_encodePair (pair : String × String) : SpellsPair (encodePair pair) pair := by
  refine ⟨_, _, rfl, ?_, spells_encodeComponent pair.1, spells_encodeComponent pair.2⟩
  exact fun separator => (ne_of_mem_encodeComponent separator).1 rfl

/-- No two pairs run into each other. -/
theorem SpellsPair.ne_ampersand {piece : Octets} {pair : String × String}
    (h : SpellsPair piece pair) : ∀ b ∈ piece, b ≠ ampersand := by
  obtain ⟨name, value, rfl, -, hname, hvalue⟩ := h
  intro b hb
  rw [List.mem_append, List.mem_cons] at hb
  rcases hb with inName | rfl | inValue
  · exact hname.ne_ampersand b inName
  · decide
  · exact hvalue.ne_ampersand b inValue

theorem SpellsPair.notEmpty {piece : Octets} {pair : String × String} (h : SpellsPair piece pair) :
    (!piece.isEmpty) = true := by
  obtain ⟨name, value, rfl, -⟩ := h
  simp

/-- A pair is decoded as the one that it spells. -/
theorem SpellsPair.decodePair {piece : Octets} {pair : String × String}
    (h : SpellsPair piece pair) : decodePair piece = pair := by
  obtain ⟨name, value, rfl, noEquals, hname, hvalue⟩ := h
  have before : (name ++ equals :: value).takeWhile (· != equals) = name := by
    rw [List.takeWhile_append_of_pos]
    · rw [List.takeWhile_cons_of_neg (by decide), List.append_nil]
    · intro b hb
      rw [bne_iff_ne]
      rintro rfl
      exact noEquals hb
  have after : (name ++ equals :: value).drop (name.length + 1) = value := by
    rw [List.drop_length_add_append]
    rfl
  unfold Form.decodePair
  dsimp only
  rw [before, after, hname.decodeComponent, hvalue.decodeComponent]

/-! ## Forms -/

/-- Whether a form holds some pairs in this order, each of them spelled in any way. -/
def SpellsForm (body : Octets) (pairs : List (String × String)) : Prop :=
  ∃ spelled, List.Forall₂ SpellsPair spelled pairs ∧ body = [ampersand].intercalate spelled

theorem spellsForm_encode (pairs : List (String × String)) : SpellsForm (encode pairs) pairs := by
  refine ⟨pairs.map encodePair, ?_, rfl⟩
  rw [List.forall₂_map_left_iff, List.forall₂_same]
  exact fun pair _ => spellsPair_encodePair pair

theorem intercalate_cons (piece next : Octets) (more : List Octets) :
    [ampersand].intercalate (piece :: next :: more) =
      piece ++ ampersand :: [ampersand].intercalate (next :: more) := by
  simp [List.intercalate]

theorem pieces_intercalate {piece : Octets} {more : List Octets}
    (h : ∀ p ∈ piece :: more, ∀ b ∈ p, b ≠ ampersand) :
    pieces ampersand ([ampersand].intercalate (piece :: more)) = piece :: more := by
  induction more generalizing piece with
  | nil =>
      have alone : [ampersand].intercalate [piece] = piece := by simp
      rw [alone, pieces_eq_singleton (h piece List.mem_cons_self)]
  | cons next more ih =>
      obtain ⟨first, further⟩ := List.forall_mem_cons.mp h
      rw [intercalate_cons, pieces_append first, ih further]

/-- A form is decoded as the pairs that it holds. -/
theorem SpellsForm.decode_eq {body : Octets} {pairs : List (String × String)}
    (h : SpellsForm body pairs) : decode body = pairs := by
  obtain ⟨spelled, each, rfl⟩ := h
  have whole : (∀ piece ∈ spelled, (∀ b ∈ piece, b ≠ ampersand) ∧ (!piece.isEmpty) = true) ∧
      List.Forall₂ (fun piece pair => decodePair piece = pair) spelled pairs := by
    rw [← List.forall₂_and_left]
    exact each.imp fun _ _ h => ⟨⟨h.ne_ampersand, h.notEmpty⟩, h.decodePair⟩
  obtain ⟨apart, decoded⟩ := whole
  have full : spelled.filter (!·.isEmpty) = spelled :=
    List.filter_eq_self.mpr fun piece hpiece => (apart piece hpiece).2
  rw [← List.forall₂_map_left_iff, List.forall₂_eq_eq_eq] at decoded
  cases spelled with
  | nil => exact decoded
  | cons piece more =>
      rw [decode, pieces_intercalate fun p hp => (apart p hp).1, full]
      exact decoded

/-- A form is decoded as the pairs that it was written from. -/
theorem decode_encode (pairs : List (String × String)) : decode (encode pairs) = pairs :=
  (spellsForm_encode pairs).decode_eq

theorem encode_singleton (pair : String × String) : encode [pair] = encodePair pair := by
  simp [encode]

theorem encode_cons (pair next : String × String) (pairs : List (String × String)) :
    encode (pair :: next :: pairs) = encodePair pair ++ ampersand :: encode (next :: pairs) :=
  intercalate_cons _ _ _

/-! ## Octets -/

/-- Whether an octet may stand in a form: it stands for itself, or is one of the marks. -/
def isFormOctet (b : UInt8) : Bool :=
  isPlain b || b == plus || b == percent || b == equals || b == ampersand

theorem isFormOctet_of_mem_encodePair {pair : String × String} {c : UInt8}
    (h : c ∈ encodePair pair) : isFormOctet c = true := by
  rw [encodePair, List.mem_append, List.mem_cons] at h
  have component : ∀ s, c ∈ encodeComponent s → isFormOctet c = true := by
    intro s hs
    rcases of_mem_encodeComponent hs with hplain | rfl | rfl
    · simp [isFormOctet, hplain]
    · decide
    · decide
  rcases h with hname | rfl | hvalue
  · exact component _ hname
  · decide
  · exact component _ hvalue

/-- A form is written with letters, digits and few marks. -/
theorem isFormOctet_of_mem_encode {pairs : List (String × String)} {c : UInt8}
    (h : c ∈ encode pairs) : isFormOctet c = true := by
  induction pairs with
  | nil => cases h
  | cons pair pairs ih =>
      cases pairs with
      | nil =>
          rw [encode_singleton] at h
          exact isFormOctet_of_mem_encodePair h
      | cons next pairs =>
          rw [encode_cons, List.mem_append, List.mem_cons] at h
          rcases h with hpair | rfl | hmore
          · exact isFormOctet_of_mem_encodePair hpair
          · decide
          · exact ih hmore

/-- An octet of a form is one of ASCII. -/
theorem lt_of_isFormOctet : ∀ {b : UInt8}, isFormOctet b = true → b < 0x80 := by
  intro b
  apply Octets.forall_octet _ b
  decide +kernel

/-- A form is a text. -/
theorem isText_encode (pairs : List (String × String)) : Octets.IsText (encode pairs) :=
  Octets.isText_of_ascii fun _ hb => lt_of_isFormOctet (isFormOctet_of_mem_encode hb)

end PulseBridge.Form
