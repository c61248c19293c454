import Mathlib.Tactic.SplitIfs
import PulseBridge.Json.Text

/-!
# How texts may be spelled

Between its quotes a text is spelled octet by octet: most octets stand for themselves, and some are
written as a backslash and a letter, as a code unit of four hexadecimal digits, or as two code units
that make up one character. What is spelled well need not be a text, since a code unit may lack the
other half of its pair and octets that stand for themselves need not be UTF-8. It is passed over
nevertheless, and reading it either gives the text that is spelled or fails, whatever follows.

## Main definitions

* `IsQuotable`: what may stand between quotes.
* `SpellsOctets`: what octets are spelled.

## Main statements

* `SpellsOctets.readText`: the text that is spelled is read.
* `readText_cases`: what is spelled well is read as one text or not at all.
* `IsQuotable.skipText`: what is spelled well is passed over.
* `spells_written`: what is written of a text spells it.
-/

namespace PulseBridge.Json

open Ascii

/-- The code unit that four hexadecimal digits stand for. -/
def codeUnit? (digits : UInt8 × UInt8 × UInt8 × UInt8) : Option Nat :=
  let (a, b, c, d) := digits
  [a, b, c, d].foldl
    (fun unit digit => unit.bind fun u => (Octets.hexValue? digit).map (u * 16 + ·)) (some 0)

/-- A backslash, the letter of a code unit and its four digits. -/
def unitEscape (digits : UInt8 × UInt8 × UInt8 × UInt8) : Octets :=
  [backslash, lowerU, digits.1, digits.2.1, digits.2.2.1, digits.2.2.2]

theorem length_lt_unitEscape (digits : UInt8 × UInt8 × UInt8 × UInt8) (s : Octets) :
    s.length < (unitEscape digits ++ s).length := by
  rw [List.length_append]
  exact Nat.lt_add_of_pos_left (Nat.succ_pos 5)

/-- Whether an octet stands for itself between quotes. -/
def standsForItself (b : UInt8) : Bool := b != quote && b != backslash && !(b < 0x20)

/-- What may stand between the quotes of a text. -/
inductive IsQuotable : Octets → Prop
  | nil : IsQuotable []
  | plain {b : UInt8} {s : Octets} (itself : standsForItself b = true) (rest : IsQuotable s) :
      IsQuotable (b :: s)
  | letter {b : UInt8} {s : Octets} (known : (simpleEscape? b).isSome = true)
      (rest : IsQuotable s) : IsQuotable (backslash :: b :: s)
  | unit {digits : UInt8 × UInt8 × UInt8 × UInt8} {s : Octets}
      (known : (codeUnit? digits).isSome = true) (rest : IsQuotable s) :
      IsQuotable (unitEscape digits ++ s)

/-- How octets may be spelled between quotes: the spelling, and the octets that are meant. -/
inductive SpellsOctets : Octets → Octets → Prop
  | nil : SpellsOctets [] []
  | plain {b : UInt8} {s meant : Octets} (itself : standsForItself b = true)
      (rest : SpellsOctets s meant) : SpellsOctets (b :: s) (b :: meant)
  | letter {b octet : UInt8} {s meant : Octets} (known : simpleEscape? b = some octet)
      (rest : SpellsOctets s meant) : SpellsOctets (backslash :: b :: s) (octet :: meant)
  | unit {digits : UInt8 × UInt8 × UInt8 × UInt8} {u : Nat} {s meant : Octets}
      (known : codeUnit? digits = some u) (whole : isLeading u = false ∧ isTrailing u = false)
      (rest : SpellsOctets s meant) :
      SpellsOctets (unitEscape digits ++ s) (String.utf8EncodeChar (Char.ofNat u) ++ meant)
  | pair {digits digits' : UInt8 × UInt8 × UInt8 × UInt8} {u u' : Nat} {s meant : Octets}
      (known : codeUnit? digits = some u) (leading : isLeading u = true)
      (known' : codeUnit? digits' = some u') (trailing : isTrailing u' = true)
      (rest : SpellsOctets s meant) :
      SpellsOctets (unitEscape digits ++ (unitEscape digits' ++ s))
        (String.utf8EncodeChar (Char.ofNat (pairedCodePoint u u')) ++ meant)

/-! ## Reading -/

theorem readTextFrom_plain {b : UInt8} (itself : standsForItself b = true) (gathered s : Octets) :
    readTextFrom .plain gathered (b :: s) = readTextFrom .plain (b :: gathered) s := by
  simp only [standsForItself, Bool.and_eq_true, bne_iff_ne, Bool.not_eq_true',
    decide_eq_false_iff_not] at itself
  simp [readTextFrom, itself]

theorem readTextFrom_letter {b octet : UInt8} (known : simpleEscape? b = some octet)
    (gathered s : Octets) :
    readTextFrom .plain gathered (backslash :: b :: s) =
      readTextFrom .plain (octet :: gathered) s := by
  have other : (b == lowerU) = false := by
    rw [beq_eq_false_iff_ne]
    rintro rfl
    cases known
  have escape : readTextFrom .plain gathered (backslash :: b :: s) =
      readTextFrom .escape gathered (b :: s) := rfl
  rw [escape, readTextFrom]
  simp [other, known]

/-- Four digits make up a code unit. -/
theorem readTextFrom_digits (digits : UInt8 × UInt8 × UInt8 × UInt8) (leading : Option Nat)
    (gathered s : Octets) :
    readTextFrom (.hex 3 (some 0) leading) gathered
        (digits.1 :: digits.2.1 :: digits.2.2.1 :: digits.2.2.2 :: s) =
      match finishUnit (codeUnit? digits) leading gathered with
      | .ok (state, gathered) => readTextFrom state gathered s
      | .error cause => .error ⟨cause, .consumed s⟩ := rfl

/-- A code unit is read after its backslash and letter. -/
theorem readTextFrom_first (digits : UInt8 × UInt8 × UInt8 × UInt8) (gathered s : Octets) :
    readTextFrom .plain gathered (unitEscape digits ++ s) =
      readTextFrom (.hex 3 (some 0) none) gathered
        (digits.1 :: digits.2.1 :: digits.2.2.1 :: digits.2.2.2 :: s) := rfl

/-- The second half of a pair is read after its backslash and letter. -/
theorem readTextFrom_second (digits : UInt8 × UInt8 × UInt8 × UInt8) (leading : Nat)
    (gathered s : Octets) :
    readTextFrom (.pairBackslash leading) gathered (unitEscape digits ++ s) =
      readTextFrom (.hex 3 (some 0) (some leading)) gathered
        (digits.1 :: digits.2.1 :: digits.2.2.1 :: digits.2.2.2 :: s) := rfl

/-- What is spelled is gathered, whatever stands after it. -/
theorem SpellsOctets.readTextFrom {s meant : Octets} (h : SpellsOctets s meant)
    (gathered rest : Octets) :
    readTextFrom .plain gathered (s ++ rest) =
      Json.readTextFrom .plain (meant.reverse ++ gathered) rest := by
  induction h generalizing gathered with
  | nil => rfl
  | plain itself _ ih =>
      rw [List.cons_append, readTextFrom_plain itself, ih, List.reverse_cons, List.append_assoc]
      rfl
  | letter known _ ih =>
      rw [List.cons_append, List.cons_append, readTextFrom_letter known, ih, List.reverse_cons,
        List.append_assoc]
      rfl
  | @unit digits u s meant known whole _ ih =>
      have finish : finishUnit (some u) none gathered =
          .ok (.plain, reversedUtf8 u ++ gathered) := by
        simp [finishUnit, whole]
      rw [List.append_assoc, readTextFrom_first, readTextFrom_digits, known, finish]
      dsimp only
      rw [ih, List.reverse_append, List.append_assoc]
      rfl
  | @pair digits digits' u u' s meant known leading known' trailing _ ih =>
      have single : isTrailing u = false := by
        simp only [isLeading, isTrailing, Bool.and_eq_true, decide_eq_true_eq,
          Bool.and_eq_false_iff, decide_eq_false_iff_not] at leading ⊢
        omega
      have first : finishUnit (some u) none gathered = .ok (.pairBackslash u, gathered) := by
        simp [finishUnit, leading, single]
      have second : finishUnit (some u') (some u) gathered =
          .ok (.plain, reversedUtf8 (pairedCodePoint u u') ++ gathered) := by
        simp [finishUnit, trailing]
      rw [List.append_assoc, List.append_assoc, readTextFrom_first, readTextFrom_digits, known,
        first]
      dsimp only
      rw [readTextFrom_second, readTextFrom_digits, known', second]
      dsimp only
      rw [ih, List.reverse_append, List.append_assoc]
      rfl

/-- What is spelled well but is no text is not read, whatever has been gathered and follows. -/
def Unreadable (s : Octets) : Prop :=
  ∀ gathered rest, (Json.readTextFrom .plain gathered (s ++ quote :: rest)).toOption = none

/-- A code unit that is no character alone and has no other half after it. -/
theorem unreadable_unit {digits : UInt8 × UInt8 × UInt8 × UInt8} {u : Nat} {s : Octets}
    (known : codeUnit? digits = some u)
    (alone : isTrailing u = true ∨ isLeading u = true ∧ isTrailing u = false ∧
      ∀ gathered rest,
        (Json.readTextFrom (.pairBackslash u) gathered (s ++ quote :: rest)).toOption = none) :
    Unreadable (unitEscape digits ++ s) := by
  intro gathered rest
  rw [List.append_assoc, readTextFrom_first, readTextFrom_digits, known]
  rcases alone with trailing | ⟨leading, single, lacking⟩
  · simp [finishUnit, trailing, Except.toOption]
  · simp only [finishUnit, leading, single, Bool.false_eq_true, if_false, if_true]
    exact lacking gathered rest

/-- A leading half is followed by the other one, or what is spelled is no text. -/
theorem spells_or_unreadable_pair {digits : UInt8 × UInt8 × UInt8 × UInt8} {u : Nat} {s : Octets}
    (known : codeUnit? digits = some u) (leading : isLeading u = true) (h : IsQuotable s)
    (further : ∀ s', s'.length < s.length → IsQuotable s' →
      (∃ meant, SpellsOctets s' meant) ∨ Unreadable s') :
    (∃ meant, SpellsOctets (unitEscape digits ++ s) meant) ∨
      Unreadable (unitEscape digits ++ s) := by
  have single : isTrailing u = false := by
    simp only [isLeading, isTrailing, Bool.and_eq_true, decide_eq_true_eq, Bool.and_eq_false_iff,
      decide_eq_false_iff_not] at leading ⊢
    omega
  have lacks (lacking : ∀ gathered rest,
      (Json.readTextFrom (.pairBackslash u) gathered (s ++ quote :: rest)).toOption = none) :
      Unreadable (unitEscape digits ++ s) :=
    unreadable_unit known (.inr ⟨leading, single, lacking⟩)
  cases h with
  | nil => exact .inr (lacks fun _ _ => rfl)
  | plain itself _ =>
      refine .inr (lacks fun _ _ => ?_)
      simp only [standsForItself, Bool.and_eq_true, bne_iff_ne] at itself
      simp [Json.readTextFrom, itself, Except.toOption]
  | @letter b _ known _ =>
      refine .inr (lacks fun gathered rest => ?_)
      have other : (b == lowerU) = false := by
        rw [beq_eq_false_iff_ne]
        rintro rfl
        cases known
      simp [Json.readTextFrom, other, Except.toOption]
  | @unit digits' s known' rest =>
      obtain ⟨u', known'⟩ := Option.isSome_iff_exists.mp known'
      have second (gathered rest : Octets) :
          Json.readTextFrom (.pairBackslash u) gathered (unitEscape digits' ++ s ++ quote :: rest) =
            match finishUnit (some u') (some u) gathered with
            | .ok (state, gathered) => Json.readTextFrom state gathered (s ++ quote :: rest)
            | .error cause => .error ⟨cause, .consumed (s ++ quote :: rest)⟩ := by
        rw [List.append_assoc, readTextFrom_second, readTextFrom_digits, known']
      cases trailing : isTrailing u' with
      | false =>
          refine .inr (lacks fun gathered rest => ?_)
          rw [second]
          simp [finishUnit, trailing, Except.toOption]
      | true =>
          rcases further s (length_lt_unitEscape digits' s) rest with ⟨meant, spells⟩ | unreadable
          · exact .inl ⟨_, .pair known leading known' trailing spells⟩
          · refine .inr (lacks fun gathered rest => ?_)
            rw [second]
            simp only [finishUnit, trailing, if_true]
            exact unreadable _ rest

/-- What is spelled well spells some octets, or it is no text. -/
theorem IsQuotable.spells_or_unreadable {s : Octets} (h : IsQuotable s) :
    (∃ meant, SpellsOctets s meant) ∨ Unreadable s := by
  -- A pair takes up two escapes at once, so the induction is on the length.
  induction hn : s.length using Nat.strongRecOn generalizing s with
  | _ n ih =>
      subst hn
      cases h with
      | nil => exact .inl ⟨[], .nil⟩
      | plain itself rest =>
          rcases ih _ (Nat.lt_succ_self _) rest rfl with ⟨meant, spells⟩ | unreadable
          · exact .inl ⟨_, .plain itself spells⟩
          · refine .inr fun gathered rest => ?_
            rw [List.cons_append, readTextFrom_plain itself]
            exact unreadable _ rest
      | @letter b s known rest =>
          obtain ⟨octet, known⟩ := Option.isSome_iff_exists.mp known
          have shorter : s.length < s.length + 2 := by omega
          rcases ih _ shorter rest rfl with ⟨meant, spells⟩ | unreadable
          · exact .inl ⟨_, .letter known spells⟩
          · refine .inr fun gathered rest => ?_
            rw [List.cons_append, List.cons_append, readTextFrom_letter known]
            exact unreadable _ rest
      | @unit digits s known rest =>
          obtain ⟨u, known⟩ := Option.isSome_iff_exists.mp known
          have shorter := length_lt_unitEscape digits s
          cases trailing : isTrailing u with
          | true => exact .inr (unreadable_unit known (.inl trailing))
          | false =>
              cases leading : isLeading u with
              | true =>
                  exact spells_or_unreadable_pair known leading rest fun s' less quotable =>
                    ih s'.length (Nat.lt_trans less shorter) quotable rfl
              | false =>
                  rcases ih _ shorter rest rfl with ⟨meant, spells⟩ | unreadable
                  · exact .inl ⟨_, .unit known ⟨leading, trailing⟩ spells⟩
                  · refine .inr fun gathered rest => ?_
                    rw [List.append_assoc, readTextFrom_first, readTextFrom_digits, known]
                    simp only [finishUnit, leading, trailing, Bool.false_eq_true, if_false]
                    exact unreadable _ rest

/-- The text that is spelled is read. -/
theorem SpellsOctets.readText {s : Octets} {t : String} (h : SpellsOctets s (Octets.ofText t))
    (rest : Octets) :
    readText (s ++ quote :: rest) = .ok (t, rest) := by
  have gathered : Json.readTextFrom .plain [] (s ++ quote :: rest) =
      .ok (Octets.ofText t, rest) := by
    rw [h.readTextFrom, List.append_nil]
    change Except.ok ((Octets.ofText t).reverse.reverse, rest) = _
    rw [List.reverse_reverse]
  rw [Json.readText, gathered]
  simp [Octets.text?_ofText]

/-- Octets that are UTF-8 are the form of the text that they are read as. -/
theorem ofText_of_text? {bs : Octets} {t : String} (h : Octets.text? bs = some t) :
    Octets.ofText t = bs := by
  rw [Octets.text?, String.fromUTF8?] at h
  split at h
  · cases h
    simp [Octets.ofText, String.fromUTF8]
  · cases h

/-- What is spelled well is read as one text whatever follows, or not at all. -/
theorem readText_cases {s : Octets} (h : IsQuotable s) :
    (∃ t, SpellsOctets s (Octets.ofText t)) ∨
      ∀ rest, (Json.readText (s ++ quote :: rest)).toOption = none := by
  rcases h.spells_or_unreadable with ⟨meant, spells⟩ | unreadable
  · cases htext : Octets.text? meant with
    | some t =>
        refine .inl ⟨t, ?_⟩
        rwa [ofText_of_text? htext]
    | none =>
        refine .inr fun rest => ?_
        have gathered : Json.readTextFrom .plain [] (s ++ quote :: rest) = .ok (meant, rest) := by
          rw [spells.readTextFrom, List.append_nil]
          change Except.ok (meant.reverse.reverse, rest) = _
          rw [List.reverse_reverse]
        rw [Json.readText, gathered]
        simp [htext, Except.toOption]
  · refine .inr fun rest => ?_
    have failed := unreadable [] rest
    rw [Json.readText]
    cases hread : Json.readTextFrom .plain [] (s ++ quote :: rest) with
    | error fault => rfl
    | ok read => simp [hread, Except.toOption] at failed

/-- A spelling spells one text only. -/
theorem SpellsOctets.unique {s : Octets} {t t' : String} (h : SpellsOctets s (Octets.ofText t))
    (h' : SpellsOctets s (Octets.ofText t')) : t = t' := by
  have same := (h.readText []).symm.trans (h'.readText [])
  simpa using same

/-! ## Passing over -/

/-- A code unit goes on as long as its digits are digits. -/
theorem isSome_furtherDigit (unit : Option Nat) (digit : UInt8) :
    (unit.bind fun u => (Octets.hexValue? digit).map (u * 16 + ·)).isSome =
      (unit.isSome && (Octets.hexValue? digit).isSome) := by
  cases unit <;> cases Octets.hexValue? digit <;> rfl

theorem isSome_codeUnit? (a b c d : UInt8) :
    (codeUnit? (a, b, c, d)).isSome =
      ((((Octets.hexValue? a).isSome && (Octets.hexValue? b).isSome) &&
        (Octets.hexValue? c).isSome) && (Octets.hexValue? d).isSome) := by
  simp only [codeUnit?, List.foldl_cons, List.foldl_nil, isSome_furtherDigit, Option.isSome_some,
    Bool.true_and]

/-- A code unit is passed over if its digits are digits. -/
theorem skipTextFrom_unitEscape (digits : UInt8 × UInt8 × UInt8 × UInt8) (s : Octets) :
    skipTextFrom .plain (unitEscape digits ++ s) =
      if (codeUnit? digits).isSome then skipTextFrom .plain s
      else .error ⟨.badEscape, .consumed s⟩ := by
  obtain ⟨a, b, c, d⟩ := digits
  rw [isSome_codeUnit?]
  rfl

/-- What is spelled well is passed over up to its closing quote. -/
theorem IsQuotable.skipText {s : Octets} (h : IsQuotable s) (rest : Octets) :
    skipText (s ++ quote :: rest) = .ok rest := by
  rw [Json.skipText]
  induction h with
  | nil => rfl
  | plain itself _ ih =>
      simp only [standsForItself, Bool.and_eq_true, bne_iff_ne, Bool.not_eq_true',
        decide_eq_false_iff_not] at itself
      rw [List.cons_append, skipTextFrom]
      simpa [itself] using ih
  | @letter b s known _ ih =>
      have other : (b == lowerU) = false := by
        rw [beq_eq_false_iff_ne]
        rintro rfl
        cases known
      have escape : skipTextFrom .plain (backslash :: b :: (s ++ quote :: rest)) =
          skipTextFrom .escape (b :: (s ++ quote :: rest)) := rfl
      rw [List.cons_append, List.cons_append, escape, skipTextFrom]
      simpa [other, known] using ih
  | @unit digits s known _ ih =>
      rw [List.append_assoc, skipTextFrom_unitEscape, if_pos known]
      exact ih

/-- What spells something is spelled well. -/
theorem SpellsOctets.isQuotable {s meant : Octets} (h : SpellsOctets s meant) : IsQuotable s := by
  induction h with
  | nil => exact .nil
  | plain itself _ ih => exact .plain itself ih
  | letter known _ ih => exact .letter (by simp [known]) ih
  | unit known _ _ ih => exact .unit (by simp [known]) ih
  | pair known _ known' _ _ ih => exact .unit (by simp [known]) (.unit (by simp [known']) ih)

/-! ## Writing -/

theorem hexValue_hexDigitLower {n : Nat} (h : n < 16) :
    Octets.hexValue? (Octets.hexDigitLower n) = some n := by
  have all : ∀ n < 16, Octets.hexValue? (Octets.hexDigitLower n) = some n := by decide
  exact all n h

/-- A control character is one octet in UTF-8. -/
theorem reversedUtf8_control {n : Nat} (h : n < 0x20) : reversedUtf8 n = [UInt8.ofNat n] := by
  have all : ∀ n < 0x20, reversedUtf8 n = [UInt8.ofNat n] := by decide
  exact all n h

/-- A control character is written as the code unit of the same number. -/
theorem spells_control {b : UInt8} (h : b < 0x20) {s meant : Octets} (rest : SpellsOctets s meant) :
    SpellsOctets (unitEscape (zero, zero, Octets.hexDigitLower (b.toNat / 16),
      Octets.hexDigitLower (b.toNat % 16)) ++ s) (b :: meant) := by
  have small : b.toNat < 0x20 := h
  have high := hexValue_hexDigitLower (n := b.toNat / 16) (by omega)
  have low := hexValue_hexDigitLower (n := b.toNat % 16) (by omega)
  have whole : b.toNat / 16 * 16 + b.toNat % 16 = b.toNat := Nat.div_add_mod' ..
  have none : Octets.hexValue? zero = some 0 := rfl
  have known : codeUnit? (zero, zero, Octets.hexDigitLower (b.toNat / 16),
      Octets.hexDigitLower (b.toNat % 16)) = some b.toNat := by
    simp [codeUnit?, none, high, low, whole]
  have alone : isLeading b.toNat = false ∧ isTrailing b.toNat = false := by
    simp only [isLeading, isTrailing, Bool.and_eq_false_iff, decide_eq_false_iff_not]
    omega
  have octet : String.utf8EncodeChar (Char.ofNat b.toNat) = [b] := by
    have reversed := congrArg List.reverse (reversedUtf8_control small)
    simpa [reversedUtf8] using reversed
  have spells := SpellsOctets.unit known alone rest
  rwa [octet] at spells

/-- What is written for an octet spells it. -/
theorem spells_escapeOctet (b : UInt8) {s meant : Octets} (rest : SpellsOctets s meant) :
    SpellsOctets (escapeOctet b ++ s) (b :: meant) := by
  unfold escapeOctet
  split_ifs with hquote hbackslash hb hf hn hr ht hcontrol
  · rw [beq_iff_eq.mp hquote]
    exact .letter rfl rest
  · rw [beq_iff_eq.mp hbackslash]
    exact .letter rfl rest
  · rw [beq_iff_eq.mp hb]
    exact .letter rfl rest
  · rw [beq_iff_eq.mp hf]
    exact .letter rfl rest
  · rw [beq_iff_eq.mp hn]
    exact .letter rfl rest
  · rw [beq_iff_eq.mp hr]
    exact .letter rfl rest
  · rw [beq_iff_eq.mp ht]
    exact .letter rfl rest
  · exact spells_control hcontrol rest
  · exact .plain (by simp [standsForItself, bne, hquote, hbackslash, hcontrol]) rest

/-- What is written between the quotes of a text spells its octets. -/
theorem spells_written (octets : Octets) : SpellsOctets (octets.flatMap escapeOctet) octets := by
  induction octets with
  | nil => exact .nil
  | cons b octets ih => exact spells_escapeOctet b ih

end PulseBridge.Json
