import Mathlib.Algebra.Group.Int.Defs
import Mathlib.Data.List.Induction
import PulseBridge.Proofs.Json.Built

/-!
# Numbers that are read as integers

A number is read as an integer if it has neither point nor exponent, is not `-0`, and fits into 64
bits, with a sign or without; any other number is read as a double or not at all. Such a number is
spelled just as the integer is written in decimal, so that each integer is spelled in one way only.

## Main definitions

* `IsInteger`: the integer that digits stand for, with or without a sign in front.
* `Numeral.Names`: a number that is read as an integer.

## Main statements

* `exists_isInteger_iff`: the numbers with neither point nor exponent.
* `Numeral.names_iff`: such numbers are spelled as the integers are written.
* `gives_integer_iff`: which numbers are read as integers, and as which.
-/

namespace PulseBridge.Json

open Ascii

variable {s rest : Octets}

/-! ## Digits -/

/-- The decimal digits of a number are the only ones that stand for it, but for zeros in front. -/
theorem digitOctets_valueOf (h : IsWhole s) :
    digitOctets (valueOf 0 (s.map Octets.digitValue)) = s := by
  have octet {b : UInt8} (digit : Octets.isDigit b = true) :
      Octets.digitValue b < 10 ∧ digitOctet (Octets.digitValue b) = b := by
    simp only [Octets.isDigit, Bool.and_eq_true, decide_eq_true_eq, UInt8.le_iff_toNat_le,
      UInt8.reduceToNat] at digit
    have same : 0x30 + Octets.digitValue b = b.toNat := by
      rw [Octets.digitValue]
      omega
    exact ⟨by rw [Octets.digitValue]; omega, by rw [digitOctet, same, UInt8.ofNat_toNat]⟩
  induction s using List.reverseRecOn with
  | nil => exact absurd rfl h.1.1
  | append_singleton more b ih =>
      obtain ⟨small, same⟩ := octet (h.1.2 b (by simp))
      rw [List.map_append, valueOf_append, List.map_singleton]
      cases more with
      | nil =>
          have value : valueOf (valueOf 0 []) [Octets.digitValue b] = Octets.digitValue b :=
            Nat.zero_add _
          rw [List.map_nil, value, digitOctets_of_lt small, same]
          rfl
      | cons first more =>
          -- digits in front of another one do not begin with a zero, so that they are above it
          have notZero : first ≠ zero := by
            rintro rfl
            simpa using h.2 rfl
          have front : digitOctets (valueOf 0 ((first :: more).map Octets.digitValue)) =
              first :: more :=
            ih ⟨⟨List.cons_ne_nil _ _, fun c hc => h.1.2 c (List.mem_append_left _ hc)⟩,
              fun head => absurd (Option.some.inj head) notZero⟩
          generalize valueOf 0 ((first :: more).map Octets.digitValue) = n at front ⊢
          have positive : n ≠ 0 := by
            rintro rfl
            exact notZero (List.cons.inj front).1.symm
          have value : valueOf n [Octets.digitValue b] = n * 10 + Octets.digitValue b := rfl
          have quotient : (n * 10 + Octets.digitValue b) / 10 = n := by omega
          have remainder : (n * 10 + Octets.digitValue b) % 10 = Octets.digitValue b := by omega
          rw [value, digitOctets_of_le (by omega), quotient, remainder, front, same]

/-- As long as all digits fit, they are all kept. -/
theorem whole_of_exponent {n : Nat} {digits : List Nat} (small : n ≤ Decimal.significandMax)
    (h : (Decimal.Scaled.whole ⟨n, 0⟩ digits).exponent = 0) :
    (Decimal.Scaled.whole ⟨n, 0⟩ digits).significand = valueOf n digits ∧
      (Decimal.Scaled.whole ⟨n, 0⟩ digits).significand ≤ Decimal.significandMax := by
  induction digits generalizing n with
  | nil => exact ⟨rfl, small⟩
  | cons d digits ih =>
      rw [Decimal.Scaled.whole] at h ⊢
      split_ifs at h ⊢ with fits
      · exact ih (by simpa [Decimal.fits] using fits) h
      · simp only at h
        omega

/-! ## Reading integers -/

/-- Whether a number is a double. -/
def Number.IsFloat (n : Number) : Prop := ∃ x, n = .float x

section Integers

variable {negative : Bool} {x : Decimal.Scaled} {n : Number}

theorem Number.not_isFloat_integer (k : Int) : ¬ (integer k).IsFloat := nofun

theorem isFloat_of_finishFloat (h : finishFloat negative x s = .ok (n, rest)) : n.IsFloat := by
  rw [finishFloat] at h
  split at h <;> cases h
  exact ⟨_, rfl⟩

theorem isFloat_of_readExponentDigits {down : Bool} {e : Nat}
    (h : readExponentDigits negative x down e s = .ok (n, rest)) : n.IsFloat := by
  induction s generalizing e with
  | nil => exact isFloat_of_finishFloat h
  | cons b s ih =>
      unfold readExponentDigits at h
      by_cases digit : Octets.isDigit b = true
      · rw [if_pos digit] at h
        dsimp only at h
        split_ifs at h
        · cases h
          exact ⟨_, rfl⟩
        · exact ih h
      · rw [if_neg digit] at h
        exact isFloat_of_finishFloat h

theorem isFloat_of_readExponent (h : readExponent negative x s = .ok (n, rest)) : n.IsFloat := by
  unfold readExponent at h
  split at h
  split at h
  · cases h
  · split_ifs at h
    exact isFloat_of_readExponentDigits h

/-- With a point or an exponent a number is a double. So what follows the digits of an integer is no
part of it. -/
theorem integer_of_readAfterWhole {whole : List Nat} {k : Int}
    (h : readAfterWhole negative whole s = .ok (.integer k, rest)) :
    s = rest ∧ (Decimal.Scaled.whole ⟨0, 0⟩ whole).exponent = 0 ∧
      let n := (Decimal.Scaled.whole ⟨0, 0⟩ whole).significand
      if negative then 0 < n ∧ n ≤ 0x8000000000000000 ∧ k = -(n : Int) else k = n := by
  have noFloat := Number.not_isFloat_integer k
  unfold readAfterWhole at h
  dsimp only at h
  split at h
  · split at h
    · cases h
    · cases h
    · split at h
      · exact absurd (isFloat_of_readExponent h) noFloat
      · exact absurd (isFloat_of_readExponent h) noFloat
      · exact absurd (isFloat_of_finishFloat h) noFloat
  · exact absurd (isFloat_of_readExponent h) noFloat
  · exact absurd (isFloat_of_readExponent h) noFloat
  · split_ifs at h with fits positive large
    · exact absurd (isFloat_of_finishFloat h) noFloat
    · cases h
      refine ⟨rfl, by simpa using fits, ?_⟩
      simp only [Bool.not_eq_true'] at positive
      simp [positive]
    · cases h
    · cases h
      refine ⟨rfl, by simpa using fits, ?_⟩
      simp only [Bool.not_eq_true', Bool.not_eq_false] at positive
      simp only [Bool.or_eq_true, beq_iff_eq, decide_eq_true_eq, not_or] at large
      dsimp only
      rw [if_pos positive]
      exact ⟨by omega, by omega, rfl⟩

/-- A number is read as an integer only if it is spelled by the digits of one of 64 bits, and then it
is theirs, or a negative one after a sign. -/
theorem integer_of_readNumber (h : IsUnsigned s) {k : Int}
    (read : readNumber negative s = .ok (.integer k, [])) :
    ∃ n : Nat, s = digitOctets n ∧ n ≤ Decimal.significandMax ∧
      if negative then 0 < n ∧ n ≤ 0x8000000000000000 ∧ k = -(n : Int) else k = n := by
  obtain @⟨whole, fraction, exponent, hwhole, hfraction, hexponent⟩ := h
  have ends : EndsDigits (fraction ++ exponent) := by
    have further := endsFraction_exponent hexponent follows_nil
    rw [List.append_nil] at further
    exact endsDigits_fraction hfraction fun b hb => (further b hb).1
  rw [readNumber_whole negative hwhole ends] at read
  obtain ⟨ended, fits, value⟩ := integer_of_readAfterWhole read
  obtain ⟨same, small⟩ := whole_of_exponent (Nat.zero_le _) fits
  rw [ended, List.append_nil]
  rw [same] at value small
  exact ⟨_, (digitOctets_valueOf hwhole).symm, small, value⟩

end Integers

/-! ## Digits after a sign -/

variable {n n' : Int}

/-- Whether a number is digits, after a sign or after none, and the integer that they stand for. -/
inductive IsInteger : Octets → Int → Prop
  | unsigned {digits : Octets} (h : IsWhole digits) :
      IsInteger digits (valueOf 0 (digits.map Octets.digitValue) : Nat)
  | negative {digits : Octets} (h : IsWhole digits) :
      IsInteger (minus :: digits) (-(valueOf 0 (digits.map Octets.digitValue) : Nat))

/-- Whether a number has neither a point nor an exponent. -/
def IsPlain (s : Octets) : Prop := dot ∉ s ∧ lowerE ∉ s ∧ upperE ∉ s

theorem isPlain_of_isWhole {digits : Octets} (h : IsWhole digits) : IsPlain digits := by
  have other (b : UInt8) (noDigit : Octets.isDigit b = false) : b ∉ digits := fun mem => by
    rw [h.1.2 b mem] at noDigit
    cases noDigit
  exact ⟨other dot rfl, other lowerE rfl, other upperE rfl⟩

/-- Digits are all there is of a number without point and exponent. -/
theorem IsUnsigned.isWhole (h : IsUnsigned s) (plain : IsPlain s) : IsWhole s := by
  obtain @⟨whole, fraction, exponent, hwhole, hfraction, hexponent⟩ := h
  obtain ⟨noPoint, noLower, noUpper⟩ := plain
  cases hfraction with
  | digits _ => simp at noPoint
  | none =>
      cases hexponent with
      | none => simpa using hwhole
      | digits letter _ _ => rcases letter with rfl | rfl <;> simp at noLower noUpper

/-- The integers among the numbers are those with neither point nor exponent. -/
theorem exists_isInteger_iff (numeral : Numeral) :
    (∃ n, IsInteger numeral.octets n) ↔ IsPlain numeral.octets := by
  obtain ⟨octets, isNumber⟩ := numeral
  have signed {digits : Octets} : IsPlain (minus :: digits) ↔ IsPlain digits := by
    simp [IsPlain, show dot ≠ minus by decide, show lowerE ≠ minus by decide,
      show upperE ≠ minus by decide]
  constructor
  · rintro ⟨n, integer⟩
    dsimp only at integer ⊢
    cases integer with
    | unsigned h => exact isPlain_of_isWhole h
    | negative h => exact signed.mpr (isPlain_of_isWhole h)
  · intro plain
    cases isNumber with
    | unsigned h => exact ⟨_, .unsigned (h.isWhole plain)⟩
    | negative h => exact ⟨_, .negative (h.isWhole (signed.mp plain))⟩

/-! ## Decimal texts -/

/-- An integer is written as digits, or as a sign and the digits of a positive number. -/
theorem written_cases (n : Int) :
    (∃ k : Nat, n = k ∧ Octets.ofText (toString n) = digitOctets k) ∨
      ∃ k : Nat, 0 < k ∧ n = -(k : Int) ∧ Octets.ofText (toString n) = minus :: digitOctets k := by
  rcases Int.lt_or_le n 0 with below | above
  · obtain ⟨k, rfl⟩ : ∃ k : Nat, n = -(k : Int) := ⟨n.natAbs, by omega⟩
    exact .inr ⟨k, by omega, rfl, ofText_toString_neg (by omega)⟩
  · obtain ⟨k, rfl⟩ := Int.eq_ofNat_of_zero_le above
    exact .inl ⟨k, rfl, ofText_toString k⟩

theorem digitOctets_ne_minus (k : Nat) (tail : Octets) : digitOctets k ≠ minus :: tail := by
  obtain ⟨b, more, digits, digit⟩ := digitOctets_eq_cons k
  rintro same
  rw [digits] at same
  exact ne_of_isDigit digit rfl (List.cons.inj same).1

/-- A zero after a sign. -/
def minusZero : Octets := [minus, zero]

/-- An integer is spelled as it is written, except for a zero after a sign. -/
theorem IsInteger.octets_eq (h : IsInteger s n) (other : s ≠ minusZero) :
    s = Octets.ofText (toString n) := by
  cases h with
  | @unsigned digits h => exact ((ofText_toString _).trans (digitOctets_valueOf h)).symm
  | @negative digits h =>
      have canonical := digitOctets_valueOf h
      generalize valueOf 0 (digits.map Octets.digitValue) = k at canonical ⊢
      have positive : 0 < k := by
        rw [Nat.pos_iff_ne_zero]
        rintro rfl
        exact other (canonical ▸ rfl)
      rw [ofText_toString_neg positive, canonical]

/-- What is written of an integer stands for it, and it is no zero after a sign. -/
theorem isInteger_written (n : Int) :
    IsInteger (Octets.ofText (toString n)) n ∧ Octets.ofText (toString n) ≠ minusZero := by
  rcases written_cases n with ⟨k, rfl, written⟩ | ⟨k, positive, rfl, written⟩
  · have integer := IsInteger.unsigned (isWhole_digitOctets k)
    rw [valueOf_digitOctets] at integer
    exact ⟨written ▸ integer, written ▸ digitOctets_ne_minus k _⟩
  · have integer := IsInteger.negative (isWhole_digitOctets k)
    rw [valueOf_digitOctets] at integer
    refine ⟨written ▸ integer, fun same => ?_⟩
    have digits : digitOctets k = [zero] := (List.cons.inj (written.symm.trans same)).2
    have value := valueOf_digitOctets k
    rw [digits] at value
    exact absurd value.symm (Nat.ne_of_gt positive)

theorem IsInteger.unique (h : IsInteger s n) (h' : IsInteger s n') : n = n' := by
  have noMinus {digits : Octets} (h : IsWhole (minus :: digits)) : False := by
    have digit := h.1.2 minus List.mem_cons_self
    cases digit
  cases h with
  | unsigned h =>
      cases h' with
      | unsigned _ => rfl
      | negative _ => exact (noMinus h).elim
  | negative _ =>
      cases h' with
      | unsigned h => exact (noMinus h).elim
      | negative _ => rfl

/-! ## Reading -/

/-- Whether a number is read as an integer, and as which: it has neither point nor exponent, it is
not `-0`, and it has 64 bits, with a sign or without. -/
structure Numeral.Names (numeral : Numeral) (n : Int) : Prop where
  integer : IsInteger numeral.octets n
  notMinusZero : numeral.octets ≠ minusZero
  low : -2 ^ 63 ≤ n
  high : n ≤ 2 ^ 64 - 1

/-- A number names the integer of 64 bits that is written as it is spelled. -/
theorem Numeral.names_iff {numeral : Numeral} :
    numeral.Names n ↔
      numeral.octets = Octets.ofText (toString n) ∧ -2 ^ 63 ≤ n ∧ n ≤ 2 ^ 64 - 1 := by
  constructor
  · rintro ⟨integer, notMinusZero, low, high⟩
    exact ⟨integer.octets_eq notMinusZero, low, high⟩
  · rintro ⟨written, low, high⟩
    obtain ⟨integer, notMinusZero⟩ := isInteger_written n
    exact ⟨written ▸ integer, written ▸ notMinusZero, low, high⟩

/-- A number gives what is read of it, if its reading leads to the one of a value. -/
theorem gives_iff_of_read {numeral : Numeral} {read : Except Fault (Number × Octets)}
    (h : readValue 0 numeral.octets = read.map fun (number, rest) => (.number number, rest))
    (number : Number) : numeral.Gives number ↔ read = .ok (number, []) := by
  obtain ⟨given, makes⟩ := exists_number numeral
  have value := makes 0 [] numeral.octets [] blanks_nil rfl follows_nil
  rw [List.append_nil, List.nil_append, h, toOption_map] at value
  rw [gives_iff makes]
  cases read <;> cases given <;> simp_all [Except.toOption, Prod.ext_iff]

theorem gives_unsigned_iff (h : IsUnsigned s) (number : Number) :
    Numeral.Gives ⟨s, .unsigned h⟩ number ↔ readNumber false s = .ok (number, []) := by
  apply gives_iff_of_read
  obtain ⟨b, tail, rfl, digit, -⟩ := h.skip
  have begins := skipBlanks_cons (isBlank_of_isDigit digit) tail
  exact (readValue_scalar begins (ne_of_isDigit digit rfl) (ne_of_isDigit digit rfl)).trans
    (readScalar_digit digit tail)

theorem gives_negative_iff (h : IsUnsigned s) (number : Number) :
    Numeral.Gives ⟨minus :: s, .negative h⟩ number ↔ readNumber true s = .ok (number, []) :=
  gives_iff_of_read (readValue_scalar (skipBlanks_cons rfl s) (by decide) (by decide)) number

/-- A number is read as an integer exactly if it names one. -/
theorem gives_integer_iff {numeral : Numeral} :
    numeral.Gives (.integer n) ↔ numeral.Names n := by
  rw [Numeral.names_iff]
  obtain ⟨octets, isNumber⟩ := numeral
  cases isNumber with
  | unsigned h =>
      rw [gives_unsigned_iff h]
      constructor
      · intro read
        obtain ⟨k, digits, bound, value⟩ := integer_of_readNumber h read
        obtain rfl : n = k := value
        have small : k ≤ 0xFFFFFFFFFFFFFFFF := bound
        exact ⟨digits.trans (ofText_toString k).symm, by omega, by omega⟩
      · rintro ⟨written, -, high⟩
        dsimp only at written
        rcases written_cases n with ⟨k, rfl, digits⟩ | ⟨k, -, rfl, digits⟩
        · have small : k ≤ 0xFFFFFFFFFFFFFFFF := by omega
          have read := readNumber_nat small follows_nil
          rwa [← digits, ← written, List.append_nil] at read
        · obtain ⟨b, tail, begins, digit, -⟩ := h.skip
          have sign := begins.symm.trans (written.trans digits)
          exact absurd (List.cons.inj sign).1 (ne_of_isDigit digit rfl)
  | @negative s h =>
      rw [gives_negative_iff h]
      constructor
      · intro read
        obtain ⟨k, digits, -, value⟩ := integer_of_readNumber h read
        obtain ⟨positive, small, same⟩ :
            0 < k ∧ k ≤ 0x8000000000000000 ∧ n = -(k : Int) := value
        subst same
        refine ⟨?_, by omega, by omega⟩
        exact (congrArg (minus :: ·) digits).trans (ofText_toString_neg positive).symm
      · rintro ⟨written, low, -⟩
        dsimp only at written
        rcases written_cases n with ⟨k, rfl, digits⟩ | ⟨k, positive, rfl, digits⟩
        · exact absurd (written.trans digits).symm (digitOctets_ne_minus k s)
        · have read := readNumber_neg positive (by omega) follows_nil
          rwa [← (List.cons.inj (written.trans digits)).2, List.append_nil] at read

end PulseBridge.Json
