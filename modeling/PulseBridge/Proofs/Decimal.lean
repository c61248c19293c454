import Mathlib.Algebra.Group.Nat.Defs
import Mathlib.Data.List.TakeWhile
import PulseBridge.Proofs.Json.Numerals

/-!
# What is written of a double is a number

The shortest decimal of a double that is not zero has a coefficient that is not zero either, since
every decimal in the interval around it is positive. Set out as text, whether positionally or with
an exponent, it is therefore a number by the grammar of JSON: its digits begin with no zero that has
others behind it.

## Main statements

* `coefficient_shortest_pos`: the shortest decimal of a positive number is positive.
* `isNumber_text`: a finite double is written as a number.
-/

namespace PulseBridge.Decimal

/-! ## Positive quotients -/

/-- Whether a quotient stands for a positive number. -/
structure Quotient.IsPositive (x : Quotient) : Prop where
  numerator : 0 < x.numerator
  denominator : 0 < x.denominator

theorem Quotient.isPositive_ofBinary {m : Nat} (h : 0 < m) (q : Int) :
    (ofBinary m q).IsPositive := by
  unfold ofBinary
  split
  · exact ⟨Nat.mul_pos h (Nat.two_pow_pos _), Nat.one_pos⟩
  · exact ⟨h, Nat.two_pow_pos _⟩

theorem Quotient.IsPositive.timesTen {x : Quotient} (h : x.IsPositive) (e : Int) :
    (x.timesTen e).IsPositive := by
  unfold Quotient.timesTen
  split
  · exact ⟨Nat.mul_pos h.numerator (Nat.pow_pos (by decide)), h.denominator⟩
  · exact ⟨h.numerator, Nat.mul_pos h.denominator (Nat.pow_pos (by decide))⟩

/-- A number below a power of ten has at most as many digits. -/
theorem length_digitsOf_le_iff {n k : Nat} (h : 0 < k) :
    (digitsOf n).length ≤ k ↔ n < 10 ^ k :=
  Nat.length_toDigits_le_iff (by decide) h

theorem length_digitsOf_pos (n : Nat) : 0 < (digitsOf n).length :=
  List.length_pos_of_ne_nil Nat.toDigits_ne_nil

theorem lt_pow_length_digitsOf (n : Nat) : n < 10 ^ (digitsOf n).length :=
  (length_digitsOf_le_iff (length_digitsOf_pos n)).mp (Nat.le_refl _)

/-- A positive number is at least the power of ten of its leading digit. -/
theorem pow_le_of_pos {n : Nat} (h : 0 < n) : 10 ^ ((digitsOf n).length - 1) ≤ n := by
  rcases Nat.eq_zero_or_pos ((digitsOf n).length - 1) with hzero | hpos
  · rw [hzero]
    exact h
  · apply Nat.le_of_not_lt
    intro below
    have short := (length_digitsOf_le_iff hpos).mpr below
    omega

/-- A positive quotient is at least one after it is scaled down by no more than its leading
power of ten. -/
theorem Quotient.IsPositive.one_le {x : Quotient} (h : x.IsPositive) {e : Int}
    (le : e ≤ x.leadingPower) : (x.timesTen (-e)).denominator ≤ (x.timesTen (-e)).numerator := by
  unfold leadingPower at le
  split at le
  case isTrue atLeastOne =>
    -- Its leading power is not negative, so there may be something to divide by.
    have whole : 0 < x.numerator / x.denominator := Nat.div_pos atLeastOne h.denominator
    unfold Quotient.timesTen
    split
    · exact Nat.le_trans atLeastOne (Nat.le_mul_of_pos_right _ (Nat.pow_pos (by decide)))
    · have power : (-(-e)).toNat ≤ (digitsOf (x.numerator / x.denominator)).length - 1 := by omega
      calc x.denominator * 10 ^ (-(-e)).toNat
          ≤ x.denominator * 10 ^ ((digitsOf (x.numerator / x.denominator)).length - 1) :=
            Nat.mul_le_mul_left _ (Nat.pow_le_pow_right (by decide) power)
        _ ≤ x.denominator * (x.numerator / x.denominator) :=
            Nat.mul_le_mul_left _ (pow_le_of_pos whole)
        _ ≤ x.numerator := Nat.mul_div_le _ _
  case isFalse belowOne =>
    have power : (digitsOf ((x.denominator - 1) / x.numerator)).length ≤ (-e).toNat := by omega
    have below : (x.denominator - 1) / x.numerator < 10 ^ (-e).toNat :=
      Nat.lt_of_lt_of_le (lt_pow_length_digitsOf _) (Nat.pow_le_pow_right (by decide) power)
    have scaled : x.denominator - 1 < 10 ^ (-e).toNat * x.numerator :=
      (Nat.div_lt_iff_lt_mul h.numerator).mp below
    unfold Quotient.timesTen
    rw [if_pos (by omega), Nat.pow_eq, Nat.mul_comm x.numerator]
    dsimp only
    omega

/-! ## Decimals in the interval -/

theorem Interval.low_around_pos {m : Nat} (h : 0 < m) (q : Int) (narrowBelow : Bool) :
    (around m q narrowBelow).low.IsPositive := by
  apply Quotient.isPositive_ofBinary
  split <;> omega

/-- Only positive decimals lie in an interval above zero. -/
theorem Interval.pos_of_contains {i : Interval} (low : i.low.IsPositive) {k : Nat} {e : Int}
    (h : i.contains k e = true) : 0 < k := by
  have positive := (low.timesTen (-e)).numerator
  rcases Nat.eq_zero_or_pos k with rfl | hk
  · unfold contains at h
    split at h
    · simp only [Nat.zero_mul, Bool.and_eq_true, decide_eq_true_eq] at h
      omega
    · simp only [Nat.zero_mul, Bool.and_eq_true, decide_eq_true_eq] at h
      omega
  · exact hk

theorem Interval.pos_of_neighbour {i : Interval} (low : i.low.IsPositive) {x : Quotient} {e : Int}
    {k : Nat} (h : i.neighbour? x e = some k) : 0 < k := by
  unfold neighbour? at h
  dsimp only at h
  split at h
  · next lower _ =>
      have pos := pos_of_contains low lower
      split at h <;> cases h <;> omega
  · next lower _ =>
      cases h
      exact pos_of_contains low lower
  · cases h
    exact Nat.succ_pos _
  · cases h

/-- Whatever is found on the grids is positive. -/
theorem coefficient_searchGrids_pos {i : Interval} (low : i.low.IsPositive) {x : Quotient}
    (hx : x.IsPositive) {n : Nat} {e : Int} (le : e ≤ x.leadingPower) :
    0 < (searchGrids i x n e).coefficient := by
  induction n generalizing e with
  | zero => exact Nat.div_pos (hx.one_le le) (hx.timesTen (-e)).denominator
  | succ n ih =>
      rw [searchGrids]
      split
      · next k found => exact Interval.pos_of_neighbour low found
      · exact ih (by omega)

/-- The digits of a positive number do not begin with zero. -/
theorem head_digitsOf {n : Nat} (h : 0 < n) : ∃ c rest, digitsOf n = c :: rest ∧ c ≠ '0' := by
  obtain ⟨b, octets, digits, notZero, -⟩ := Json.head_digitOctets h
  obtain ⟨c, rest, chars⟩ := List.exists_cons_of_ne_nil (Nat.toDigits_ne_nil (n := n) (b := 10))
  refine ⟨c, rest, chars, ?_⟩
  rintro rfl
  have first : digitsOf n = '0' :: rest := chars
  rw [Json.digitOctets, first] at digits
  exact notZero (List.cons.inj digits).1.symm

/-- Dropping the zeros at its end leaves a positive coefficient positive. -/
theorem coefficient_strip_pos {d : Digits} (h : 0 < d.coefficient) : 0 < d.strip.coefficient := by
  obtain ⟨c, rest, digits, notZero⟩ := head_digitsOf h
  have fewer : ((digitsOf d.coefficient).reverse.takeWhile (· == '0')).length <
      (digitsOf d.coefficient).length := by
    rw [← (digitsOf d.coefficient).length_reverse]
    apply Nat.lt_of_le_of_ne (List.takeWhile_prefix _).length_le
    -- Were all of them zeros, so would be the first.
    intro all
    have same := (List.takeWhile_prefix _).eq_of_length all
    have zero := List.takeWhile_eq_self_iff.mp same c (by simp [digits])
    exact notZero (beq_iff_eq.mp zero)
  have small : 10 ^ ((digitsOf d.coefficient).reverse.takeWhile (· == '0')).length ≤ d.coefficient :=
    Nat.le_trans (Nat.pow_le_pow_right (by decide) (Nat.le_pred_of_lt fewer)) (pow_le_of_pos h)
  unfold Digits.strip
  dsimp only
  rw [if_neg (by simpa using Nat.ne_of_gt h)]
  exact Nat.div_pos small (Nat.pow_pos (by decide))

/-- The shortest decimal of a positive number is positive. -/
theorem coefficient_shortest_pos {m : Nat} (h : 0 < m) (q : Int) (narrowBelow : Bool) :
    0 < (shortest m q narrowBelow).coefficient := by
  apply coefficient_strip_pos
  apply coefficient_searchGrids_pos
  · exact Interval.low_around_pos h q narrowBelow
  · exact Quotient.isPositive_ofBinary h q
  · exact Int.le_refl _

/-! ## Doubles taken apart -/

open Float.Model in
/-- A finite double does not have the exponent of those that are no numbers. -/
theorem exponent_of_isFinite {x : Float} (h : x.isFinite = true) :
    x.toBits.toNat / 0x10000000000000 % 0x800 ≠ 2047 := by
  intro ones
  have exponent : @UnpackedFloat.unpackExponent Format.binary64 x.toBits.toBitVec = -1#11 := by
    apply BitVec.eq_of_toNat_eq
    simp only [UnpackedFloat.unpackExponent, BitVec.toNat_cast, BitVec.extractLsb_toNat,
      Nat.shiftRight_eq_div_pow]
    exact ones
  have special : UnpackedFloat.unpack Format.binary64 x.toBits.toBitVec =
      if @UnpackedFloat.unpackMantissa Format.binary64 x.toBits.toBitVec = 0 then
        .infinity (.ofBitVec (@UnpackedFloat.unpackSign Format.binary64 x.toBits.toBitVec))
      else .notANumber := if_pos exponent
  have finite : (UnpackedFloat.unpack Format.binary64 x.toBits.toBitVec).isFinite = true := h
  rw [special] at finite
  split at finite <;> cases finite

/-- A finite double is zero or has a positive significand. -/
theorem parts_of_isFinite {x : Float} (h : x.isFinite = true) :
    (∃ negative, Parts.ofFloat x = .zero negative) ∨
      ∃ negative m q narrowBelow, 0 < m ∧ Parts.ofFloat x = .finite negative m q narrowBelow := by
  have exponent := exponent_of_isFinite h
  unfold Parts.ofFloat
  dsimp only
  rw [if_neg (by simpa using exponent)]
  split
  · split
    · exact .inl ⟨_, rfl⟩
    · next fraction => exact .inr ⟨_, _, _, _, Nat.pos_of_ne_zero (by simpa using fraction), rfl⟩
  · exact .inr ⟨_, _, _, _, by omega, rfl⟩

/-! ## Layouts -/

open Json (IsUnsigned IsNumber IsDigits IsWhole IsFraction IsExponent numberLayout)
open Octets (ofText)

section Texts

variable {cs : List Char}

/-- Whether a text consists of digits. -/
def AllDigits (cs : List Char) : Prop := ∀ c ∈ cs, 0x30 ≤ c.toNat ∧ c.toNat ≤ 0x39

theorem allDigits_digitsOf (n : Nat) : AllDigits (digitsOf n) := fun _ hc => Json.digit_bounds hc

theorem AllDigits.zeros (n : Nat) : AllDigits (List.replicate n '0') := by
  intro c hc
  rw [List.eq_of_mem_replicate hc]
  decide

theorem AllDigits.append {ds : List Char} (hc : AllDigits cs) (hd : AllDigits ds) :
    AllDigits (cs ++ ds) := by
  intro c h
  rcases List.mem_append.mp h with h | h
  · exact hc c h
  · exact hd c h

theorem AllDigits.of_subset {ds : List Char} (h : AllDigits ds) (sub : cs ⊆ ds) : AllDigits cs :=
  fun c hc => h c (sub hc)

theorem AllDigits.ofText_eq (h : AllDigits cs) :
    ofText (String.ofList cs) = cs.map fun c => UInt8.ofNat c.toNat :=
  Octets.ofText_ascii fun c hc => Nat.lt_of_le_of_lt (h c hc).2 (by decide)

theorem AllDigits.isDigits (h : AllDigits cs) (some : cs ≠ []) :
    IsDigits (ofText (String.ofList cs)) := by
  rw [h.ofText_eq]
  refine ⟨by simpa using some, ?_⟩
  intro b hb
  obtain ⟨c, hc, rfl⟩ := List.mem_map.mp hb
  exact Json.isDigit_of_bounds (h c hc)

/-- Digits may stand before the point if they begin with another digit than zero, or with nothing
behind it. -/
theorem AllDigits.isWhole {c : Char} (h : AllDigits (c :: cs)) (alone : c = '0' → cs = []) :
    IsWhole (ofText (String.ofList (c :: cs))) := by
  refine ⟨h.isDigits (List.cons_ne_nil c cs), ?_⟩
  rw [h.ofText_eq, List.map_cons]
  intro zeroFirst
  have octet : UInt8.ofNat c.toNat = Ascii.zero := Option.some.inj zeroFirst
  have bounds := h c List.mem_cons_self
  have code : c.toNat = 0x30 := by
    have same : (UInt8.ofNat c.toNat).toNat = 0x30 := congrArg UInt8.toNat octet
    rw [UInt8.toNat_ofNat'] at same
    omega
  rw [alone (Char.toNat_inj.mp code), octet]
  rfl

/-- The digits of a number begin with zero only if the number is zero. -/
theorem digitsOf_eq_cons (n : Nat) :
    ∃ c rest, digitsOf n = c :: rest ∧ (c = '0' → n = 0 ∧ rest = []) := by
  rcases Nat.eq_zero_or_pos n with rfl | hpos
  · exact ⟨'0', [], rfl, fun _ => ⟨rfl, rfl⟩⟩
  · obtain ⟨c, rest, digits, notZero⟩ := head_digitsOf hpos
    exact ⟨c, rest, digits, fun zero => absurd zero notZero⟩

end Texts

section Layouts

variable {d : Digits}

/-- Digits that are set out positionally are a number, unless zeros are put behind a zero. -/
theorem isUnsigned_positional (h : d.coefficient = 0 → d.exponent ≤ 0) :
    IsUnsigned (ofText (numberLayout.positional d)) := by
  obtain ⟨c, rest, digits, alone⟩ := digitsOf_eq_cons d.coefficient
  have all : AllDigits (c :: rest) := digits ▸ allDigits_digitsOf d.coefficient
  unfold Layout.positional
  dsimp only
  rw [digits]
  split
  case isTrue integral =>
    have whole : IsWhole
        (ofText (String.ofList (c :: (rest ++ List.replicate d.exponent.toNat '0')))) := by
      apply AllDigits.isWhole (all.append (AllDigits.zeros _))
      -- Nothing is put behind a zero, as its exponent is not positive.
      intro zero
      obtain ⟨coefficient, rfl⟩ := alone zero
      have := h coefficient
      rw [List.append_eq, List.nil_append, List.replicate_eq_nil_iff]
      omega
    have zero : IsDigits [Ascii.zero] := Json.isDigits_digitOctets 0
    have fraction : IsFraction (ofText numberLayout.integralEnd) := .digits zero
    have number := IsUnsigned.parts whole fraction .none
    rw [List.append_nil, ← Octets.ofText_append] at number
    exact number
  case isFalse fractional =>
    split
    case isTrue places =>
      -- The point stands among the digits, with at least one before it.
      obtain ⟨k, hk⟩ : ∃ k, (c :: rest).length - (-d.exponent).toNat = k + 1 :=
        Nat.exists_eq_succ_of_ne_zero (by omega)
      have whole : IsWhole (ofText (String.ofList (c :: rest.take k))) := by
        apply AllDigits.isWhole (all.of_subset (List.take_subset (k + 1) (c :: rest)))
        intro zero
        rw [(alone zero).2, List.take_nil]
      have some : rest.drop k ≠ [] := by
        rw [ne_eq, List.drop_eq_nil_iff]
        simp only [List.length_cons] at hk places
        omega
      have fraction : IsFraction (Ascii.dot :: ofText (String.ofList (rest.drop k))) :=
        .digits ((all.of_subset (List.drop_subset (k + 1) (c :: rest))).isDigits some)
      have number := IsUnsigned.parts whole fraction .none
      rw [hk, Octets.ofText_append, Octets.ofText_append, List.append_assoc]
      rw [List.append_nil] at number
      exact number
    case isFalse =>
      -- The point stands before all digits, so zeros may have to fill the gap.
      have whole : IsWhole (ofText "0") := Json.isWhole_digitOctets 0
      have fraction : IsFraction (Ascii.dot :: ofText (String.ofList
          (List.replicate ((-d.exponent).toNat - (c :: rest).length) '0' ++ c :: rest))) :=
        .digits (((AllDigits.zeros _).append all).isDigits (by simp))
      have number := IsUnsigned.parts whole fraction .none
      rw [Octets.ofText_append]
      rw [List.append_nil] at number
      exact number

/-- An exponent that is written with its sign. -/
theorem isExponent_toString (power : Int) :
    IsExponent (ofText ("e" ++ if power < 0 then toString power
      else numberLayout.exponentSign ++ toString power)) := by
  rw [Octets.ofText_append]
  split
  case isTrue negative =>
    obtain ⟨n, rfl⟩ : ∃ n : Nat, power = -(n : Int) := ⟨power.natAbs, by omega⟩
    have exponent : IsExponent (Ascii.lowerE :: ([Ascii.minus] ++ Json.digitOctets n)) :=
      .digits (.inl rfl) (.inr (.inr rfl)) (Json.isDigits_digitOctets n)
    rw [Json.ofText_toString_neg (by omega)]
    exact exponent
  case isFalse negative =>
    obtain ⟨n, rfl⟩ := Int.eq_ofNat_of_zero_le (Int.not_lt.mp negative)
    have exponent : IsExponent (Ascii.lowerE :: ([Ascii.plus] ++ Json.digitOctets n)) :=
      .digits (.inl rfl) (.inr (.inl rfl)) (Json.isDigits_digitOctets n)
    rw [Octets.ofText_append, show toString (n : Int) = toString n from rfl, Json.ofText_toString]
    exact exponent

/-- Digits after the first one stand behind a point. -/
theorem isFraction_further (rest : List Char) : AllDigits rest → IsFraction (ofText
    (match rest with
      | [] => ""
      | rest => "." ++ String.ofList rest)) := by
  intro all
  split
  · exact .none
  · next some =>
      rw [Octets.ofText_append]
      exact .digits (all.isDigits some)

/-- Digits that are set out with an exponent are a number. -/
theorem isUnsigned_scientific (d : Digits) : IsUnsigned (ofText (numberLayout.scientific d)) := by
  obtain ⟨c, rest, digits, -⟩ := digitsOf_eq_cons d.coefficient
  have all : AllDigits (c :: rest) := digits ▸ allDigits_digitsOf d.coefficient
  have whole : IsWhole (ofText (String.ofList [c])) :=
    AllDigits.isWhole (all.of_subset (List.take_subset 1 (c :: rest))) fun _ => rfl
  have fraction := isFraction_further rest (all.of_subset (List.drop_subset 1 (c :: rest)))
  have number := IsUnsigned.parts whole fraction
    (isExponent_toString (((c :: rest).length : Int) - 1 + d.exponent))
  rw [← Octets.ofText_append, ← Octets.ofText_append] at number
  unfold Layout.scientific
  dsimp only
  rw [digits, String.append_assoc, String.append_assoc]
  exact number

theorem isUnsigned_digitsText (h : d.coefficient = 0 → d.exponent ≤ 0) :
    IsUnsigned (ofText (numberLayout.digitsText d)) := by
  unfold Layout.digitsText
  dsimp only
  split
  · exact isUnsigned_positional h
  · exact isUnsigned_scientific d

theorem isNumber_signed {text : String} (h : IsUnsigned (ofText text)) (negative : Bool) :
    IsNumber (ofText ((if negative then "-" else "") ++ text)) := by
  rw [Octets.ofText_append]
  cases negative with
  | true => exact .negative h
  | false => exact .unsigned h

end Layouts

/-- A finite double is written as a number. -/
theorem isNumber_text {x : Float} (h : x.isFinite = true) :
    IsNumber (ofText (numberLayout.text x)) := by
  unfold Layout.text
  dsimp only
  rcases parts_of_isFinite h with ⟨negative, parts⟩ | ⟨negative, m, q, narrowBelow, positive, parts⟩
  · rw [parts]
    exact isNumber_signed (isUnsigned_digitsText fun _ => Int.le_refl 0) negative
  · rw [parts]
    apply isNumber_signed
    apply isUnsigned_digitsText
    intro zero
    exact absurd zero (Nat.ne_of_gt (coefficient_shortest_pos positive q narrowBelow))

end PulseBridge.Decimal
