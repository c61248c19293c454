import PulseBridge.Proofs.Json.Fields
import PulseBridge.Proofs.Utf8

/-!
# Integers come back as they were written

The digits of a natural number are octets of which the first is no zero, unless it is the only one.
Reading them gives the number again as long as it fits into 64 bits, and so does reading the digits
of a signed number after its sign.

## Main statements

* `reads_u64`, `reads_i64`: what is written of an integer is read back.
-/

namespace PulseBridge.Json

open Ascii

/-! ## Digits -/

/-- The octets of the digits of a number. -/
def digitOctets (n : Nat) : Octets := (Decimal.digitsOf n).map fun c => UInt8.ofNat c.toNat

theorem digit_bounds {n : Nat} {c : Char} (h : c ∈ Decimal.digitsOf n) :
    0x30 ≤ c.toNat ∧ c.toNat ≤ 0x39 := by
  have digit : c.isDigit = true := Nat.isDigit_of_mem_toDigits (by decide) (by decide) h
  simpa [Char.isDigit, UInt32.le_iff_toNat_le, ← Char.toNat_val] using digit

theorem ofText_digitsOf (n : Nat) :
    Octets.ofText (String.ofList (Decimal.digitsOf n)) = digitOctets n := by
  apply Octets.ofText_ascii
  intro c hc
  exact Nat.lt_of_le_of_lt (digit_bounds hc).2 (by decide)

theorem ofText_toString (n : Nat) : Octets.ofText (toString n) = digitOctets n := by
  rw [Nat.toString_eq_ofList_toDigits]
  exact ofText_digitsOf n

/-- The octet of a digit is a digit. -/
theorem isDigit_of_bounds {c : Char} (h : 0x30 ≤ c.toNat ∧ c.toNat ≤ 0x39) :
    Octets.isDigit (UInt8.ofNat c.toNat) = true := by
  simp only [Octets.isDigit, Bool.and_eq_true, decide_eq_true_eq, UInt8.le_iff_toNat_le,
    UInt8.toNat_ofNat', UInt8.reduceToNat]
  omega

theorem isDigit_of_mem_digitOctets {n : Nat} {b : UInt8} (h : b ∈ digitOctets n) :
    Octets.isDigit b = true := by
  obtain ⟨c, hc, rfl⟩ := List.mem_map.mp h
  exact isDigit_of_bounds (digit_bounds hc)

theorem digitOctets_ne_nil (n : Nat) : digitOctets n ≠ [] := by
  simp [digitOctets, Decimal.digitsOf, Nat.toDigits_ne_nil]

theorem digitOctets_eq_cons (n : Nat) :
    ∃ b tail, digitOctets n = b :: tail ∧ Octets.isDigit b = true := by
  obtain ⟨b, tail, digits⟩ := List.exists_cons_of_ne_nil (digitOctets_ne_nil n)
  have first : b ∈ digitOctets n := by
    rw [digits]
    exact List.mem_cons_self
  exact ⟨b, tail, digits, isDigit_of_mem_digitOctets first⟩

/-- The octet of one digit. -/
def digitOctet (d : Nat) : UInt8 := UInt8.ofNat (0x30 + d)

theorem digitValue_digitOctet {d : Nat} (h : d < 10) : Octets.digitValue (digitOctet d) = d := by
  simp only [Octets.digitValue, digitOctet, UInt8.toNat_ofNat']
  omega

theorem ofNat_digitChar {d : Nat} (h : d < 10) :
    UInt8.ofNat (Nat.digitChar d).toNat = digitOctet d := by
  have all : ∀ d < 10, UInt8.ofNat (Nat.digitChar d).toNat = digitOctet d := by decide
  exact all d h

theorem digitOctets_of_lt {n : Nat} (h : n < 10) : digitOctets n = [digitOctet n] := by
  rw [digitOctets, Decimal.digitsOf, Nat.toDigits_of_lt_base h, List.map_singleton,
    ofNat_digitChar h]

/-- The last digit stands behind those of the rest of the number. -/
theorem digitOctets_of_le {n : Nat} (h : 10 ≤ n) :
    digitOctets n = digitOctets (n / 10) ++ [digitOctet (n % 10)] := by
  rw [digitOctets, Decimal.digitsOf, Nat.toDigits_of_base_le (by decide) h, List.map_append,
    List.map_singleton, ofNat_digitChar (Nat.mod_lt n (by decide))]
  rfl

/-- The digits of a number that is not zero begin with another digit than zero. -/
theorem head_digitOctets {n : Nat} (h : 0 < n) :
    ∃ b rest, digitOctets n = b :: rest ∧ b ≠ zero ∧ Octets.isDigit b = true := by
  induction n using Nat.strongRecOn with
  | _ n ih =>
      rcases Nat.lt_or_ge n 10 with hsmall | hlarge
      · refine ⟨digitOctet n, [], digitOctets_of_lt hsmall, ?_, ?_⟩
        · have all : ∀ d < 10, 0 < d → digitOctet d ≠ zero := by decide
          exact all n hsmall h
        · have all : ∀ d < 10, Octets.isDigit (digitOctet d) = true := by decide
          exact all n hsmall
      · obtain ⟨b, rest, hdigits, hb⟩ := ih (n / 10) (by omega) (by omega)
        exact ⟨b, rest ++ [digitOctet (n % 10)],
          by rw [digitOctets_of_le hlarge, hdigits, List.cons_append], hb⟩

/-- The number that digits stand for, after those that make up `n`. -/
def valueOf (n : Nat) (digits : List Nat) : Nat := digits.foldl (fun n d => n * 10 + d) n

theorem valueOf_append (n : Nat) (ds es : List Nat) :
    valueOf n (ds ++ es) = valueOf (valueOf n ds) es :=
  List.foldl_append

theorem le_valueOf (n : Nat) (digits : List Nat) : n ≤ valueOf n digits := by
  induction digits generalizing n with
  | nil => exact Nat.le_refl n
  | cons d digits ih => exact Nat.le_trans (by omega) (ih (n * 10 + d))

/-- The digits of a number stand for it. -/
theorem valueOf_digitOctets (n : Nat) :
    valueOf 0 ((digitOctets n).map Octets.digitValue) = n := by
  induction n using Nat.strongRecOn with
  | _ n ih =>
      rcases Nat.lt_or_ge n 10 with hsmall | hlarge
      · rw [digitOctets_of_lt hsmall, List.map_singleton, digitValue_digitOctet hsmall]
        exact Nat.zero_add n
      · rw [digitOctets_of_le hlarge, List.map_append, valueOf_append, ih (n / 10) (by omega),
          List.map_singleton, digitValue_digitOctet (Nat.mod_lt n (by decide))]
        exact Nat.div_add_mod' n 10

/-! ## Reading -/

theorem spanDigits_append {ds rest : Octets} (digits : ∀ b ∈ ds, Octets.isDigit b = true)
    (stop : ∀ b ∈ rest.head?, Octets.isDigit b = false) :
    spanDigits (ds ++ rest) = (ds.map Octets.digitValue, rest) := by
  have taken : rest.takeWhile Octets.isDigit = [] := by
    cases rest with
    | nil => rfl
    | cons b rest => exact List.takeWhile_cons_of_neg (by simp [stop b rfl])
  have left : rest.dropWhile Octets.isDigit = rest := by
    cases rest with
    | nil => rfl
    | cons b rest => exact List.dropWhile_cons_of_neg (by simp [stop b rfl])
  rw [spanDigits, List.takeWhile_append_of_pos digits, List.dropWhile_append_of_pos digits, taken,
    left, List.append_nil]

theorem whole_eq {n : Nat} {digits : List Nat} (e : Int)
    (fits : valueOf n digits ≤ Decimal.significandMax) :
    Decimal.Scaled.whole ⟨n, e⟩ digits = ⟨valueOf n digits, e⟩ := by
  induction digits generalizing n with
  | nil => rfl
  | cons d digits ih =>
      have step : n * 10 + d ≤ Decimal.significandMax :=
        Nat.le_trans (le_valueOf (n * 10 + d) digits) fits
      rw [Decimal.Scaled.whole, if_pos (by simpa [Decimal.fits] using step)]
      exact ih fits

/-- What follows a value is no part of a number. -/
theorem Follows.ends {rest : Octets} (follows : Follows rest) {b : UInt8} (h : b ∈ rest.head?) :
    Octets.isDigit b = false ∧ b ≠ dot ∧ b ≠ lowerE ∧ b ≠ upperE := by
  have octet := follows.cases h
  simp only [List.mem_cons, List.not_mem_nil, or_false] at octet
  rcases octet with rfl | rfl | rfl | rfl | rfl | rfl | rfl <;> decide

theorem readAfterWhole_of_follows (negative : Bool) (whole : List Nat) {rest : Octets}
    (follows : Follows rest) :
    readAfterWhole negative whole rest =
      let n := (Decimal.Scaled.whole ⟨0, 0⟩ whole).significand
      if (Decimal.Scaled.whole ⟨0, 0⟩ whole).exponent != 0 then
        finishFloat negative (Decimal.Scaled.whole ⟨0, 0⟩ whole) rest
      else if !negative then .ok (.integer n, rest)
      else if n == 0 || 0x8000000000000000 < n then .ok (.float (-(UInt64.ofNat n).toFloat), rest)
      else .ok (.integer (-(n : Int)), rest) := by
  cases rest with
  | nil => rfl
  | cons b rest =>
      obtain ⟨-, noDot, noLower, noUpper⟩ := follows.ends rfl
      rw [readAfterWhole]
      · intro _ h
        exact noDot (List.cons.inj h).1
      · intro _ h
        exact noLower (List.cons.inj h).1
      · intro _ h
        exact noUpper (List.cons.inj h).1

/-- One or more digits. -/
def IsDigits (s : Octets) : Prop := s ≠ [] ∧ ∀ b ∈ s, Octets.isDigit b = true

/-- Digits with no zero in front of others. -/
def IsWhole (s : Octets) : Prop := IsDigits s ∧ (s.head? = some zero → s = [zero])

theorem isDigits_digitOctets (n : Nat) : IsDigits (digitOctets n) :=
  ⟨digitOctets_ne_nil n, fun _ hb => isDigit_of_mem_digitOctets hb⟩

theorem isWhole_digitOctets (n : Nat) : IsWhole (digitOctets n) := by
  refine ⟨isDigits_digitOctets n, ?_⟩
  intro zeroFirst
  rcases Nat.eq_zero_or_pos n with rfl | hpos
  · exact digitOctets_of_lt (by decide)
  · obtain ⟨b, rest, digits, notZero, -⟩ := head_digitOctets hpos
    rw [digits] at zeroFirst
    exact absurd (Option.some.inj zeroFirst) notZero

/-- What no digit follows directly. -/
def EndsDigits (rest : Octets) : Prop := ∀ b ∈ rest.head?, Octets.isDigit b = false

theorem Follows.endsDigits {rest : Octets} (follows : Follows rest) : EndsDigits rest :=
  fun _ hb => (follows.ends hb).1

/-- The digits before the point are read up to where they end. -/
theorem readNumber_whole (negative : Bool) {whole rest : Octets} (hw : IsWhole whole)
    (ends : EndsDigits rest) :
    readNumber negative (whole ++ rest) =
      readAfterWhole negative (whole.map Octets.digitValue) rest := by
  have span := spanDigits_append hw.1.2 ends
  obtain ⟨b, tail, rfl⟩ := List.exists_cons_of_ne_nil hw.1.1
  have first : Octets.isDigit b = true := hw.1.2 b List.mem_cons_self
  by_cases hzero : b = zero
  · subst hzero
    obtain rfl : tail = [] := (List.cons.inj (hw.2 rfl)).2
    have alone : startsWithDigit rest = false := by
      cases rest with
      | nil => rfl
      | cons b rest => exact ends b rfl
    change (if startsWithDigit rest = true then _ else _) = _
    rw [if_neg (by simp [alone])]
    rfl
  · rw [List.cons_append] at span ⊢
    rw [readNumber, if_neg (by simpa using hzero), if_pos first, span]

/-- The digits of a number are read up to where it ends. -/
theorem readNumber_digitOctets (negative : Bool) (n : Nat) {rest : Octets}
    (follows : Follows rest) :
    readNumber negative (digitOctets n ++ rest) =
      readAfterWhole negative ((digitOctets n).map Octets.digitValue) rest :=
  readNumber_whole negative (isWhole_digitOctets n) follows.endsDigits

theorem whole_digitOctets {n : Nat} (h : n ≤ Decimal.significandMax) :
    Decimal.Scaled.whole ⟨0, 0⟩ ((digitOctets n).map Octets.digitValue) = ⟨n, 0⟩ := by
  rw [whole_eq 0 (by rwa [valueOf_digitOctets]), valueOf_digitOctets]

/-- A natural number of 64 bits is read from its digits. -/
theorem readNumber_nat {n : Nat} (h : n ≤ Decimal.significandMax) {rest : Octets}
    (follows : Follows rest) :
    readNumber false (digitOctets n ++ rest) = .ok (.integer n, rest) := by
  rw [readNumber_digitOctets false n follows, readAfterWhole_of_follows _ _ follows,
    whole_digitOctets h]
  rfl

/-- A negative number of 64 bits is read from the digits after its sign. -/
theorem readNumber_neg {n : Nat} (hpos : 0 < n) (h : n ≤ 0x8000000000000000) {rest : Octets}
    (follows : Follows rest) :
    readNumber true (digitOctets n ++ rest) = .ok (.integer (-(n : Int)), rest) := by
  have fits : n ≤ Decimal.significandMax := Nat.le_trans h (by decide)
  have inRange : (n == 0 || decide (0x8000000000000000 < n)) = false := by
    simp only [Bool.or_eq_false_iff, beq_eq_false_iff_ne, decide_eq_false_iff_not]
    omega
  rw [readNumber_digitOctets true n follows, readAfterWhole_of_follows _ _ follows,
    whole_digitOctets fits]
  dsimp only
  rw [if_neg (by decide), if_neg (by decide), inRange, if_neg (by decide)]

/-- A digit is another octet than one that is no digit. -/
theorem ne_of_isDigit {b c : UInt8} (hb : Octets.isDigit b = true)
    (hc : Octets.isDigit c = false) : b ≠ c := by
  rintro rfl
  rw [hb] at hc
  cases hc

theorem isBlank_of_isDigit {b : UInt8} (h : Octets.isDigit b = true) : isBlank b = false := by
  have other (c : UInt8) (hc : Octets.isDigit c = false) : (b == c) = false :=
    beq_eq_false_iff_ne.mpr (ne_of_isDigit h hc)
  simp [isBlank, other space rfl, other tab rfl, other lineFeed rfl, other carriageReturn rfl]

namespace Reader

variable {α : Type} {wanted : Shape} {accept : Number → Except Cause α} {room : Nat}

/-- A number that begins with a digit is made something of. -/
theorem number_nat {n : Nat} (h : n ≤ Decimal.significandMax) {a : α}
    (accepted : accept (.integer n) = .ok a) :
    Reads (number wanted accept) room (digitOctets n) a := by
  intro rest follows
  have read := readNumber_nat h follows
  obtain ⟨b, ds, hdigits, hdigit⟩ := digitOctets_eq_cons n
  have notMinus : (b == minus) = false := beq_eq_false_iff_ne.mpr (ne_of_isDigit hdigit rfl)
  rw [hdigits, List.cons_append] at read ⊢
  rw [number, skipBlanks_cons (isBlank_of_isDigit hdigit)]
  simp only [notMinus, hdigit, read, accepted, Bool.false_eq_true, if_false, if_true]

/-- A number that begins with its sign is made something of. -/
theorem number_neg {n : Nat} (hpos : 0 < n) (h : n ≤ 0x8000000000000000) {a : α}
    (accepted : accept (.integer (-(n : Int))) = .ok a) :
    Reads (number wanted accept) room (minus :: digitOctets n) a := by
  intro rest follows
  have read := readNumber_neg hpos h follows
  rw [List.cons_append, number, skipBlanks_cons rfl]
  simp only [beq_self_eq_true, if_true, read, accepted]

end Reader

theorem acceptInteger_of_mem {wanted : Shape} {low high n : Int} (hlow : low ≤ n)
    (hhigh : n ≤ high) : Reader.acceptInteger wanted low high (.integer n) = .ok n := by
  simp [Reader.acceptInteger, hlow, hhigh]

/-- An unsigned integer of 64 bits is read back, whatever it is called. -/
theorem reads_count (wanted : Shape) (room : Nat) (n : UInt64) :
    Reads ((Reader.number wanted (Reader.acceptInteger wanted 0 0xFFFFFFFFFFFFFFFF)).map
      fun k => UInt64.ofNat k.toNat) room (Octets.ofText (toString n.toNat)) n := by
  have small : n.toNat < 0x10000000000000000 := n.toNat_lt
  have fits : n.toNat ≤ Decimal.significandMax := by
    rw [Decimal.significandMax]
    omega
  have number : Reads (Reader.number wanted (Reader.acceptInteger wanted 0 0xFFFFFFFFFFFFFFFF)) room
      (digitOctets n.toNat) (n.toNat : Int) :=
    Reader.number_nat fits (acceptInteger_of_mem (by omega) (by omega))
  have read := number.map fun k => UInt64.ofNat k.toNat
  rw [Int.toNat_natCast, UInt64.ofNat_toNat] at read
  rw [ofText_toString]
  exact read

/-- An unsigned integer is read back. -/
theorem reads_u64 (room : Nat) (n : UInt64) :
    Reads Reader.u64 room (Octets.ofText (toString n.toNat)) n :=
  reads_count .u64 room n

/-- The digits of a negative number stand after its sign. -/
theorem ofText_toString_neg {n : Nat} (h : 0 < n) :
    Octets.ofText (toString (-(n : Int))) = minus :: digitOctets n := by
  obtain ⟨m, rfl⟩ := Nat.exists_eq_succ_of_ne_zero (Nat.ne_of_gt h)
  have digits : toString (-((m.succ : Nat) : Int)) = "-" ++ toString m.succ := rfl
  rw [digits, Octets.ofText_append, ofText_toString]
  rfl

/-- The digits of an integer, after its sign if it has one, are read as the integer. -/
theorem Reader.number_int {α : Type} {wanted : Shape} {accept : Number → Except Cause α}
    {room : Nat} {n : Int} (hlow : -0x8000000000000000 ≤ n) (hhigh : n < 0x8000000000000000) {a : α}
    (accepted : accept (.integer n) = .ok a) :
    Reads (number wanted accept) room (Octets.ofText (toString n)) a := by
  rcases Int.lt_or_le n 0 with hneg | hnonneg
  · obtain ⟨k, rfl⟩ : ∃ k : Nat, n = -(k : Int) := ⟨n.natAbs, by omega⟩
    rw [ofText_toString_neg (by omega)]
    exact number_neg (by omega) (by omega) accepted
  · obtain ⟨k, rfl⟩ := Int.eq_ofNat_of_zero_le hnonneg
    have fits : k ≤ Decimal.significandMax := by
      rw [Decimal.significandMax]
      omega
    rw [show toString (k : Int) = toString k from rfl, ofText_toString]
    exact number_nat fits accepted

/-- The octets of an integer begin with a digit or a sign. -/
theorem begins_ofText_toString (n : Int) :
    ∃ b tail, Octets.ofText (toString n) = b :: tail ∧ isBlank b = false ∧ b ≠ lowerN := by
  rcases Int.lt_or_le n 0 with hneg | hnonneg
  · obtain ⟨k, rfl⟩ : ∃ k : Nat, n = -(k : Int) := ⟨n.natAbs, by omega⟩
    exact ⟨minus, digitOctets k, ofText_toString_neg (by omega), rfl, by decide⟩
  · obtain ⟨k, rfl⟩ := Int.eq_ofNat_of_zero_le hnonneg
    obtain ⟨b, tail, hdigits, hdigit⟩ := digitOctets_eq_cons k
    refine ⟨b, tail, (ofText_toString k).trans hdigits, isBlank_of_isDigit hdigit, ?_⟩
    exact ne_of_isDigit hdigit (by decide)

/-- A signed integer is read back. -/
theorem reads_i64 (room : Nat) (n : Int64) :
    Reads Reader.i64 room (Octets.ofText (toString n.toInt)) n := by
  have hlow : -0x8000000000000000 ≤ n.toInt := n.le_toInt
  have hhigh : n.toInt < 0x8000000000000000 := n.toInt_lt
  have number : Reads
      (Reader.number .i64 (Reader.acceptInteger .i64 (-0x8000000000000000) 0x7FFFFFFFFFFFFFFF)) room
      (Octets.ofText (toString n.toInt)) n.toInt :=
    Reader.number_int hlow hhigh (acceptInteger_of_mem hlow (by omega))
  have read := number.map Int64.ofInt
  rw [Int64.ofInt_toInt] at read
  exact read

end PulseBridge.Json
