/-!
# The shortest decimal of a binary number

A positive binary number `m · 2 ^ q` stands for all the reals that round to it. Among the decimals
in that interval this module chooses one with the fewest digits, and of those the one nearest to
the number itself; a tie goes to the even coefficient.

## Implementation notes

For each number of digits the decimals with that many digits form a grid. If a grid has a point in
the interval, one of the two neighbours of the number on that grid lies in it, so only those two
are tried. Everything is exact: a real is a quotient of natural numbers.
-/

namespace PulseBridge.Decimal

/-- The number `coefficient · 10 ^ exponent`. -/
structure Digits where
  coefficient : Nat
  exponent : Int
  deriving DecidableEq, Repr

/-- The decimal digits of a number, leading digit first. -/
def digitsOf (n : Nat) : List Char := Nat.toDigits 10 n

/-- A positive quotient of natural numbers. -/
structure Quotient where
  numerator : Nat
  denominator : Nat

/-- The quotient `m · 2 ^ q`. -/
def Quotient.ofBinary (m : Nat) (q : Int) : Quotient :=
  if 0 ≤ q then ⟨m * Nat.pow 2 q.toNat, 1⟩ else ⟨m, Nat.pow 2 (-q).toNat⟩

/-- The quotient times `10 ^ e`. -/
def Quotient.timesTen (x : Quotient) (e : Int) : Quotient :=
  if 0 ≤ e then ⟨x.numerator * Nat.pow 10 e.toNat, x.denominator⟩
  else ⟨x.numerator, x.denominator * Nat.pow 10 (-e).toNat⟩

/-- The `p` with `10 ^ p ≤ x < 10 ^ (p + 1)`. -/
def Quotient.leadingPower (x : Quotient) : Int :=
  if x.denominator ≤ x.numerator then
    ((digitsOf (x.numerator / x.denominator)).length : Int) - 1
  else
    -((digitsOf ((x.denominator - 1) / x.numerator)).length : Int)

/-- The reals that round to a binary number, ends included or not. -/
structure Interval where
  low : Quotient
  high : Quotient
  closed : Bool

/-- The reals that round to `m · 2 ^ q`. Below a power of two the gap to the next number is half
as wide, unless the exponent is already the least one. Ends belong to the even numbers. -/
def Interval.around (m : Nat) (q : Int) (narrowBelow : Bool) : Interval where
  low := .ofBinary (if narrowBelow then 4 * m - 1 else 4 * m - 2) (q - 2)
  high := .ofBinary (4 * m + 2) (q - 2)
  closed := m % 2 == 0

/-- Whether `k · 10 ^ e` lies in the interval. -/
def Interval.contains (i : Interval) (k : Nat) (e : Int) : Bool :=
  let low := i.low.timesTen (-e)
  let high := i.high.timesTen (-e)
  if i.closed then
    low.numerator ≤ k * low.denominator && k * high.denominator ≤ high.numerator
  else
    low.numerator < k * low.denominator && k * high.denominator < high.numerator

/-- The better of the two neighbours of `x` on the grid of multiples of `10 ^ e`, if one of them
lies in the interval. -/
def Interval.neighbour? (i : Interval) (x : Quotient) (e : Int) : Option Nat :=
  let scaled := x.timesTen (-e)
  let k := scaled.numerator / scaled.denominator
  let above := 2 * (scaled.numerator % scaled.denominator)
  let upperNearer := scaled.denominator < above || (scaled.denominator == above && k % 2 == 1)
  match i.contains k e, i.contains (k + 1) e with
  | true, true => some (if upperNearer then k + 1 else k)
  | true, false => some k
  | false, true => some (k + 1)
  | false, false => none

/-- The same number without zeros at the end of its coefficient. -/
def Digits.strip (d : Digits) : Digits :=
  let zeros : Nat := ((digitsOf d.coefficient).reverse.takeWhile (· == '0')).length
  if d.coefficient == 0 then d else ⟨d.coefficient / Nat.pow 10 zeros, d.exponent + zeros⟩

/-- Try grids with more and more digits; seventeen are always enough. -/
def searchGrids (i : Interval) (x : Quotient) : Nat → Int → Digits
  | 0, e => ⟨(x.timesTen (-e)).numerator / (x.timesTen (-e)).denominator, e⟩
  | n + 1, e =>
      match i.neighbour? x e with
      | some k => ⟨k, e⟩
      | none => searchGrids i x n (e - 1)

/-- The shortest decimal that rounds to `m · 2 ^ q`. -/
def shortest (m : Nat) (q : Int) (narrowBelow : Bool) : Digits :=
  let x := Quotient.ofBinary m q
  (searchGrids (.around m q narrowBelow) x 17 x.leadingPower).strip

/-- A double taken apart. -/
inductive Parts where
  | nan
  | infinite (negative : Bool)
  | zero (negative : Bool)
  /-- The number `m · 2 ^ q`, with a narrower gap below it or not. -/
  | finite (negative : Bool) (m : Nat) (q : Int) (narrowBelow : Bool)

/-- The parts of a double, read off its bits. -/
def Parts.ofFloat (x : Float) : Parts :=
  let bits : Nat := x.toBits.toNat
  let negative := bits / 0x8000000000000000 == 1
  let exponent : Nat := bits / 0x10000000000000 % 0x800
  let fraction : Nat := bits % 0x10000000000000
  if exponent == 2047 then
    if fraction == 0 then .infinite negative else .nan
  else if exponent == 0 then
    if fraction == 0 then .zero negative else .finite negative fraction (-1074) false
  else
    .finite negative (0x10000000000000 + fraction) ((exponent : Int) - 1075)
      (fraction == 0 && 1 < exponent)

end PulseBridge.Decimal
