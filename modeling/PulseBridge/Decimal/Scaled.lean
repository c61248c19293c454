/-!
# Reading decimals into doubles

Two ways to read a decimal. `Scaled` keeps as many leading digits as fit into 64 bits and then
multiplies or divides once by a power of ten; it is quick and may be off by an ulp. `nearest?` reads
a whole text to the nearest double.
-/

namespace PulseBridge.Decimal

/-- The greatest significand: 64 bits. -/
def significandMax : Nat := 0xFFFFFFFFFFFFFFFF

/-- A decimal whose significand is kept within 64 bits. -/
structure Scaled where
  significand : Nat
  exponent : Int
  deriving DecidableEq, Repr

/-- Whether one more digit still fits. -/
def fits (significand digit : Nat) : Bool := significand * 10 + digit ≤ significandMax

/-- The digits before the point. From the first one that does not fit, each only adds one to the
exponent. -/
def Scaled.whole : Scaled → List Nat → Scaled
  | x, [] => x
  | x, d :: ds =>
      if fits x.significand d then whole ⟨x.significand * 10 + d, x.exponent⟩ ds
      else ⟨x.significand, x.exponent + (ds.length + 1)⟩

/-- The digits after the point. From the first one that does not fit they are dropped. -/
def Scaled.fraction : Scaled → List Nat → Scaled
  | x, [] => x
  | x, d :: ds =>
      if fits x.significand d then fraction ⟨x.significand * 10 + d, x.exponent - 1⟩ ds else x

/-- The double nearest to a power of ten. -/
def powerOfTen (n : Nat) : Float := Float.ofScientific 1 false n

/-- The greatest power of ten that is a double. -/
def maxPower : Nat := 308

/-- Scale by a power of ten in steps of at most `10 ^ 308`; `none` is a number too large for a
double. -/
def scale (f : Float) (e : Int) : Option Float :=
  if e.natAbs ≤ maxPower then
    if 0 ≤ e then
      let product := f * powerOfTen e.natAbs
      if product.isInf then none else some product
    else some (f / powerOfTen e.natAbs)
  else if f == 0 then some f
  else if 0 ≤ e then none
  else scale (f / powerOfTen maxPower) (e + maxPower)
termination_by e.natAbs
decreasing_by simp only [maxPower] at *; omega

/-- The double that a scaled decimal is read as. -/
def Scaled.toFloat? (x : Scaled) : Option Float :=
  scale (UInt64.ofNat x.significand).toFloat x.exponent

/-- The digits at the front of a text, as a number with their count, and what follows them. -/
def leadingDigits (cs : List Char) : Nat × Nat × List Char :=
  let ds := cs.takeWhile Char.isDigit
  (ds.foldl (fun n c => n * 10 + (c.toNat - 48)) 0, ds.length, cs.drop ds.length)

/-- A number whose text is read to the nearest double: an optional sign, then `inf`, `infinity`
or `nan` in any case, or digits with an optional point and an optional exponent. -/
def nearest? (text : String) : Option Float :=
  let (negative, cs) := match text.toList with
    | '-' :: rest => (true, rest)
    | '+' :: rest => (false, rest)
    | cs => (false, cs)
  let signed (x : Float) : Float := if negative then -x else x
  let word := String.ofList (cs.map Char.toLower)
  if word == "inf" || word == "infinity" then some (signed (1 / 0))
  else if word == "nan" then some (0 / 0)
  else
    let (whole, wholeCount, rest) := leadingDigits cs
    let (fraction, fractionCount, rest) := match rest with
      | '.' :: rest => leadingDigits rest
      | _ => (0, 0, rest)
    let significand := whole * Nat.pow 10 fractionCount + fraction
    let value (e : Int) : Float :=
      let e := e - fractionCount
      signed (Float.ofScientific significand (e < 0) e.natAbs)
    if wholeCount + fractionCount == 0 then none
    else
      match rest with
      | [] => some (value 0)
      | c :: rest =>
          if c != 'e' && c != 'E' then none
          else
            let (minus, rest) := match rest with
              | '-' :: rest => (true, rest)
              | '+' :: rest => (false, rest)
              | _ => (false, rest)
            match leadingDigits rest with
            | (_, 0, _) => none
            | (e, _, []) => some (value (if minus then -(e : Int) else e))
            | _ => none

end PulseBridge.Decimal
