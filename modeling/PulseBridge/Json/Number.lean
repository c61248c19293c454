import PulseBridge.Json.Error
import PulseBridge.Decimal.Scaled

/-!
# Numbers in JSON

A number without point and exponent that fits into 64 bits, with or without sign, is an integer;
every other number is a double, and so is `-0`. Doubles are read through `Decimal.Scaled`, which
may be off by an ulp. A number that nobody asked for is passed over whatever its size.
-/

namespace PulseBridge.Json

open Ascii

/-- A number as it is read. -/
inductive Number where
  | integer (value : Int)
  | float (value : Float)

/-- The number as a double. -/
def Number.toFloat : Number → Float
  | .integer n => if n < 0 then -(UInt64.ofNat n.natAbs).toFloat else (UInt64.ofNat n.toNat).toFloat
  | .float x => x

/-- The number as a finding. -/
def Number.found : Number → Found
  | .integer n => .integer n
  | .float x => .float x

/-- A number in JSON. -/
def Number.write : Number → Octets
  | .integer n => Octets.ofText (toString n)
  | .float x => Octets.ofText (numberLayout.text x)

/-- The digits at the front and the octets after them. -/
def spanDigits (s : Octets) : List Nat × Octets :=
  ((s.takeWhile Octets.isDigit).map Octets.digitValue, s.dropWhile Octets.isDigit)

/-- Whether the next octet is a digit. -/
def startsWithDigit : Octets → Bool
  | [] => false
  | b :: _ => Octets.isDigit b

/-- The greatest exponent that is looked at. -/
def exponentMax : Nat := 0x7FFFFFFF

/-- Give a double its sign. -/
def signed (negative : Bool) (x : Float) : Float := if negative then -x else x

/-- The double of a scaled decimal, read up to `rest`. -/
def finishFloat (negative : Bool) (x : Decimal.Scaled) (rest : Octets) :
    Except Fault (Number × Octets) :=
  match x.toFloat? with
  | some f => .ok (.float (signed negative f), rest)
  | none => .error ⟨.numberTooLarge, .consumed rest⟩

/-- Read the digits of an exponent. One that is too large to be looked at makes the number zero if
it is negative or the significand is zero, and too large otherwise. -/
def readExponentDigits (negative : Bool) (x : Decimal.Scaled) (down : Bool) :
    Nat → Octets → Except Fault (Number × Octets)
  | e, [] => finishFloat negative ⟨x.significand, if down then x.exponent - e else x.exponent + e⟩ []
  | e, b :: rest =>
      if Octets.isDigit b then
        let e := e * 10 + Octets.digitValue b
        if exponentMax < e then
          if x.significand != 0 && !down then .error ⟨.numberTooLarge, .consumed rest⟩
          else .ok (.float (signed negative 0), rest.dropWhile Octets.isDigit)
        else readExponentDigits negative x down e rest
      else
        finishFloat negative ⟨x.significand, if down then x.exponent - e else x.exponent + e⟩
          (b :: rest)

/-- Read an exponent whose letter has been consumed. -/
def readExponent (negative : Bool) (x : Decimal.Scaled) (s : Octets) :
    Except Fault (Number × Octets) :=
  let (down, s) := match s with
    | plus :: rest => (false, rest)
    | minus :: rest => (true, rest)
    | s => (false, s)
  match s with
  | [] => .error ⟨.endInValue, .consumed []⟩
  | b :: rest =>
      if Octets.isDigit b then readExponentDigits negative x down (Octets.digitValue b) rest
      else .error ⟨.badNumber, .consumed rest⟩

/-- Read what follows the digits before the point. -/
def readAfterWhole (negative : Bool) (whole : List Nat) (s : Octets) :
    Except Fault (Number × Octets) :=
  let scaled := Decimal.Scaled.whole ⟨0, 0⟩ whole
  match s with
  | dot :: rest =>
      match spanDigits rest with
      | ([], []) => .error ⟨.endInValue, .peeked []⟩
      | ([], rest) => .error ⟨.badNumber, .peeked rest⟩
      | (fraction, rest) =>
          let scaled := scaled.fraction fraction
          match rest with
          | lowerE :: rest => readExponent negative scaled rest
          | upperE :: rest => readExponent negative scaled rest
          | rest => finishFloat negative scaled rest
  | lowerE :: rest => readExponent negative scaled rest
  | upperE :: rest => readExponent negative scaled rest
  | rest =>
      let n := scaled.significand
      if scaled.exponent != 0 then finishFloat negative scaled rest
      else if !negative then .ok (.integer n, rest)
      else if n == 0 || 0x8000000000000000 < n then
        .ok (.float (-(UInt64.ofNat n).toFloat), rest)
      else .ok (.integer (-(n : Int)), rest)

/-- Read a number whose sign, if any, has been consumed. -/
def readNumber (negative : Bool) : Octets → Except Fault (Number × Octets)
  | [] => .error ⟨.endInValue, .consumed []⟩
  | b :: rest =>
      if b == zero then
        if startsWithDigit rest then .error ⟨.badNumber, .peeked rest⟩
        else readAfterWhole negative [0] rest
      else if Octets.isDigit b then
        let (whole, rest) := spanDigits (b :: rest)
        readAfterWhole negative whole rest
      else .error ⟨.badNumber, .consumed rest⟩

/-- Pass over an exponent whose letter has been consumed. -/
def skipExponent (s : Octets) : Except Fault Octets :=
  let s := match s with
    | plus :: rest => rest
    | minus :: rest => rest
    | s => s
  match s with
  | [] => .error ⟨.badNumber, .consumed []⟩
  | b :: rest =>
      if Octets.isDigit b then .ok (rest.dropWhile Octets.isDigit)
      else .error ⟨.badNumber, .consumed rest⟩

/-- Pass over what follows the digits before the point. -/
def skipAfterWhole : Octets → Except Fault Octets
  | dot :: rest =>
      if startsWithDigit rest then
        match rest.dropWhile Octets.isDigit with
        | lowerE :: rest => skipExponent rest
        | upperE :: rest => skipExponent rest
        | rest => .ok rest
      else .error ⟨.badNumber, .peeked rest⟩
  | lowerE :: rest => skipExponent rest
  | upperE :: rest => skipExponent rest
  | rest => .ok rest

/-- Pass over a number whose sign, if any, has been consumed. -/
def skipNumber : Octets → Except Fault Octets
  | [] => .error ⟨.badNumber, .consumed []⟩
  | b :: rest =>
      if b == zero then
        if startsWithDigit rest then .error ⟨.badNumber, .peeked rest⟩ else skipAfterWhole rest
      else if Octets.isDigit b then skipAfterWhole (rest.dropWhile Octets.isDigit)
      else .error ⟨.badNumber, .consumed rest⟩

end PulseBridge.Json
