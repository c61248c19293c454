import PulseBridge.Octets

/-!
# Base64

Three octets are written as four characters of the standard alphabet. What is left at the end is
filled up with `=`.
-/

namespace PulseBridge.Base64

/-- The character of a number below sixty-four. -/
def digit (n : Nat) : Char :=
  if n < 26 then Char.ofNat (0x41 + n)
  else if n < 52 then Char.ofNat (0x61 + (n - 26))
  else if n < 62 then Char.ofNat (0x30 + (n - 52))
  else if n == 62 then '+'
  else '/'

/-- The characters of a sequence of octets. -/
def encodeChars : Octets → List Char
  | [] => []
  | [a] =>
      let n := a.toNat * 16
      [digit (n / 64), digit (n % 64), '=', '=']
  | [a, b] =>
      let n := (a.toNat * 256 + b.toNat) * 4
      [digit (n / 4096), digit (n / 64 % 64), digit (n % 64), '=']
  | a :: b :: c :: rest =>
      let n := (a.toNat * 256 + b.toNat) * 256 + c.toNat
      digit (n / 262144) :: digit (n / 4096 % 64) :: digit (n / 64 % 64) :: digit (n % 64)
        :: encodeChars rest

/-- A sequence of octets as text. -/
def encode (bs : Octets) : String := String.ofList (encodeChars bs)

end PulseBridge.Base64
