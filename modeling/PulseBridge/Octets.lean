/-!
# Octets and text

Bodies, headers and files are sequences of octets; names and messages are texts. This module holds
the passage between the two: `Octets.ofText` writes a text in UTF-8 and `Octets.text?` reads it
back, refusing anything that is not UTF-8. `text?_ofText` says that nothing is lost on the way.

## Implementation notes

A sequence of octets is a list, so that readers recurse on what is left of it.
-/

namespace PulseBridge

/-- A finite sequence of octets. -/
abbrev Octets := List UInt8

namespace Octets

/-- The UTF-8 form of a text. -/
def ofText (s : String) : Octets := s.toUTF8.data.toList

/-- The text whose UTF-8 form the octets are, if there is one. -/
def text? (bs : Octets) : Option String := String.fromUTF8? ⟨bs.toArray⟩

theorem text?_ofText (s : String) : text? (ofText s) = some s := by
  have h : (⟨(ofText s).toArray⟩ : ByteArray) = s.toUTF8 := by
    simp [ofText]
  rw [text?, h, String.fromUTF8?]
  have valid : s.toUTF8.IsValidUTF8 := s.isValidUTF8
  rw [dif_pos valid]
  rfl

/-- Whether an octet is one of the digits `0` to `9`. -/
def isDigit (b : UInt8) : Bool := 0x30 ≤ b && b ≤ 0x39

/-- The number that a digit stands for. -/
def digitValue (b : UInt8) : Nat := b.toNat - 0x30

/-- The number that a hexadecimal digit of either case stands for. -/
def hexValue? (b : UInt8) : Option Nat :=
  if 0x30 ≤ b && b ≤ 0x39 then some (b.toNat - 0x30)
  else if 0x41 ≤ b && b ≤ 0x46 then some (b.toNat - 0x37)
  else if 0x61 ≤ b && b ≤ 0x66 then some (b.toNat - 0x57)
  else none

/-- The upper-case hexadecimal digit of a number below sixteen. -/
def hexDigit (n : Nat) : UInt8 :=
  if n < 10 then UInt8.ofNat (0x30 + n) else UInt8.ofNat (0x37 + n)

/-- The lower-case hexadecimal digit of a number below sixteen. -/
def hexDigitLower (n : Nat) : UInt8 :=
  if n < 10 then UInt8.ofNat (0x30 + n) else UInt8.ofNat (0x57 + n)

end Octets

end PulseBridge
