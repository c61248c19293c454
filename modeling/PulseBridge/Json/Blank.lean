import PulseBridge.Json.Error

/-!
# Blanks and words in JSON

Blanks may stand before every value, key and punctuation mark. The words are `null`, `true` and
`false`; each is known by its first letter, and then the others must follow.
-/

namespace PulseBridge.Json

open Ascii

/-- Whether an octet is a blank: space, tab, line feed or carriage return. -/
def isBlank (b : UInt8) : Bool :=
  b == space || b == tab || b == lineFeed || b == carriageReturn

/-- The octets from the first one that is no blank. -/
def skipBlanks (s : Octets) : Octets := s.dropWhile isBlank

/-- Consume the letters of a word. -/
def readLetters : Octets → Octets → Except Fault Octets
  | [], s => .ok s
  | _ :: _, [] => .error ⟨.endInValue, .consumed []⟩
  | letter :: letters, b :: rest =>
      if b == letter then readLetters letters rest else .error ⟨.wordExpected, .consumed rest⟩

/-- The letters of `null` after the first one. -/
def nullLetters : Octets := [lowerU, 0x6c, 0x6c]

/-- The letters of `true` after the first one. -/
def trueLetters : Octets := [lowerR, lowerU, lowerE]

/-- The letters of `false` after the first one. -/
def falseLetters : Octets := [0x61, 0x6c, 0x73, lowerE]

end PulseBridge.Json
