import PulseBridge.Json.Error
import PulseBridge.Text.Lossy

/-!
# Texts in JSON

Writing and reading of quoted texts. `writeText` escapes the quote, the backslash and the controls
and leaves every other octet as it is. A text is read one octet at a time by a machine whose
`TextState` says what may come next; the octets it has understood are gathered and must be UTF-8
in the end. A text that nobody asked for is passed over by a simpler machine, which checks neither
UTF-8 nor the pairing of surrogates.
-/

namespace PulseBridge.Json

open Ascii

/-- The octets of one octet of a text inside quotes. -/
def escapeOctet (b : UInt8) : Octets :=
  if b == quote then [backslash, quote]
  else if b == backslash then [backslash, backslash]
  else if b == 0x08 then [backslash, lowerB]
  else if b == 0x0c then [backslash, lowerF]
  else if b == lineFeed then [backslash, lowerN]
  else if b == carriageReturn then [backslash, lowerR]
  else if b == tab then [backslash, lowerT]
  else if b < 0x20 then
    [backslash, lowerU, zero, zero, Octets.hexDigitLower (b.toNat / 16),
      Octets.hexDigitLower (b.toNat % 16)]
  else [b]

/-- A text in quotes. -/
def writeText (s : String) : Octets :=
  quote :: (Octets.ofText s).flatMap escapeOctet ++ [quote]

/-- The octet that a letter after a backslash stands for. -/
def simpleEscape? (b : UInt8) : Option UInt8 :=
  if b == quote || b == backslash || b == slash then some b
  else if b == lowerB then some 0x08
  else if b == lowerF then some 0x0c
  else if b == lowerN then some lineFeed
  else if b == lowerR then some carriageReturn
  else if b == lowerT then some tab
  else none

/-- Whether a code unit is the first of a surrogate pair. -/
def isLeading (unit : Nat) : Bool := 0xd800 ≤ unit && unit ≤ 0xdbff

/-- Whether a code unit is the second of a surrogate pair. -/
def isTrailing (unit : Nat) : Bool := 0xdc00 ≤ unit && unit ≤ 0xdfff

/-- The code point of a surrogate pair. -/
def pairedCodePoint (leading trailing : Nat) : Nat :=
  0x10000 + (leading - 0xd800) * 0x400 + (trailing - 0xdc00)

/-- The UTF-8 octets of a code point, last octet first. -/
def reversedUtf8 (codePoint : Nat) : Octets :=
  (String.utf8EncodeChar (Char.ofNat codePoint)).reverse

/-- What may come next inside a text. -/
inductive TextState where
  /-- Any octet of the text. -/
  | plain
  /-- The letter after a backslash. -/
  | escape
  /-- `left + 1` hexadecimal digits of a code unit, after those that make up `unit`; none if one
  of them was no digit. `leading` is the first half of a pair that waits for its second. -/
  | hex (left : Nat) (unit : Option Nat) (leading : Option Nat)
  /-- The backslash of the second half of a pair. -/
  | pairBackslash (leading : Nat)
  /-- The letter of the second half of a pair. -/
  | pairLetter (leading : Nat)

/-- What a finished code unit makes of the state and the octets gathered. -/
def finishUnit (unit : Option Nat) (leading : Option Nat) (gathered : Octets) :
    Except Cause (TextState × Octets) :=
  match unit, leading with
  | none, _ => .error .badEscape
  | some u, none =>
      if isTrailing u then .error .loneSurrogate
      else if isLeading u then .ok (.pairBackslash u, gathered)
      else .ok (.plain, reversedUtf8 u ++ gathered)
  | some u, some l =>
      if isTrailing u then .ok (.plain, reversedUtf8 (pairedCodePoint l u) ++ gathered)
      else .error .loneSurrogate

/-- Read the octets of a text up to its closing quote. What has been understood is gathered last
first. -/
def readTextFrom : TextState → Octets → Octets → Except Fault (Octets × Octets)
  | _, _, [] => .error ⟨.endInText, .consumed []⟩
  | .plain, gathered, b :: rest =>
      if b == quote then .ok (gathered.reverse, rest)
      else if b == backslash then readTextFrom .escape gathered rest
      else if b < 0x20 then .error ⟨.controlCharacter, .consumed rest⟩
      else readTextFrom .plain (b :: gathered) rest
  | .escape, gathered, b :: rest =>
      if b == lowerU then readTextFrom (.hex 3 (some 0) none) gathered rest
      else
        match simpleEscape? b with
        | some octet => readTextFrom .plain (octet :: gathered) rest
        | none => .error ⟨.badEscape, .consumed rest⟩
  | .hex left unit leading, gathered, b :: rest =>
      let unit := unit.bind fun u => (Octets.hexValue? b).map (u * 16 + ·)
      match left with
      | n + 1 => readTextFrom (.hex n unit leading) gathered rest
      | 0 =>
          match finishUnit unit leading gathered with
          | .ok (state, gathered) => readTextFrom state gathered rest
          | .error cause => .error ⟨cause, .consumed rest⟩
  | .pairBackslash leading, gathered, b :: rest =>
      if b == backslash then readTextFrom (.pairLetter leading) gathered rest
      else .error ⟨.escapeCutShort, .consumed rest⟩
  | .pairLetter leading, gathered, b :: rest =>
      if b == lowerU then readTextFrom (.hex 3 (some 0) (some leading)) gathered rest
      else .error ⟨.escapeCutShort, .consumed rest⟩

/-- Read a text whose opening quote has been consumed. Octets that are no text are found out at
the closing quote; the place of the fault lies as many octets before that as the text has from the
first of them on. -/
def readText (s : Octets) : Except Fault (String × Octets) :=
  match readTextFrom .plain [] s with
  | .error fault => .error fault
  | .ok (octets, rest) =>
      match Octets.text? octets with
      | some text => .ok (text, rest)
      | none =>
          let wrong := (Octets.fromInvalid none octets).length
          .error ⟨.notUnicode, .consumed (s.drop (s.length - rest.length - wrong))⟩

/-- What may come next inside a text that is passed over. -/
inductive SkipState where
  | plain
  | escape
  /-- `left + 1` hexadecimal digits; `good` as long as all of them were digits. -/
  | hex (left : Nat) (good : Bool)

/-- Pass over a text up to its closing quote. A control character is refused without being
consumed. -/
def skipTextFrom : SkipState → Octets → Except Fault Octets
  | _, [] => .error ⟨.endInText, .consumed []⟩
  | .plain, b :: rest =>
      if b == quote then .ok rest
      else if b == backslash then skipTextFrom .escape rest
      else if b < 0x20 then .error ⟨.controlCharacter, .consumed (b :: rest)⟩
      else skipTextFrom .plain rest
  | .escape, b :: rest =>
      if b == lowerU then skipTextFrom (.hex 3 true) rest
      else if (simpleEscape? b).isSome then skipTextFrom .plain rest
      else .error ⟨.badEscape, .consumed rest⟩
  | .hex left good, b :: rest =>
      let good := good && (Octets.hexValue? b).isSome
      match left with
      | n + 1 => skipTextFrom (.hex n good) rest
      | 0 => if good then skipTextFrom .plain rest else .error ⟨.badEscape, .consumed rest⟩

/-- Pass over a text whose opening quote has been consumed. -/
def skipText (s : Octets) : Except Fault Octets := skipTextFrom .plain s

end PulseBridge.Json
