import PulseBridge.Text.Canonical.Table
import PulseBridge.Text.Table

/-!
# Canonical composition

Texts that look the same may be spelled in several ways: a letter with its accents may be one
character or several. `composed` brings all canonically equivalent texts to one spelling, the one
with as few characters as possible (normal form C): every character is taken apart, the marks after
a letter are put in the order of their combining classes, and what can be composed is composed.
-/

namespace PulseBridge.Text

/-- The characters of some code points in hexadecimal with dots between them. -/
def dottedChars (cs : List Char) : List Char :=
  (pieces (· == '.') cs).map fun digits => Char.ofNat (hexNumber digits)

/-- A character and what it stands for. -/
structure Equivalent where
  whole : Char
  parts : List Char
  /-- Whether the parts are composed into the character. -/
  composes : Bool

/-- The equivalent that a word of the table stands for. -/
def Equivalent.ofWord (word : List Char) : Equivalent :=
  let digits := word.takeWhile fun c => c != '=' && c != '>'
  let sign := word.drop digits.length
  ⟨Char.ofNat (hexNumber digits), dottedChars sign.tail, sign.head? == some '='⟩

/-- The canonical equivalents. -/
def equivalents : List Equivalent := (words equivalentTable.toList).map Equivalent.ofWord

/-- The combining classes other than zero, by ranges. -/
def combiningClasses : List (CodeRange × Nat) :=
  (words classTable.toList).map fun word =>
    let digits := word.takeWhile (· != ':')
    (CodeRange.ofWord digits, ((String.ofList (word.drop (digits.length + 1))).toNat?).getD 0)

/-- The combining class of a character: zero unless it attaches to the one before it. -/
def combiningClass (c : Char) : Nat :=
  ((combiningClasses.find? (·.1.covers c)).map (·.2)).getD 0

/-! ## Hangul -/

/-- The first syllable, and the first of each of the three kinds of letters. -/
def firstSyllable : Nat := 0xac00
def firstLead : Nat := 0x1100
def firstVowel : Nat := 0x1161
/-- The code point before the first trailing letter: a syllable without one counts as its zeroth. -/
def beforeTrail : Nat := 0x11a7

/-- How many leading letters, vowels and trailing letters there are, none counting as one of the
last. -/
def leadCount : Nat := 19
def vowelCount : Nat := 21
def trailCount : Nat := 28

/-- The letters of a syllable. -/
def syllableLetters? (c : Char) : Option (List Char) :=
  let i := c.toNat - firstSyllable
  if c.toNat < firstSyllable || leadCount * vowelCount * trailCount ≤ i then none
  else
    let lead := Char.ofNat (firstLead + i / (vowelCount * trailCount))
    let vowel := Char.ofNat (firstVowel + i % (vowelCount * trailCount) / trailCount)
    let trail := i % trailCount
    some ([lead, vowel] ++ if trail == 0 then [] else [Char.ofNat (beforeTrail + trail)])

/-- The syllable of two letters, or of a syllable without trailing letter and such a letter. -/
def syllable? (a b : Char) : Option Char :=
  let lead := a.toNat - firstLead
  let vowel := b.toNat - firstVowel
  let syllable := a.toNat - firstSyllable
  let trail := b.toNat - beforeTrail
  if firstLead ≤ a.toNat && lead < leadCount && firstVowel ≤ b.toNat && vowel < vowelCount then
    some (Char.ofNat (firstSyllable + (lead * vowelCount + vowel) * trailCount))
  else if firstSyllable ≤ a.toNat && syllable < leadCount * vowelCount * trailCount
      && syllable % trailCount == 0 && 0 < trail && trail < trailCount then
    some (Char.ofNat (a.toNat + trail))
  else none

/-! ## Taking apart, ordering, composing -/

/-- How often a part may have to be taken apart again. -/
def partDepth : Nat := 4

/-- A character taken apart, its first part up to so many times. -/
def partsOf : (depth : Nat) → Char → List Char
  | 0, c => [c]
  | depth + 1, c =>
      match syllableLetters? c with
      | some letters => letters
      | none =>
          match (equivalents.find? (·.whole == c)).map (·.parts) with
          | some (first :: more) => partsOf depth first ++ more
          | _ => [c]

/-- Put a character in front of some that are in order. It moves behind those of a lower class,
but not past one of the class zero. -/
def settle (c : Char) : List Char → List Char
  | [] => [c]
  | d :: ds =>
      if 0 < combiningClass d && combiningClass d < combiningClass c then d :: settle c ds
      else c :: d :: ds

/-- The text with the marks after each letter in the order of their classes. -/
def ordered (cs : List Char) : List Char := cs.foldr settle []

/-- What two characters are composed into. -/
def composite? (a b : Char) : Option Char :=
  match syllable? a b with
  | some c => some c
  | none => (equivalents.find? fun e => e.composes && e.parts == [a, b]).map (·.whole)

/-- Compose a letter with what follows it. `passed` are the marks after the letter that could not be
composed with it, last first; a mark is out of reach behind another of its own class or a higher
one. -/
def composeFrom (letter : Char) (passed : List Char) : List Char → List Char
  | [] => letter :: passed.reverse
  | c :: cs =>
      let inReach := match passed with
        | [] => true
        | last :: _ => combiningClass last < combiningClass c
      match if inReach then composite? letter c else none with
      | some whole => composeFrom whole passed cs
      | none =>
          if combiningClass c == 0 then letter :: passed.reverse ++ composeFrom c [] cs
          else composeFrom letter (c :: passed) cs

/-- The text with every letter composed with the marks after it. Marks before the first letter stay
as they are. -/
def compose : List Char → List Char
  | [] => []
  | c :: cs => if combiningClass c == 0 then composeFrom c [] cs else c :: compose cs

/-- The one spelling of a text. -/
def composed (cs : List Char) : List Char :=
  compose (ordered (cs.flatMap (partsOf partDepth)))

end PulseBridge.Text
