import PulseBridge.Net.Name.Direction
import PulseBridge.Net.Name.Joining
import PulseBridge.Net.Name.Punycode
import PulseBridge.Net.Name.Table
import PulseBridge.Text.Marks

/-!
# Domain names

A domain name is a sequence of labels with dots between them. It may be given in any script:
`Name.ascii?` brings it to the form in which it is looked up. Each character counts as what the
tables say, capital letters as small ones; the whole is composed; and a label that is not ASCII
then is written in ASCII behind the prefix `xn--`. A label that has this prefix already must be what
writing the label it stands for gives.
-/

namespace PulseBridge.Net.Name

open Text (CharSet CodeRange)

/-- Whether a character may not stand in a name of the web. -/
def isForbidden (c : Char) : Bool :=
  c.toNat ≤ 0x20 || c.toNat == 0x7f || "%#/:<>?@[\\]^|".toList.contains c

/-! ## Characters -/

/-- Characters that count as others. -/
structure Move where
  range : CodeRange
  /-- Whether only every second character of the range is meant. -/
  alternate : Bool
  target : List Char

/-- The move that a word of the table stands for. -/
def Move.ofWord (word : List Char) : Move :=
  let digits := word.takeWhile (· != '>')
  let sign := word.drop digits.length
  ⟨.ofWord digits, sign.take 2 == ['>', '>'], Text.dottedChars (sign.dropWhile (· == '>'))⟩

/-- What a character of the range counts as. -/
def Move.apply (move : Move) (c : Char) : List Char :=
  let offset := c.toNat - move.range.first
  match move.target with
  | [first] =>
      if move.alternate && offset % 2 == 1 then [c] else [Char.ofNat (first.toNat + offset)]
  | target => target

/-- The characters that count as others. -/
def moves : List Move := (Text.words movedTable.toList).map Move.ofWord

/-- The characters that count as nothing. -/
def droppedChars : CharSet := .ofTable droppedTable

/-- The characters that may not stand in a name. -/
def refusedChars : CharSet := .ofTable refusedTable

/-- What a character counts as, unless it may not stand in a name. -/
def counted? (c : Char) : Option (List Char) :=
  if refusedChars.has c then none
  else if droppedChars.has c then some []
  else
    match moves.find? (·.range.covers c) with
    | some move => some (move.apply c)
    | none => some [c]

/-- Whether characters count as themselves. -/
def isCounted (cs : List Char) : Bool :=
  cs.all (fun c => counted? c == some [c]) && Text.composed cs == cs

/-! ## Labels -/

/-- The characters of a label, and how it is written in ASCII. -/
structure Label where
  chars : List Char
  ascii : List Char
  deriving DecidableEq, Repr

/-- What stands before a label that is written in ASCII. -/
def codedStart : List Char := ['x', 'n', '-', '-']

/-- The greatest length of a label that is written in ASCII, before and after. -/
def labelLimit : Nat := 1000
def codedLimit : Nat := 2000

/-- Whether a character belongs to ASCII. -/
def isAscii (c : Char) : Bool := c.toNat < 0x80

/-- The label that some characters stand for. -/
def Label.ofChars? (cs : List Char) : Option Label :=
  if codedStart.isPrefixOf cs then
    let coded := cs.drop codedStart.length
    if !cs.all isAscii || cs.getLast? == some '-' || codedLimit < coded.length then none
    else
      match Punycode.decode? coded with
      | some chars =>
          if isCounted chars && !chars.any isForbidden then some ⟨chars, cs⟩ else none
      | none => none
  else if cs.all isAscii then some ⟨cs, cs⟩
  else if labelLimit < cs.length then none
  else some ⟨cs, codedStart ++ Punycode.encode cs⟩

/-- Whether a label can be read as it stands: no mark hangs in the air, and joiners matter. -/
def Label.isReadable (label : Label) : Bool :=
  !label.chars.head?.any Text.isMark && joinersMatter [] label.chars

/-! ## Names -/

/-- A name in the form in which it is looked up. -/
def ascii? (cs : List Char) : Option (List Char) := do
  let counted ← cs.mapM counted?
  let name := Text.composed counted.flatten
  if name.any isForbidden then none
  else
    let labels ← (Text.pieces (· == '.') name).mapM Label.ofChars?
    let turned := labels.any (·.chars.any turnsName)
    if labels.all fun label => label.isReadable && (!turned || runsOneWay label.chars) then
      some (['.'].intercalate (labels.map (·.ascii)))
    else none

end PulseBridge.Net.Name
