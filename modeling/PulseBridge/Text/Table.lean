import PulseBridge.Text.Pieces

/-!
# Tables of characters

A property of characters is written down as a table: words between blanks, each a code point in
hexadecimal, or the first and the last of a range with a dash between them. A `CharSet` is such a
table, read.
-/

namespace PulseBridge.Text

/-- The number that hexadecimal digits in small letters stand for. -/
def hexNumber (digits : List Char) : Nat :=
  digits.foldl (fun n c => 16 * n + (if c ≤ '9' then c.toNat - 0x30 else c.toNat - 0x57)) 0

/-- A range of code points, both ends included. -/
structure CodeRange where
  first : Nat
  last : Nat
  deriving DecidableEq, Repr

namespace CodeRange

/-- The range that a word of a table stands for. -/
def ofWord (word : List Char) : CodeRange :=
  match pieces (· == '-') word with
  | [first, last] => ⟨hexNumber first, hexNumber last⟩
  | _ => ⟨hexNumber word, hexNumber word⟩

/-- Whether a character lies within the range. -/
def covers (range : CodeRange) (c : Char) : Bool :=
  range.first ≤ c.toNat && c.toNat ≤ range.last

end CodeRange

/-- A set of characters, by the ranges of their code points. -/
abbrev CharSet := List CodeRange

namespace CharSet

/-- The set that a table describes. -/
def ofTable (table : String) : CharSet := (words table.toList).map CodeRange.ofWord

/-- Whether a character belongs to the set. -/
def has (set : CharSet) (c : Char) : Bool := set.any (·.covers c)

end CharSet

end PulseBridge.Text
