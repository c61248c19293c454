/-!
# Labels in ASCII

A label with characters beyond ASCII is written in ASCII as its ASCII characters, a dash, and a
sequence of numbers that say which other characters are inserted where. The numbers are written
with 36 digits, the least significant first; a digit below a threshold is the last one of its
number, and the thresholds adapt to the numbers seen so far.

`encode` writes a label and `decode?` reads one.
-/

namespace PulseBridge.Net.Punycode

/-- The number of digits. -/
def base : Nat := 36

/-- The first code point that is inserted. -/
def firstInserted : Nat := 0x80

/-- The bias at the start of a label. -/
def firstBias : Nat := 72

/-- The threshold for a digit: `weight` is a base times the place of the digit, counted from
one. -/
def threshold (weight bias : Nat) : Nat := min 26 (max 1 (weight - bias))

theorem threshold_pos (weight bias : Nat) : 0 < threshold weight bias := by
  simp only [threshold]; omega

/-- How often a number must be divided by 35 to become small, and what is left of it. -/
def shrink (delta : Nat) : Nat × Nat :=
  if 455 < delta then
    let (times, left) := shrink (delta / 35)
    (times + 1, left)
  else (0, delta)
termination_by delta

/-- The bias after a number that made so many characters out of a label. -/
def adapt (delta count : Nat) (first : Bool) : Nat :=
  let delta := if first then delta / 700 else delta / 2
  let (times, left) := shrink (delta + delta / count)
  base * times + base * left / (left + 38)

/-- A digit: letters first. -/
def digitChar (d : Nat) : Char :=
  if d < 26 then Char.ofNat ('a'.toNat + d) else Char.ofNat ('0'.toNat + d - 26)

/-- The number that a digit stands for. -/
def digitValue? (c : Char) : Option Nat :=
  if 'a' ≤ c ∧ c ≤ 'z' then some (c.toNat - 'a'.toNat)
  else if '0' ≤ c ∧ c ≤ '9' then some (c.toNat - '0'.toNat + 26)
  else none

/-! ## Writing -/

/-- The digits of a number. -/
def writeNumber (bias weight n : Nat) : List Char :=
  let t := threshold weight bias
  if n < t then [digitChar n]
  else
    digitChar (t + (n - t) % (base - t))
      :: writeNumber bias (weight + base) ((n - t) / (base - t))
termination_by n
decreasing_by
  have pos := threshold_pos weight bias
  exact Nat.lt_of_le_of_lt (Nat.div_le_self _ _) (by omega)

/-- How far the writing of a label has come. -/
structure Writing where
  written : List Char
  delta : Nat
  bias : Nat
  /-- How many characters are in place. -/
  count : Nat
  /-- Whether no number has been written yet. -/
  first : Bool

/-- Pass a character while those with one code point are inserted. -/
def Writing.pass (w : Writing) (codePoint : Nat) (c : Char) : Writing :=
  if c.toNat < codePoint then { w with delta := w.delta + 1 }
  else if c.toNat == codePoint then
    { written := w.written ++ writeNumber w.bias base w.delta
      delta := 0
      bias := adapt w.delta (w.count + 1) w.first
      count := w.count + 1
      first := false }
  else w

/-- Insert the characters of each code point of an increasing list. `next` is the code point after
the last one that was inserted. -/
def Writing.insert (label : List Char) : (next : Nat) → List Nat → Writing → Writing
  | _, [], w => w
  | next, codePoint :: more, w =>
      let w := { w with delta := w.delta + (codePoint - next) * (w.count + 1) }
      let w := label.foldl (fun w c => w.pass codePoint c) w
      Writing.insert label (codePoint + 1) more { w with delta := w.delta + 1 }

/-- The code points of the characters beyond ASCII, in increasing order, each once. -/
def insertedCodePoints (label : List Char) : List Nat :=
  ((label.map Char.toNat).filter (firstInserted ≤ ·)).mergeSort.eraseReps

/-- A label in ASCII. -/
def encode (label : List Char) : List Char :=
  let plain := label.filter (·.toNat < firstInserted)
  let w := Writing.insert label firstInserted (insertedCodePoints label)
    ⟨[], 0, firstBias, plain.length, true⟩
  plain ++ (if plain.isEmpty then [] else ['-']) ++ w.written

/-! ## Reading -/

/-- Numbers are read in 32 bits. -/
def numberLimit : Nat := 0x100000000

/-- Add the digits of a number to a sum, the first of them counting `value` times. -/
def readNumber (bias : Nat) : (weight value sum : Nat) → List Char → Option (Nat × List Char)
  | _, _, _, [] => none
  | weight, value, sum, c :: cs =>
      match digitValue? c with
      | none => none
      | some d =>
          let t := threshold weight bias
          let sum := sum + d * value
          if numberLimit ≤ sum then none
          else if d < t then some (sum, cs)
          else if numberLimit ≤ value * (base - t) then none
          else readNumber bias (weight + base) (value * (base - t)) sum cs

theorem length_of_readNumber {bias weight value sum : Nat} {cs rest : List Char} {n : Nat}
    (h : readNumber bias weight value sum cs = some (n, rest)) : rest.length < cs.length := by
  induction cs generalizing weight value sum with
  | nil => simp [readNumber] at h
  | cons c cs ih =>
      simp only [readNumber] at h
      split at h
      · simp at h
      · split at h
        · simp at h
        · split at h
          · simp only [Option.some.injEq, Prod.mk.injEq] at h
            simp [h.2]
          · split at h
            · simp at h
            · exact Nat.lt_succ_of_lt (ih h)

/-- The character of a code point, if it is one. -/
def charOf? (n : Nat) : Option Char := if n.isValidChar then some (Char.ofNat n) else none

/-- Insert the characters that the numbers tell. `latest` is the code point that was inserted last,
and `place` the place after it. -/
def insertRead (bias latest place : Nat) (first : Bool) (label cs : List Char) :
    Option (List Char) :=
  if cs.isEmpty then some label
  else
    match h : readNumber bias base 1 place cs with
    | none => none
    | some (n, rest) =>
        have _shorter : rest.length < cs.length := length_of_readNumber h
        let count := label.length + 1
        match charOf? (latest + n / count) with
        | none => none
        | some c =>
            insertRead (adapt (n - place) count first) (latest + n / count) (n % count + 1) false
              (label.take (n % count) ++ c :: label.drop (n % count)) rest
termination_by cs.length

/-- The label that stands in ASCII. -/
def decode? (written : List Char) : Option (List Char) :=
  match written.reverse.dropWhile (· != '-') with
  | [] | [_] => insertRead firstBias firstInserted 0 true [] written
  | _ :: plain =>
      insertRead firstBias firstInserted 0 true plain.reverse (written.drop (plain.length + 1))

end PulseBridge.Net.Punycode
