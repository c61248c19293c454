import PulseBridge.Octets

/-!
# Showing octets as text

Any octets can be shown. Those that are UTF-8 are shown as the text they spell; elsewhere each
maximal invalid part becomes one replacement character. An invalid part is maximal when it is the
longest start of a well-formed character that the octets still allow.
-/

namespace PulseBridge.Octets

/-- The character that stands for an invalid part. -/
def replacement : Char := '\ufffd'

/-- The range of the second octet and the number of octets after it, for a leading octet. -/
def leadShape? (b : UInt8) : Option (UInt8 × UInt8 × Nat) :=
  if 0xc2 ≤ b && b ≤ 0xdf then some (0x80, 0xbf, 0)
  else if b == 0xe0 then some (0xa0, 0xbf, 1)
  else if b == 0xed then some (0x80, 0x9f, 1)
  else if 0xe1 ≤ b && b ≤ 0xef then some (0x80, 0xbf, 1)
  else if b == 0xf0 then some (0x90, 0xbf, 2)
  else if 0xf1 ≤ b && b ≤ 0xf3 then some (0x80, 0xbf, 2)
  else if b == 0xf4 then some (0x80, 0x8f, 2)
  else none

/-- What is known of the character being read. -/
inductive Partial where
  /-- Between characters. -/
  | none
  /-- A character with `value` so far, whose next octet lies between `low` and `high`, and
  `more` octets after that one. -/
  | open (value : Nat) (low high : UInt8) (more : Nat)

/-- Begin a character: the text so far and what is known of the new one. -/
def beginChar (shown : String) (b : UInt8) : String × Partial :=
  if b < 0x80 then (shown.push (Char.ofNat b.toNat), .none)
  else
    match leadShape? b with
    | some (low, high, more) =>
        let value := if more == 0 then b.toNat % 0x20 else if more == 1 then b.toNat % 0x10
          else b.toNat % 0x08
        (shown, .open value low high more)
    | none => (shown.push replacement, .none)

/-- Take one octet. An octet that cannot go on with the character ends an invalid part and begins
the next character. -/
def showStep : String × Partial → UInt8 → String × Partial
  | (shown, .none), b => beginChar shown b
  | (shown, .open value low high more), b =>
      if low ≤ b && b ≤ high then
        let value := value * 0x40 + b.toNat % 0x40
        match more with
        | 0 => (shown.push (Char.ofNat value), .none)
        | n + 1 => (shown, .open value 0x80 0xbf n)
      else beginChar (shown.push replacement) b

/-- The octets from the first one on that begins no well-formed character. The character being
read, if any, is given by the octets from its first one on, the range of its next octet, and the
number of octets after that one. -/
def fromInvalid : Option (Octets × UInt8 × UInt8 × Nat) → Octets → Octets
  | none, [] => []
  | some (start, _, _, _), [] => start
  | none, b :: rest =>
      if b < 0x80 then fromInvalid none rest
      else
        match leadShape? b with
        | none => b :: rest
        | some (low, high, more) => fromInvalid (some (b :: rest, low, high, more)) rest
  | some (start, low, high, more), b :: rest =>
      if low ≤ b && b ≤ high then
        match more with
        | 0 => fromInvalid none rest
        | n + 1 => fromInvalid (some (start, 0x80, 0xbf, n)) rest
      else start

/-- The octets with every maximal invalid part replaced. -/
def repair (bs : Octets) : String :=
  match bs.foldl showStep ("", .none) with
  | (shown, .none) => shown
  | (shown, .open ..) => shown.push replacement

/-- The octets as text, for a reader's eyes. -/
def lossyText (bs : Octets) : String :=
  match text? bs with
  | some s => s
  | none => repair bs

theorem lossyText_ofText (s : String) : lossyText (ofText s) = s := by
  simp [lossyText, text?_ofText]

end PulseBridge.Octets
