import PulseBridge.Json.Skip

/-!
# Typed readers

A `Reader` takes a value of one type off the front of a document. It is told how many brackets may
still be opened, since documents nest to a limited depth, and it answers with the value and the
octets left, or with a fault. `decode` reads a whole document.
-/

namespace PulseBridge.Json

open Ascii

/-- Takes a value off the front of the octets, with room for so many more open brackets. -/
abbrev Reader (α : Type) := (room : Nat) → Octets → Except Fault (α × Octets)

/-- How many brackets may be open at once. -/
def depthLimit : Nat := 127

namespace Reader

variable {α β : Type}

/-- Read, then apply a function to what was read. -/
def map (f : α → β) (r : Reader α) : Reader β := fun room s =>
  match r room s with
  | .ok (a, rest) => .ok (f a, rest)
  | .error fault => .error fault

/-- Refuse the value that begins here because another shape was wanted. A scalar is read first, so
that its own faults come first and the place is behind it; a bracket is left unread. -/
def refuse (wanted : Shape) (b : UInt8) (rest : Octets) : Fault :=
  let scalar (r : Except Fault (Found × Octets)) : Fault :=
    match r with
    | .error fault => fault
    | .ok (found, rest) => ⟨.wrongType found wanted, .consumed rest⟩
  if b == lowerN then scalar ((readLetters nullLetters rest).map (.null, ·))
  else if b == lowerT then scalar ((readLetters trueLetters rest).map (.boolean true, ·))
  else if b == lowerF then scalar ((readLetters falseLetters rest).map (.boolean false, ·))
  else if b == minus then scalar ((readNumber true rest).map fun (n, rest) => (n.found, rest))
  else if Octets.isDigit b then
    scalar ((readNumber false (b :: rest)).map fun (n, rest) => (n.found, rest))
  else if b == quote then scalar ((readText rest).map fun (t, rest) => (.text t, rest))
  else if b == openBracket then ⟨.wrongType .list wanted, .consumed (b :: rest)⟩
  else if b == openBrace then ⟨.wrongType .object wanted, .consumed (b :: rest)⟩
  else ⟨.valueExpected, .peeked (b :: rest)⟩

/-- Read a text. -/
def text : Reader String := fun _ s =>
  match skipBlanks s with
  | [] => .error ⟨.endInValue, .peeked []⟩
  | b :: rest => if b == quote then readText rest else .error (refuse .text b rest)

/-- Read a number and make something of it. A value that is refused is so behind the number. -/
def number (wanted : Shape) (accept : Number → Except Cause α) : Reader α := fun _ s =>
  let finish (r : Except Fault (Number × Octets)) : Except Fault (α × Octets) :=
    match r with
    | .error fault => .error fault
    | .ok (n, rest) =>
        match accept n with
        | .ok a => .ok (a, rest)
        | .error cause => .error ⟨cause, .consumed rest⟩
  match skipBlanks s with
  | [] => .error ⟨.endInValue, .peeked []⟩
  | b :: rest =>
      if b == minus then finish (readNumber true rest)
      else if Octets.isDigit b then finish (readNumber false (b :: rest))
      else .error (refuse wanted b rest)

/-- An integer between two bounds. -/
def acceptInteger (wanted : Shape) (low high : Int) : Number → Except Cause Int
  | .integer n => if low ≤ n && n ≤ high then .ok n else .error (.outOfRange n wanted)
  | .float x => .error (.wrongType (.float x) wanted)

/-- Read a signed integer of 64 bits. -/
def i64 : Reader Int64 :=
  (number .i64 (acceptInteger .i64 (-0x8000000000000000) 0x7FFFFFFFFFFFFFFF)).map Int64.ofInt

/-- Read an unsigned integer of 64 bits. -/
def u64 : Reader UInt64 :=
  (number .u64 (acceptInteger .u64 0 0xFFFFFFFFFFFFFFFF)).map fun n => UInt64.ofNat n.toNat

/-- Read a size, which has 64 bits. -/
def usize : Reader UInt64 :=
  (number .usize (acceptInteger .usize 0 0xFFFFFFFFFFFFFFFF)).map fun n => UInt64.ofNat n.toNat

/-- Read an octet. -/
def u8 : Reader UInt8 := (number .u8 (acceptInteger .u8 0 255)).map fun n => UInt8.ofNat n.toNat

/-- Read a double. -/
def f64 : Reader Float := number .f64 fun n => .ok n.toFloat

/-- Read a truth value. -/
def boolean : Reader Bool := fun _ s =>
  match skipBlanks s with
  | [] => .error ⟨.endInValue, .peeked []⟩
  | b :: rest =>
      if b == lowerT then (readLetters trueLetters rest).map (true, ·)
      else if b == lowerF then (readLetters falseLetters rest).map (false, ·)
      else .error (refuse .boolean b rest)

/-- Read `null` as nothing and anything else as `r` does. -/
def nullable (r : Reader α) : Reader (Option α) := fun room s =>
  match skipBlanks s with
  | lowerN :: rest => (readLetters nullLetters rest).map (none, ·)
  | _ => r.map some room s

/-- Read a text that `accept` understands; a text that is refused is so behind its quote. -/
def textAs (wanted : Shape) (accept : String → Except Cause α) : Reader α := fun _ s =>
  match skipBlanks s with
  | [] => .error ⟨.endInValue, .peeked []⟩
  | b :: rest =>
      if b == quote then
        match readText rest with
        | .error fault => .error fault
        | .ok (t, rest) =>
            match accept t with
            | .ok a => .ok (a, rest)
            | .error cause => .error ⟨cause, .consumed rest⟩
      else .error (refuse wanted b rest)

/-- Whether another element follows. `some rest` is where it begins. -/
def nextElement (first : Bool) (s : Octets) : Except Fault (Option Octets) :=
  match skipBlanks s with
  | [] => .error ⟨.endInList, .peeked []⟩
  | closeBracket :: _ => .ok none
  | b :: rest =>
      if first then .ok (some (b :: rest))
      else if b == comma then
        match skipBlanks rest with
        | [] => .error ⟨.endInValue, .peeked []⟩
        | closeBracket :: rest => .error ⟨.trailingComma, .peeked (closeBracket :: rest)⟩
        | rest => .ok (some rest)
      else .error ⟨.listEndExpected, .peeked (b :: rest)⟩

/-- Consume the closing bracket of a list that holds nothing more. -/
def endList (s : Octets) : Except Fault Octets :=
  match skipBlanks s with
  | [] => .error ⟨.endInList, .peeked []⟩
  | closeBracket :: rest => .ok rest
  | comma :: rest =>
      match skipBlanks rest with
      | closeBracket :: rest => .error ⟨.trailingComma, .peeked (closeBracket :: rest)⟩
      | rest => .error ⟨.trailingCharacters, .peeked rest⟩
  | rest => .error ⟨.trailingCharacters, .peeked rest⟩

/-- Read elements up to the closing bracket, gathering them last first. Every element has at least
one octet, so the list has ended when as many rounds are over as the clock has octets. -/
def elements (r : Reader α) (room : Nat) :
    (clock : Octets) → Bool → List α → Octets → Except Fault (List α × Octets)
  | [], _, _, _ => .error ⟨.endInList, .peeked []⟩
  | _ :: clock, first, gathered, s =>
      match nextElement first s with
      | .error fault => .error fault
      | .ok none =>
          match endList s with
          | .error fault => .error fault
          | .ok rest => .ok (gathered.reverse, rest)
      | .ok (some rest) =>
          match r room rest with
          | .error fault => .error fault
          | .ok (a, rest) => elements r room clock false (a :: gathered) rest

/-- Read a list. -/
def list (r : Reader α) : Reader (List α) := fun room s =>
  match skipBlanks s with
  | [] => .error ⟨.endInValue, .peeked []⟩
  | openBracket :: rest =>
      match room with
      | 0 => .error ⟨.nestedTooDeep, .peeked (openBracket :: rest)⟩
      | room + 1 => elements r room (openBracket :: rest) true [] rest
  | b :: rest => .error (refuse .list b rest)

/-- Whether another member follows. `some rest` is what comes after the quote that opens its key. -/
def nextMember (first : Bool) (s : Octets) : Except Fault (Option Octets) :=
  let key (s : Octets) : Except Fault (Option Octets) :=
    match s with
    | [] => .error ⟨.endInValue, .peeked []⟩
    | quote :: rest => .ok (some rest)
    | closeBrace :: rest => .error ⟨.trailingComma, .peeked (closeBrace :: rest)⟩
    | rest => .error ⟨.keyNotText, .peeked rest⟩
  match skipBlanks s with
  | [] => .error ⟨.endInObject, .peeked []⟩
  | closeBrace :: _ => .ok none
  | b :: rest =>
      if first then key (b :: rest)
      else if b == comma then key (skipBlanks rest)
      else .error ⟨.objectEndExpected, .peeked (b :: rest)⟩

/-- Consume the closing brace of an object that holds nothing more. -/
def endObject (s : Octets) : Except Fault Octets :=
  match skipBlanks s with
  | [] => .error ⟨.endInObject, .peeked []⟩
  | closeBrace :: rest => .ok rest
  | comma :: rest => .error ⟨.trailingComma, .peeked (comma :: rest)⟩
  | rest => .error ⟨.trailingCharacters, .peeked rest⟩

end Reader

/-- Read a whole document: one value, then nothing but blanks. -/
def decode {α : Type} (r : Reader α) (document : Octets) : Except Error α :=
  match r depthLimit document with
  | .error fault => .error (fault.inDocument document)
  | .ok (a, rest) =>
      match skipBlanks rest with
      | [] => .ok a
      | rest => .error (Fault.inDocument ⟨.trailingCharacters, .peeked rest⟩ document)

end PulseBridge.Json
