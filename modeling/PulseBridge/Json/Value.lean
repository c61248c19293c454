import PulseBridge.Json.Record

/-!
# Values of any shape

A `Value` is a document as a tree. It is read where the shape is not known beforehand: where a
text or a number may stand, or where one of several shapes is tried after the other. A tree keeps
its members in the order of the document, repetitions included; `Value.write` sorts them and keeps
the last of each name.
-/

namespace PulseBridge.Json

open Ascii

/-- A JSON value. -/
inductive Value where
  | null
  | boolean (value : Bool)
  | number (value : Number)
  | text (value : String)
  | list (elements : List Value)
  | object (members : List (String × Value))

/-- Read members of any names, gathering them last first. -/
def anyMembers {α : Type} (r : Reader α) (room : Nat) :
    (clock : Octets) → Bool → List (String × α) → Octets →
      Except Fault (List (String × α) × Octets)
  | [], _, _, _ => .error ⟨.endInObject, .peeked []⟩
  | _ :: clock, first, gathered, s =>
      match Reader.nextMember first s with
      | .error fault => .error fault
      | .ok none =>
          match Reader.endObject s with
          | .error fault => .error fault
          | .ok rest => .ok (gathered.reverse, rest)
      | .ok (some rest) =>
          match readText rest with
          | .error fault => .error fault
          | .ok (key, rest) =>
              match readColon rest with
              | .error fault => .error fault
              | .ok rest =>
                  match r room rest with
                  | .error fault => .error fault
                  | .ok (value, rest) =>
                      anyMembers r room clock false ((key, value) :: gathered) rest

/-- Read a scalar value that begins with `b`. -/
def readScalar (b : UInt8) (rest : Octets) : Except Fault (Value × Octets) :=
  if b == lowerN then (readLetters nullLetters rest).map (.null, ·)
  else if b == lowerT then (readLetters trueLetters rest).map (.boolean true, ·)
  else if b == lowerF then (readLetters falseLetters rest).map (.boolean false, ·)
  else if b == minus then (readNumber true rest).map fun (n, rest) => (.number n, rest)
  else if Octets.isDigit b then
    (readNumber false (b :: rest)).map fun (n, rest) => (.number n, rest)
  else if b == quote then (readText rest).map fun (t, rest) => (.text t, rest)
  else .error ⟨.valueExpected, .peeked (b :: rest)⟩

/-- Read a value of any shape. Each bracket takes one off the room. -/
def readValue : Reader Value
  | room, s =>
      match skipBlanks s with
      | [] => .error ⟨.endInValue, .peeked []⟩
      | openBracket :: rest =>
          match room with
          | 0 => .error ⟨.nestedTooDeep, .peeked (openBracket :: rest)⟩
          | room + 1 =>
              (Reader.elements (fun _ => readValue room) room (openBracket :: rest) true [] rest).map
                fun (vs, rest) => (.list vs, rest)
      | openBrace :: rest =>
          match room with
          | 0 => .error ⟨.nestedTooDeep, .peeked (openBrace :: rest)⟩
          | room + 1 =>
              (anyMembers (fun _ => readValue room) room (openBrace :: rest) true [] rest).map
                fun (ms, rest) => (.object ms, rest)
      | b :: rest => readScalar b rest

/-- Put a member at its place among members sorted by name; a member of the same name is
replaced. -/
def insertMember (key : String) (written : Octets) :
    List (String × Octets) → List (String × Octets)
  | [] => [(key, written)]
  | (k, w) :: rest =>
      if key < k then (key, written) :: (k, w) :: rest
      else if key = k then (key, written) :: rest
      else (k, w) :: insertMember key written rest

/-- Octets with a comma between each two. -/
def joinWithCommas (parts : List Octets) : Octets := [comma].intercalate parts

/-- The members of an object, in the order given. -/
def writeMembers (members : List (String × Octets)) : Octets :=
  openBrace :: joinWithCommas (members.map fun (key, w) => writeText key ++ colon :: w)
    ++ [closeBrace]

/-- The elements of a list. -/
def writeList (elements : List Octets) : Octets :=
  openBracket :: joinWithCommas elements ++ [closeBracket]

mutual

/-- A value without blanks, its members sorted by name, the last of each name kept. -/
def Value.write : Value → Octets
  | .null => lowerN :: nullLetters
  | .boolean true => lowerT :: trueLetters
  | .boolean false => lowerF :: falseLetters
  | .number n => n.write
  | .text s => writeText s
  | .list vs => writeList (writeEach vs)
  | .object ms => writeMembers (writeSorted ms [])

/-- Each of some values. -/
def writeEach : List Value → List Octets
  | [] => []
  | v :: vs => v.write :: writeEach vs

/-- Members written and put among those sorted so far. -/
def writeSorted : List (String × Value) → List (String × Octets) → List (String × Octets)
  | [], sorted => sorted
  | (key, v) :: ms, sorted => writeSorted ms (insertMember key v.write sorted)

end

end PulseBridge.Json
