import PulseBridge.Json.Blank
import PulseBridge.Json.Number
import PulseBridge.Json.Text

/-!
# Values that nobody asked for

A value of an unknown field is passed over without being built. It may nest without limit, so the
open brackets are kept on a stack of their own.

## Implementation notes

Every round of `skipRounds` but the last consumes at least one octet, so one more round than there
are octets left is enough. The octets themselves are the clock, as counting them would take as long
as reading them.
-/

namespace PulseBridge.Json

open Ascii

/-- An open bracket. -/
inductive Bracket where
  | list
  | object
  deriving DecidableEq, Repr

/-- The input ends inside a bracket. -/
def Bracket.ending : Bracket → Cause
  | .list => .endInList
  | .object => .endInObject

/-- Neither a comma nor the closing bracket. -/
def Bracket.endExpected : Bracket → Cause
  | .list => .listEndExpected
  | .object => .objectEndExpected

/-- The closing bracket. -/
def Bracket.closer : Bracket → UInt8
  | .list => closeBracket
  | .object => closeBrace

/-- What is passed over next. -/
inductive SkipTask where
  /-- A value. -/
  | value
  /-- What follows a member or element of the innermost bracket. -/
  | next
  /-- A key and its colon, then a value. -/
  | key

/-- Pass over a value that is no list and no object. -/
def skipLeaf (b : UInt8) (rest : Octets) : Except Fault Octets :=
  if b == lowerN then readLetters nullLetters rest
  else if b == lowerT then readLetters trueLetters rest
  else if b == lowerF then readLetters falseLetters rest
  else if b == minus then skipNumber rest
  else if Octets.isDigit b then skipNumber (b :: rest)
  else if b == quote then skipText rest
  else .error ⟨.valueExpected, .peeked (b :: rest)⟩

/-- Consume the colon after a key. -/
def readColon (s : Octets) : Except Fault Octets :=
  match skipBlanks s with
  | [] => .error ⟨.endInObject, .peeked []⟩
  | b :: rest => if b == colon then .ok rest else .error ⟨.colonExpected, .peeked (b :: rest)⟩

/-- Pass over one key and its colon. -/
def skipKey (s : Octets) : Except Fault Octets :=
  match skipBlanks s with
  | [] => .error ⟨.endInObject, .peeked []⟩
  | b :: rest =>
      if b == quote then skipText rest >>= readColon
      else .error ⟨.keyNotText, .peeked (b :: rest)⟩

/-- What comes first inside a bracket. -/
def Bracket.entry : Bracket → SkipTask
  | .list => .value
  | .object => .key

/-- Pass over what `task` names and then over the rest of the open brackets. There are as many
rounds as octets in the clock. -/
def skipRounds : (clock : Octets) → SkipTask → List Bracket → Octets → Except Fault Octets
  | [], _, [], _ => .error ⟨.endInValue, .peeked []⟩
  | [], _, bracket :: _, _ => .error ⟨bracket.ending, .peeked []⟩
  | _ :: clock, .value, stack, s =>
      let enter (bracket : Bracket) (rest : Octets) : Except Fault Octets :=
        match skipBlanks rest with
        | [] => .error ⟨bracket.ending, .peeked []⟩
        | b :: rest =>
            if b != bracket.closer then skipRounds clock bracket.entry (bracket :: stack) (b :: rest)
            else if stack.isEmpty then .ok rest
            else skipRounds clock .next stack rest
      match skipBlanks s with
      | [] => .error ⟨.endInValue, .peeked []⟩
      | openBracket :: rest => enter .list rest
      | openBrace :: rest => enter .object rest
      | b :: rest =>
          match skipLeaf b rest with
          | .error fault => .error fault
          | .ok rest => if stack.isEmpty then .ok rest else skipRounds clock .next stack rest
  | _ :: _, .next, [], s => .ok s
  | _ :: clock, .next, bracket :: stack, s =>
      match skipBlanks s with
      | [] => .error ⟨bracket.ending, .peeked []⟩
      | b :: rest =>
          if b == comma then skipRounds clock bracket.entry (bracket :: stack) rest
          else if b == bracket.closer then
            if stack.isEmpty then .ok rest else skipRounds clock .next stack rest
          else .error ⟨bracket.endExpected, .peeked (b :: rest)⟩
  | _ :: clock, .key, stack, s =>
      match skipKey s with
      | .error fault => .error fault
      | .ok rest => skipRounds clock .value stack rest

/-- Pass over one value. -/
def skipValue (s : Octets) : Except Fault Octets := skipRounds (comma :: s) .value [] s

end PulseBridge.Json
