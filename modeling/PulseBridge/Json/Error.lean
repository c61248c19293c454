import PulseBridge.Ascii
import PulseBridge.Octets
import PulseBridge.Decimal.Layout
import PulseBridge.Text.Quoted

/-!
# Why a JSON document is refused

A reader that cannot go on reports a `Fault`: its cause, and where it happened in terms of the
octets that were left. Once the whole document is known, `Fault.inDocument` turns that into an
`Error` with a line and a column. The wording of every cause is in `Cause.message`.
-/

namespace PulseBridge.Json

/-- How numbers are written in JSON: positionally from `1e-5` to below `1e16`, always with a point
or an exponent, and `null` for what is no number. -/
def numberLayout : Decimal.Layout := ⟨-5, 15, ".0", "+", "null"⟩

/-- What a typed reader asks for. -/
inductive Shape where
  | text
  | i64
  | u64
  | usize
  | u8
  | f64
  | boolean
  | list
  | socketAddress
  | record (title : String)
  | recordOf (title : String) (size : Nat)

/-- A shape in words. -/
def Shape.phrase : Shape → String
  | .text => "a string"
  | .i64 => "i64"
  | .u64 => "u64"
  | .usize => "usize"
  | .u8 => "u8"
  | .f64 => "f64"
  | .boolean => "a boolean"
  | .list => "a sequence"
  | .socketAddress => "socket address"
  | .record title => "struct " ++ title
  | .recordOf title size =>
      "struct " ++ title ++ " with " ++ toString size
        ++ (if size == 1 then " element" else " elements")

/-- What a typed reader found instead. -/
inductive Found where
  | null
  | boolean (value : Bool)
  | integer (value : Int)
  | float (value : Float)
  | text (value : String)
  | list
  | object

/-- A finding in words. -/
def Found.phrase : Found → String
  | .null => "null"
  | .boolean true => "boolean `true`"
  | .boolean false => "boolean `false`"
  | .integer n => "integer `" ++ toString n ++ "`"
  | .float x => "floating point `" ++ numberLayout.text x ++ "`"
  | .text s => "string " ++ Text.quoted s
  | .list => "sequence"
  | .object => "map"

/-- Why a document is refused. -/
inductive Cause where
  /-- The input ends where a value, or a list, object or string goes on. -/
  | endInValue
  | endInList
  | endInObject
  | endInText
  | valueExpected
  | wordExpected
  | listEndExpected
  | objectEndExpected
  | colonExpected
  | trailingComma
  | trailingCharacters
  | keyNotText
  | badNumber
  | numberTooLarge
  | badEscape
  | loneSurrogate
  | escapeCutShort
  | controlCharacter
  | notUnicode
  | nestedTooDeep
  | wrongType (found : Found) (wanted : Shape)
  | outOfRange (value : Int) (wanted : Shape)
  | repeatedField (name : String)
  | absentField (name : String)
  | wrongLength (length : Nat) (wanted : Shape)
  | noVariant (choice : String)
  | badSocketAddress

/-- The three kinds of refusal. -/
inductive Kind where
  /-- The text is not JSON. -/
  | grammar
  /-- The text is JSON, but not of the shape asked for. -/
  | data
  /-- The text ends too soon. -/
  | ending
  deriving DecidableEq, Repr

/-- The kind of a cause. -/
def Cause.kind : Cause → Kind
  | .endInValue | .endInList | .endInObject | .endInText => .ending
  | .wrongType .. | .outOfRange .. | .repeatedField _ | .absentField _ | .wrongLength ..
  | .noVariant _ | .badSocketAddress => .data
  | _ => .grammar

/-- A cause in words. -/
def Cause.message : Cause → String
  | .endInValue => "EOF while parsing a value"
  | .endInList => "EOF while parsing a list"
  | .endInObject => "EOF while parsing an object"
  | .endInText => "EOF while parsing a string"
  | .valueExpected => "expected value"
  | .wordExpected => "expected ident"
  | .listEndExpected => "expected `,` or `]`"
  | .objectEndExpected => "expected `,` or `\x7d`"
  | .colonExpected => "expected `:`"
  | .trailingComma => "trailing comma"
  | .trailingCharacters => "trailing characters"
  | .keyNotText => "key must be a string"
  | .badNumber => "invalid number"
  | .numberTooLarge => "number out of range"
  | .badEscape => "invalid escape"
  | .loneSurrogate => "lone leading surrogate in hex escape"
  | .escapeCutShort => "unexpected end of hex escape"
  | .controlCharacter => "control character (\\u0000-\\u001F) found while parsing a string"
  | .notUnicode => "invalid unicode code point"
  | .nestedTooDeep => "recursion limit exceeded"
  | .wrongType found wanted =>
      "invalid type: " ++ found.phrase ++ ", expected " ++ wanted.phrase
  | .outOfRange value wanted =>
      "invalid value: integer `" ++ toString value ++ "`, expected " ++ wanted.phrase
  | .repeatedField name => "duplicate field `" ++ name ++ "`"
  | .absentField name => "missing field `" ++ name ++ "`"
  | .wrongLength length wanted =>
      "invalid length " ++ toString length ++ ", expected " ++ wanted.phrase
  | .noVariant choice => "data did not match any variant of untagged enum " ++ choice
  | .badSocketAddress => "invalid socket address syntax"

/-- Where a fault happened, by the octets that were left. -/
inductive Place where
  /-- Everything before `rest` has been consumed. -/
  | consumed (rest : Octets)
  /-- The first octet of `rest` has been looked at. -/
  | peeked (rest : Octets)
  /-- Not settled yet: a value before `rest` was well formed, but it was refused as a whole. The
  record around it settles the place. -/
  | pending (rest : Octets)

/-- A cause and its place. -/
structure Fault where
  cause : Cause
  place : Place

/-- A line, counted from one, and a column in octets. -/
structure Position where
  line : Nat
  column : Nat
  deriving DecidableEq, Repr

/-- The position after some octets. -/
def Position.after (consumed : Octets) : Position :=
  consumed.foldl
    (fun p b => if b == Ascii.lineFeed then ⟨p.line + 1, 0⟩ else ⟨p.line, p.column + 1⟩) ⟨1, 0⟩

/-- A refusal of a whole document. -/
structure Error where
  cause : Cause
  position : Option Position

/-- The position of a place in a document. Looking at an octet counts it, if there is one. -/
def Place.position? (document : Octets) : Place → Option Position
  | .consumed rest => some (.after (document.take (document.length - rest.length)))
  | .peeked rest => some (.after (document.take (document.length - rest.length + 1)))
  | .pending _ => none

/-- A fault as a refusal of the document that it happened in. -/
def Fault.inDocument (fault : Fault) (document : Octets) : Error :=
  ⟨fault.cause, fault.place.position? document⟩

/-- The kind of a refusal. -/
def Error.kind (e : Error) : Kind := e.cause.kind

/-- A refusal in words. -/
def Error.message (e : Error) : String :=
  match e.position with
  | some p => e.cause.message ++ " at line " ++ toString p.line ++ " column " ++ toString p.column
  | none => e.cause.message

end PulseBridge.Json
