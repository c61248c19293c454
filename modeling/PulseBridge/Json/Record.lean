import PulseBridge.Json.Reader

/-!
# Records

A record is read from an object, member by member in any order, or from a list, field by field in
the declared order. A `Record` lists its fields: their names, whether they may be left out, and
how a value changes the record read so far. Members with other names are passed over.

An object that gives a field twice is refused, also when it does so under two of its names; one
that leaves out a needed field is refused at its end. A list may stop early before fields that are
not needed.

## Implementation notes

A fault about the record as a whole is placed behind the closing bracket if that comes next, so
its place is settled here, by `afterObject` and `afterList`.
-/

namespace PulseBridge.Json

open Ascii

variable {σ : Type}

/-- A field of a record that is built up as a value of `σ`. -/
structure Field (σ : Type) where
  name : String
  /-- Other names of the field. -/
  aliases : List String
  /-- Whether a record without the field is refused. -/
  needed : Bool
  read : Reader (σ → σ)

/-- A field that is filled by setting it. -/
def Field.of {α : Type} (name : String) (aliases : List String) (needed : Bool) (r : Reader α)
    (set : α → σ → σ) : Field σ :=
  ⟨name, aliases, needed, r.map set⟩

/-- Whether a member of this name fills the field. -/
def Field.answersTo (f : Field σ) (key : String) : Bool := f.name == key || f.aliases.contains key

/-- How a type of records is read. -/
structure Record (σ : Type) where
  title : String
  /-- The record before any field is filled. -/
  blank : σ
  fields : List (Field σ)

/-- The octets after the end of an object, if it comes next. -/
def afterObject (s : Octets) : Octets :=
  match skipBlanks s with
  | closeBrace :: rest => rest
  | rest => rest

/-- The octets after the end of a list, if it comes next, or after a comma. -/
def afterList (s : Octets) : Octets :=
  match skipBlanks s with
  | closeBracket :: rest => rest
  | comma :: rest => skipBlanks rest
  | rest => rest

/-- Settle a pending place. -/
def Fault.settle (after : Octets → Octets) (fault : Fault) : Fault :=
  match fault.place with
  | .pending rest => ⟨fault.cause, .consumed (after rest)⟩
  | _ => fault

namespace Record

/-- The field that a key names. -/
def field? (r : Record σ) (key : String) : Option (Field σ) :=
  r.fields.find? (·.answersTo key)

/-- The first needed field that has not been seen. -/
def absent? (r : Record σ) (seen : List String) : Option (Field σ) :=
  r.fields.find? fun f => f.needed && !seen.contains f.name

/-- Read members up to the closing brace. `seen` holds the names of the fields filled so far. -/
def members (r : Record σ) (room : Nat) :
    (clock : Octets) → Bool → List String → σ → Octets → Except Fault (σ × Octets)
  | [], _, _, _, _ => .error ⟨.endInObject, .peeked []⟩
  | _ :: clock, first, seen, value, s =>
      match Reader.nextMember first s with
      | .error fault => .error fault
      | .ok none =>
          match r.absent? seen with
          | some f => .error ⟨.absentField f.name, .pending s⟩
          | none =>
              match Reader.endObject s with
              | .error fault => .error fault
              | .ok rest => .ok (value, rest)
      | .ok (some rest) =>
          match readText rest with
          | .error fault => .error fault
          | .ok (key, rest) =>
              match r.field? key with
              | none =>
                  match readColon rest >>= skipValue with
                  | .error fault => .error fault
                  | .ok rest => members r room clock false seen value rest
              | some f =>
                  if seen.contains f.name then .error ⟨.repeatedField f.name, .pending rest⟩
                  else
                    match readColon rest with
                    | .error fault => .error fault
                    | .ok rest =>
                        match f.read room rest with
                        | .error fault => .error fault
                        | .ok (fill, rest) =>
                            members r room clock false (f.name :: seen) (fill value) rest

/-- Read the values of a list, one for each field, as long as there are some. -/
def positions (r : Record σ) (room : Nat) :
    List (Field σ) → Nat → Bool → σ → Octets → Except Fault (σ × Octets)
  | [], _, _, value, s =>
      match Reader.endList s with
      | .error fault => .error fault
      | .ok rest => .ok (value, rest)
  | f :: fields, length, first, value, s =>
      match Reader.nextElement first s with
      | .error fault => .error fault
      | .ok none =>
          match (f :: fields).findIdx? (·.needed) with
          | some further =>
              .error ⟨.wrongLength (length + further) (.recordOf r.title r.fields.length),
                .pending s⟩
          | none =>
              match Reader.endList s with
              | .error fault => .error fault
              | .ok rest => .ok (value, rest)
      | .ok (some rest) =>
          match f.read room rest with
          | .error fault => .error fault
          | .ok (fill, rest) => positions r room fields (length + 1) false (fill value) rest

/-- Read a record from an object or from a list. -/
def reader (r : Record σ) : Reader σ := fun room s =>
  match skipBlanks s with
  | [] => .error ⟨.endInValue, .peeked []⟩
  | openBracket :: rest =>
      match room with
      | 0 => .error ⟨.nestedTooDeep, .peeked (openBracket :: rest)⟩
      | room + 1 =>
          (r.positions room r.fields 0 true r.blank rest).mapError (·.settle afterList)
  | openBrace :: rest =>
      match room with
      | 0 => .error ⟨.nestedTooDeep, .peeked (openBrace :: rest)⟩
      | room + 1 =>
          (r.members room (openBrace :: rest) true [] r.blank rest).mapError (·.settle afterObject)
  | b :: rest => .error (Reader.refuse (.record r.title) b rest)

end Record

end PulseBridge.Json
