import PulseBridge.Json.Value
import PulseBridge.Tags
import PulseBridge.Text.Blank

/-!
# Checks

A check names a target of the metrics provider, the credential to ask with, and the key and tags
under which its heartbeats are sent on. Checks are read from members with current or with former
names. One whose target or credential is blank cannot be polled.
-/

namespace PulseBridge

/-- A target to be polled. -/
structure Check where
  target : String
  credential : String
  routingKey : String
  tags : Tags
  deriving DecidableEq, Repr

namespace Check

/-- A check of which nothing is known. -/
def blank : Check := ⟨"", "", "", .empty⟩

/-- The text of a value that names a target: a text itself, or an integer in decimal. -/
def targetText? : Json.Value → Option String
  | .text s => some s
  | .number (.integer n) => some (toString n)
  | _ => none

/-- Read the name of a target. The value is built as a whole before its shape is judged. -/
def readTarget : Json.Reader String := fun room s =>
  match Json.readValue room s with
  | .error fault => .error fault
  | .ok (v, rest) =>
      match targetText? v with
      | some target => .ok (target, rest)
      | none => .error ⟨.noVariant "Id", .pending rest⟩

/-- How a check is read. -/
def record : Json.Record Check where
  title := "WorkItem"
  blank := blank
  fields :=
    [ .of "target_id" ["nr_app_id"] true readTarget fun v c => { c with target := v },
      .of "target_credential" ["nr_api_key"] true .text fun v c => { c with credential := v },
      .of "routing_key" ["api_key"] false .text fun v c => { c with routingKey := v },
      .of "tags" [] false (.nullable (.list .text)) fun v c =>
        { c with tags := .ofList (v.getD []) } ]

/-- The checks that a body lists. -/
def decodeList (body : Octets) : Except Json.Error (List Check) :=
  Json.decode (.list record.reader) body

/-- The check in JSON, under the current names. -/
def encode (check : Check) : Octets :=
  Json.writeMembers
    [ ("target_id", Json.writeText check.target),
      ("target_credential", Json.writeText check.credential),
      ("routing_key", Json.writeText check.routingKey),
      ("tags", Json.writeList (check.tags.toList.map Json.writeText)) ]

/-- Some checks in JSON. -/
def encodeList (checks : List Check) : Octets := Json.writeList (checks.map encode)

/-- Whether the check can be polled: neither target nor credential is blank. -/
def isValid (check : Check) : Bool :=
  !Text.isBlankText check.target && !Text.isBlankText check.credential

/-- The check's name in messages. -/
def title (check : Check) : String := "target " ++ check.target

/-- All that is known of the check, in one line. -/
def detail (check : Check) : String :=
  "WorkItem \x7b target_id: " ++ Text.quoted check.target
    ++ ", target_credential: " ++ Text.quoted check.credential
    ++ ", routing_key: " ++ Text.quoted check.routingKey
    ++ ", tags: \x7b" ++ ", ".intercalate (check.tags.toList.map Text.quoted) ++ "\x7d \x7d"

end Check

end PulseBridge
