import Mathlib.Data.List.Induction
import PulseBridge.Check
import PulseBridge.Proofs.Json.Fields

/-!
# Checks come back as they were written

A list of checks is written as a list of objects with the current names. The name of a target is
written as a text and read as that text, also where it looks like a number, and the tags are put
back into the order in which they were written. So whatever the checks hold, reading what was
written of them gives the same checks again.

## Main statements

* `Tags.ofList_toList`: a set of tags is the set of its members.
* `Check.decodeList_encodeList`: what is written of some checks is read back.
-/

namespace PulseBridge

open Json (Reads)

namespace Tags

/-- A text that comes after all others is put at the end. -/
theorem insertInto_last {tag : String} {ts : List String} (h : ∀ t ∈ ts, t < tag) :
    insertInto tag ts = ts ++ [tag] := by
  induction ts with
  | nil => rfl
  | cons t ts ih =>
      obtain ⟨first, further⟩ := List.forall_mem_cons.mp h
      have notLess : ¬tag < t := String.lt_asymm first
      have different : tag ≠ t := by
        rintro rfl
        exact String.lt_irrefl tag first
      rw [insertInto, if_neg notLess, if_neg different, ih further, List.cons_append]

/-- Texts in increasing order stay as they are when they are put into a set one after the other. -/
theorem toList_ofList {ts : List String} (h : ts.Pairwise (· < ·)) : (ofList ts).toList = ts := by
  induction ts using List.reverseRecOn with
  | nil => rfl
  | append_singleton ts tag ih =>
      obtain ⟨increasing, -, below⟩ := List.pairwise_append.mp h
      have last : ∀ t ∈ ts, t < tag := fun t ht => below t ht tag List.mem_cons_self
      have inserted : ofList (ts ++ [tag]) = (ofList ts).insert tag := List.foldl_append
      calc (ofList (ts ++ [tag])).toList
          = insertInto tag (ofList ts).toList := by rw [inserted, insert]
        _ = insertInto tag ts := by rw [ih increasing]
        _ = ts ++ [tag] := insertInto_last last

/-- A set of tags is the set of its members. -/
theorem ofList_toList (tags : Tags) : ofList tags.toList = tags := by
  obtain ⟨ts, increasing⟩ := tags
  have same := toList_ofList increasing
  cases hset : ofList ts with
  | mk ts' increasing' =>
      rw [hset] at same
      cases same
      rfl

end Tags

namespace Check

/-- The members that are written of a check. -/
def members (check : Check) : List (String × Octets) :=
  [ ("target_id", Json.writeText check.target),
    ("target_credential", Json.writeText check.credential),
    ("routing_key", Json.writeText check.routingKey),
    ("tags", Json.writeList (check.tags.toList.map Json.writeText)) ]

theorem encode_eq (check : Check) : check.encode = Json.writeMembers check.members := rfl

/-- How the members of a check build it up. -/
def fills (check : Check) : List (Check → Check) :=
  [ fun c => { c with target := check.target }, fun c => { c with credential := check.credential },
    fun c => { c with routingKey := check.routingKey }, fun c => { c with tags := check.tags } ]

theorem filled_fills (check : Check) : Json.Record.filled check.fills blank = check := rfl

/-- A target that is named by a text is read as that text, whatever it looks like. -/
theorem reads_target (room : Nat) (s : String) : Reads readTarget room (Json.writeText s) s := by
  intro rest _
  rw [readTarget, Json.readValue_writeText]
  rfl

/-- A list does not begin like `null`. -/
theorem reads_tags (room : Nat) (tags : Tags) :
    Reads (Json.Reader.nullable (Json.Reader.list Json.Reader.text)) (room + 1)
      (Json.writeList (tags.toList.map Json.writeText)) (some tags.toList) :=
  Json.reads_nullable (Json.reads_texts room tags.toList) rfl (by decide)

/-- Every member that is written of a check fills the field of its name. -/
theorem fills_members (check : Check) (room : Nat) :
    List.Forall₂ (record.Fills (room + 1)) check.members check.fills := by
  have tags : (fun c : Check => { c with tags := .ofList ((some check.tags.toList).getD []) }) =
      fun c => { c with tags := check.tags } := by
    rw [Option.getD_some, Tags.ofList_toList]
  refine .cons ?target (.cons ?credential (.cons ?routingKey (.cons ?tags .nil)))
  case target => exact Json.Record.fills_of rfl (reads_target _ check.target) rfl
  case credential => exact Json.Record.fills_of rfl (Json.reads_text _ check.credential) rfl
  case routingKey => exact Json.Record.fills_of rfl (Json.reads_text _ check.routingKey) rfl
  case tags => exact Json.Record.fills_of rfl (reads_tags room check.tags) tags

theorem nodup_members (check : Check) : (check.members.map Prod.fst).Nodup := by
  change ["target_id", "target_credential", "routing_key", "tags"].Nodup
  decide

/-- What is written of a check is read back. -/
theorem reads_encode (room : Nat) (check : Check) :
    Reads record.reader (room + 2) check.encode check := by
  have reads := Json.Record.reads_written (fills_members check room) (nodup_members check) rfl
  rwa [show record.blank = blank from rfl, filled_fills, ← encode_eq] at reads

/-- What is written of a check begins like an element of a list. -/
theorem beginsElement_encode (check : Check) : Json.BeginsElement check.encode :=
  ⟨Ascii.openBrace, _, rfl, rfl, by decide⟩

/-- Reading the list that was written of some checks gives the same checks in the same order, each
with its target as the same text and with the same set of tags. -/
theorem decodeList_encodeList (checks : List Check) :
    decodeList (encodeList checks) = .ok checks := by
  apply Json.decode_of_reads
  apply Json.reads_list
  rw [List.forall₂_map_left_iff, List.forall₂_same]
  intro check _
  exact ⟨beginsElement_encode check, reads_encode 124 check⟩

end Check

end PulseBridge
