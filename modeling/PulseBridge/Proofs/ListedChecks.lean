import PulseBridge.CheckKeeper
import PulseBridge.Check
import PulseBridge.Proofs.ByteOrder
import PulseBridge.Proofs.Json.Records

/-!
# Checks as they are listed

The list of checks that a body holds says of each check what it is, and may leave out its routing
key and its tags. A `ListedCheck` keeps what is left out apart from what is given as empty. Reading
checks is reading listed checks and taking what is left out for empty, and the tags for a set.
-/

namespace PulseBridge

namespace Tags

theorem mem_insert {tag t : String} {tags : Tags} :
    t ∈ (tags.insert tag).toList ↔ t = tag ∨ t ∈ tags.toList :=
  mem_insertInto

/-- The set of the texts of a list has the members of the list. -/
theorem mem_ofList {t : String} (ts : List String) : t ∈ (ofList ts).toList ↔ t ∈ ts := by
  have fold : ∀ (ts : List String) (tags : Tags),
      t ∈ (ts.foldl (fun tags t => tags.insert t) tags).toList ↔ t ∈ tags.toList ∨ t ∈ ts := by
    intro ts
    induction ts with
    | nil => simp
    | cons tag ts ih =>
        intro tags
        rw [List.foldl_cons, ih, mem_insert, List.mem_cons]
        tauto
  rw [ofList, fold]
  simp [empty]

/-- The texts of a set stand in the order of their bytes, each of them once. -/
theorem byteIncreasing (tags : Tags) :
    tags.toList.Pairwise fun s t => Octets.ofText s < Octets.ofText t :=
  tags.increasing.imp Octets.ofText_lt

end Tags

/-- A check as it is listed. -/
structure ListedCheck where
  target : String
  credential : String
  /-- The routing key, if it is given. -/
  routingKey : Option String
  /-- The tags, if they are given; they may be given as nothing. -/
  tags : Option (Option (List String))
  deriving DecidableEq

namespace ListedCheck

/-- How a listed check is read. -/
def record : Json.Record ListedCheck where
  title := "WorkItem"
  blank := ⟨"", "", none, none⟩
  fields :=
    [ .of "target_id" ["nr_app_id"] true Check.readTarget fun v c => { c with target := v },
      .of "target_credential" ["nr_api_key"] true .text fun v c => { c with credential := v },
      .of "routing_key" ["api_key"] false .text fun v c => { c with routingKey := some v },
      .of "tags" [] false (.nullable (.list .text)) fun v c => { c with tags := some v } ]

/-- The checks that a body lists, as it lists them. -/
def decodeList (body : Octets) : Except Json.Error (List ListedCheck) :=
  Json.decode (.list record.reader) body

/-- The tags that are given, none if they are left out. -/
def givenTags (c : ListedCheck) : List String := (c.tags.getD none).getD []

/-- The check that is listed. -/
def check (c : ListedCheck) : Check :=
  ⟨c.target, c.credential, c.routingKey.getD "", .ofList c.givenTags⟩

/-- Whether the check can be polled: neither target nor credential is blank. -/
def isValid (c : ListedCheck) : Bool :=
  !Text.isBlankText c.target && !Text.isBlankText c.credential

theorem alike : Json.Record.Alike check record Check.record where
  title := rfl
  blank := rfl
  fields := by
    refine .cons ?_ (.cons ?_ (.cons ?_ (.cons ?_ .nil))) <;>
      exact Json.Field.alike_of _ _ _ _ fun _ _ => rfl

/-- Reading checks is reading listed checks. -/
theorem decodeList_eq (body : Octets) :
    Check.decodeList body = (decodeList body).map (List.map check) :=
  Json.decode_image (Json.list_image alike.reader) body

theorem exists_listed {body : Octets} {checks : List Check}
    (h : Check.decodeList body = .ok checks) :
    ∃ listed, decodeList body = .ok listed ∧ checks = listed.map check := by
  rw [decodeList_eq] at h
  cases hlisted : decodeList body with
  | error e => simp [hlisted, Except.map] at h
  | ok listed =>
      simp only [hlisted, Except.map, Except.ok.injEq] at h
      exact ⟨listed, rfl, h.symm⟩

/-- The listed checks that can be polled are kept. -/
theorem keepValid_map (listed : List ListedCheck) :
    keepValid (listed.map check) = (listed.filter (·.isValid)).map check := by
  rw [keepValid, List.filter_map]
  rfl

end ListedCheck

end PulseBridge
