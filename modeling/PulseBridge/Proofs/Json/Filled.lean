import Mathlib.Data.List.Nodup
import PulseBridge.Proofs.Json.Exact
import PulseBridge.Proofs.Json.Rearranged

/-!
# Records whose fields may all be left out

Where no field is needed and none has another name, a record is read field by field: each field is
filled with the value of its own member if there is one and otherwise stays as it was at the
beginning. It does not matter where in the object the member stands, what the other members are, or
whether the values come from an object at all: the values of a list are those of the fields in their
order.

## Main definitions

* `Record.IsOptional`: a record all of whose fields may be left out.
* `Tree.HasMembers`: the members of an object, or of a list in the place of an object.
* `Record.FilledFrom`: a record that is filled from members, field by field.

## Main statements

* `Record.makes_reader_iff`, `Record.decode_eq_ok_iff`: what is read as a record, and as which.
* `Record.filledFrom_of_iff`: what a field is filled with, by the meaning of its values.
-/

namespace PulseBridge.Json

variable {α σ : Type}

/-- Whether these are the members of a tree, for a record with fields of some names: those of an
object under the names that its keys mean, with no field given twice, or the values of a list under
the names of the fields in their order. -/
inductive Tree.HasMembers (names : List String) : Tree → List (String × Tree) → Prop
  | object {ms : List (Quotable × Tree)} {members : List (String × Tree)}
      (named : List.Forall₂ (fun m member => m.1.Means member.1 ∧ m.2 = member.2) ms members)
      (once : ∀ name ∈ names, (members.map Prod.fst).count name ≤ 1) :
      HasMembers names (.object ms) members
  | list {ts : List Tree} (few : ts.length ≤ names.length) :
      HasMembers names (.list ts) (names.zip ts)

namespace Record

variable {r : Record σ} {room : Nat}

/-- Whether all fields of a record may be left out, and each goes by one name of its own. -/
structure IsOptional (r : Record σ) : Prop where
  optional : ∀ f ∈ r.fields, f.needed = false
  unaliased : ∀ f ∈ r.fields, f.aliases = []
  distinct : (r.fields.map Field.name).Nodup

namespace IsOptional

theorem field?_eq_some_iff (h : r.IsOptional) {name : String} {f : Field σ} :
    r.field? name = some f ↔ f ∈ r.fields ∧ f.name = name := by
  have answers {g : Field σ} (mem : g ∈ r.fields) : g.answersTo name = true ↔ g.name = name := by
    simp [Field.answersTo, h.unaliased g mem]
  constructor
  · intro found
    have mem := List.mem_of_find?_eq_some found
    have answered := List.find?_some found
    exact ⟨mem, (answers mem).mp answered⟩
  · rintro ⟨mem, named⟩
    cases found : r.field? name with
    | none => exact absurd ((answers mem).mpr named) (List.find?_eq_none.mp found f mem)
    | some g =>
        have mem' := List.mem_of_find?_eq_some found
        have answered := List.find?_some found
        have same := ((answers mem').mp answered).trans named.symm
        exact congrArg some (List.inj_on_of_nodup_map h.distinct mem' mem same)

/-- No field goes by a name that nobody knows. -/
theorem ne_of_unknown (h : r.IsOptional) {name : String} (unknown : r.field? name = none) :
    ∀ f ∈ r.fields, f.name ≠ name := by
  rintro f mem rfl
  rw [h.field?_eq_some_iff.mpr ⟨mem, rfl⟩] at unknown
  cases unknown

theorem absent?_eq_none (h : r.IsOptional) (seen : List String) : r.absent? seen = none := by
  apply List.find?_eq_none.mpr
  intro f mem
  simp [h.optional f mem]

end IsOptional

/-- Whether a record is filled from members field by field. A field without a member stays as it
was. -/
def FilledFrom (room : Nat) (members : List (String × Tree)) : List (Field σ) → σ → σ → Prop
  | [], value, x => x = value
  | f :: fields, value, x =>
      match members.lookup f.name with
      | none => FilledFrom room members fields value x
      | some t =>
          ∃ fill, Makes f.read room t (some fill) ∧ FilledFrom room members fields (fill value) x

variable {members members' : List (String × Tree)} {fields : List (Field σ)} {f : Field σ}
  {t : Tree} {fill : σ → σ} {value x : σ} {name : String}

theorem filledFrom_cons_none (h : members.lookup f.name = none) :
    FilledFrom room members (f :: fields) value x ↔ FilledFrom room members fields value x := by
  rw [FilledFrom, h]

theorem filledFrom_cons_some (h : members.lookup f.name = some t) :
    FilledFrom room members (f :: fields) value x ↔
      ∃ fill, Makes f.read room t (some fill) ∧ FilledFrom room members fields (fill value) x := by
  rw [FilledFrom, h]

/-- Only the members of the fields count. -/
theorem filledFrom_congr (same : ∀ f ∈ fields, members.lookup f.name = members'.lookup f.name) :
    FilledFrom room members fields value x ↔ FilledFrom room members' fields value x := by
  induction fields generalizing value with
  | nil => rfl
  | cons f fields ih =>
      obtain ⟨first, further⟩ := List.forall_mem_cons.mp same
      rw [FilledFrom, FilledFrom, first]
      cases members'.lookup f.name with
      | none => exact ih further
      | some t => exact exists_congr fun fill => and_congr_right fun _ => ih further

theorem filledFrom_nil : FilledFrom room [] fields value x ↔ x = value := by
  induction fields with
  | nil => rfl
  | cons f fields ih => exact ih

/-- A field with a member has been filled with something. -/
theorem exists_makes_of_filledFrom (h : FilledFrom room members fields value x) (mem : f ∈ fields)
    (found : members.lookup f.name = some t) : ∃ fill, Makes f.read room t (some fill) := by
  induction fields generalizing value with
  | nil => cases mem
  | cons g fields ih =>
      rcases List.mem_cons.mp mem with rfl | mem
      · obtain ⟨fill, makes, -⟩ := (filledFrom_cons_some found).mp h
        exact ⟨fill, makes⟩
      · rw [FilledFrom] at h
        split at h
        · exact ih h mem
        · obtain ⟨fill, -, further⟩ := h
          exact ih further mem

theorem lookup_cons_of_ne {key : String} (h : key ≠ name) :
    List.lookup key ((name, t) :: members) = members.lookup key := by
  rw [List.lookup_cons, beq_eq_false_iff_ne.mpr h]

/-- A member that belongs to none of the fields does not count. -/
theorem filledFrom_cons_other (other : ∀ f ∈ fields, f.name ≠ name) :
    FilledFrom room ((name, t) :: members) fields value x ↔
      FilledFrom room members fields value x :=
  filledFrom_congr fun f mem => lookup_cons_of_ne (other f mem)

theorem ne_of_not_mem_map (apart : name ∉ fields.map Field.name) : ∀ f ∈ fields, f.name ≠ name :=
  fun _ mem same => apart (same ▸ List.mem_map_of_mem mem)

/-- One more member may be put to use at its turn or at once: no other field is touched by it. -/
theorem filledFrom_cons_member (commute : fields.Pairwise Field.Commutes)
    (distinct : (fields.map Field.name).Nodup) (mem : f ∈ fields)
    (makes : Makes f.read room t (some fill)) (fresh : members.lookup f.name = none) :
    FilledFrom room ((f.name, t) :: members) fields value x ↔
      FilledFrom room members fields (fill value) x := by
  induction fields generalizing value with
  | nil => cases mem
  | cons g fields ih =>
      obtain ⟨commutes, commute⟩ := List.pairwise_cons.mp commute
      obtain ⟨apart, distinct⟩ := List.nodup_cons.mp distinct
      rcases List.mem_cons.mp mem with rfl | mem
      · have own : List.lookup f.name ((f.name, t) :: members) = some t := List.lookup_cons_self
        have others := ne_of_not_mem_map apart
        rw [filledFrom_cons_some own, filledFrom_cons_none fresh]
        constructor
        · rintro ⟨fill', makes', further⟩
          cases makes.unique makes'
          exact (filledFrom_cons_other others).mp further
        · exact fun further => ⟨fill, makes, (filledFrom_cons_other others).mpr further⟩
      · have other : g.name ≠ f.name := fun same => apart (same ▸ List.mem_map_of_mem mem)
        have found : List.lookup g.name ((f.name, t) :: members) = members.lookup g.name :=
          lookup_cons_of_ne other
        cases hg : members.lookup g.name with
        | none =>
            rw [filledFrom_cons_none (found.trans hg), filledFrom_cons_none hg]
            exact ih commute distinct mem
        | some t' =>
            rw [filledFrom_cons_some (found.trans hg), filledFrom_cons_some hg]
            apply exists_congr
            intro fill'
            apply and_congr_right
            intro makes'
            have swap : fill' (fill value) = fill (fill' value) :=
              commutes f mem fill' fill (Field.fills_of_makes makes') (Field.fills_of_makes makes)
                value
            rw [swap]
            exact ih commute distinct mem

/-! ## Objects -/

variable {ms : List (Quotable × Tree)} {effects : List (Effect σ)} {seen : List String}

/-- Whether these are the members of an object under the names that its keys mean, with no field
given twice nor one given that has been seen. -/
structure NamesMembers (r : Record σ) (seen : List String) (ms : List (Quotable × Tree))
    (members : List (String × Tree)) : Prop where
  named : List.Forall₂ (fun m member => m.1.Means member.1 ∧ m.2 = member.2) ms members
  once : ∀ f ∈ r.fields, (members.map Prod.fst).count f.name ≤ 1
  fresh : ∀ name ∈ seen, name ∉ members.map Prod.fst

theorem lookup_eq_none_of_not_mem (h : name ∉ members.map Prod.fst) :
    members.lookup name = none := by
  rw [List.lookup_eq_none_iff]
  intro member mem
  rw [bne_iff_ne]
  rintro rfl
  exact h (List.mem_map_of_mem mem)

/-- A member that nobody knows is of no account. -/
theorem namesMembers_unknown {key : Quotable} (means : key.Means name)
    (unknown : r.field? name = none) (h : r.IsOptional)
    (known : ∀ name ∈ seen, ∃ f ∈ r.fields, f.name = name) :
    r.NamesMembers seen ((key, t) :: ms) members ↔
      ∃ more, members = (name, t) :: more ∧ r.NamesMembers seen ms more := by
  have other := h.ne_of_unknown unknown
  have counted (f : Field σ) (mem : f ∈ r.fields) (more : List (String × Tree)) :
      (((name, t) :: more).map Prod.fst).count f.name = (more.map Prod.fst).count f.name := by
    rw [List.map_cons, List.count_cons_of_ne (other f mem).symm]
  have unseen : name ∉ seen := fun mem =>
    have ⟨f, hf, same⟩ := known name mem
    other f hf same
  constructor
  · rintro ⟨named, once, fresh⟩
    cases named with
    | @cons _ member _ more first further =>
        obtain ⟨name', t'⟩ := member
        obtain ⟨means', rfl⟩ := first
        obtain rfl := means.unique means'
        refine ⟨more, rfl, further, fun f mem => ?_, fun name' mem absent => ?_⟩
        · rw [← counted f mem]
          exact once f mem
        · exact fresh name' mem (List.mem_cons_of_mem _ absent)
  · rintro ⟨more, rfl, named, once, fresh⟩
    refine ⟨.cons ⟨means, rfl⟩ named, fun f mem => ?_, fun name' mem => ?_⟩
    · rw [counted f mem]
      exact once f mem
    · rw [List.map_cons, List.mem_cons, not_or]
      refine ⟨?_, fresh name' mem⟩
      rintro rfl
      exact unseen mem

/-- A member of a field must be the only one. -/
theorem namesMembers_known {key : Quotable} (means : key.Means name)
    (known : r.field? name = some f) (h : r.IsOptional) :
    r.NamesMembers seen ((key, t) :: ms) members ↔
      ∃ more, members = (f.name, t) :: more ∧ f.name ∉ seen ∧
        r.NamesMembers (f.name :: seen) ms more := by
  obtain ⟨mem, rfl⟩ := h.field?_eq_some_iff.mp known
  have counted (g : Field σ) (more : List (String × Tree)) :
      (((f.name, t) :: more).map Prod.fst).count g.name =
        (more.map Prod.fst).count g.name + if f.name == g.name then 1 else 0 := by
    rw [List.map_cons, List.count_cons]
  constructor
  · rintro ⟨named, once, fresh⟩
    cases named with
    | @cons _ member _ more first further =>
        obtain ⟨name', t'⟩ := member
        obtain ⟨means', rfl⟩ := first
        obtain rfl := means.unique means'
        have alone : f.name ∉ more.map Prod.fst := by
          have count := once f mem
          rw [counted, if_pos (beq_self_eq_true _)] at count
          exact List.count_eq_zero.mp (by omega)
        refine ⟨more, rfl, fun again => fresh f.name again List.mem_cons_self, further, ?_, ?_⟩
        · intro g hg
          have count := once g hg
          rw [counted] at count
          omega
        · intro name' again
          rcases List.mem_cons.mp again with rfl | again
          · exact alone
          · exact fun absent => fresh name' again (List.mem_cons_of_mem _ absent)
  · rintro ⟨more, rfl, unseen, named, once, fresh⟩
    refine ⟨.cons ⟨means, rfl⟩ named, fun g hg => ?_, fun name' again => ?_⟩
    · rw [counted]
      split_ifs with same
      · have none := List.count_eq_zero.mpr (fresh f.name List.mem_cons_self)
        rw [beq_iff_eq.mp same] at none
        omega
      · exact once g hg
    · rw [List.map_cons, List.mem_cons, not_or]
      refine ⟨?_, fresh name' (List.mem_cons_of_mem _ again)⟩
      rintro rfl
      exact unseen again

/-- Whether a record is filled from the members of an object, after some of its fields. -/
def FilledFromObject (r : Record σ) (room : Nat) (seen : List String) (ms : List (Quotable × Tree))
    (value x : σ) : Prop :=
  ∃ members, r.NamesMembers seen ms members ∧ FilledFrom room members r.fields value x

section Members

variable {key : Quotable}

/-- The keys of an object that fills a record have meanings. -/
theorem FilledFromObject.exists_means (h : r.FilledFromObject room seen ((key, t) :: ms) value x) :
    ∃ name, key.Means name := by
  obtain ⟨members, ⟨named, -, -⟩, -⟩ := h
  cases named with
  | @cons _ member _ _ first _ => exact ⟨member.1, first.1⟩

theorem filledFromObject_nil : r.FilledFromObject room seen [] value x ↔ x = value := by
  constructor
  · rintro ⟨members, ⟨named, -, -⟩, filled⟩
    cases named
    exact filledFrom_nil.mp filled
  · rintro rfl
    exact ⟨[], ⟨.nil, by simp, by simp⟩, filledFrom_nil.mpr rfl⟩

/-- A member that nobody knows fills nothing. -/
theorem filledFromObject_unknown (means : key.Means name) (unknown : r.field? name = none)
    (h : r.IsOptional) (known : ∀ name ∈ seen, ∃ f ∈ r.fields, f.name = name) :
    r.FilledFromObject room seen ((key, t) :: ms) value x ↔
      r.FilledFromObject room seen ms value x := by
  have other := h.ne_of_unknown unknown
  constructor
  · rintro ⟨members, names, filled⟩
    obtain ⟨more, rfl, further⟩ := (namesMembers_unknown means unknown h known).mp names
    exact ⟨more, further, (filledFrom_cons_other other).mp filled⟩
  · rintro ⟨more, names, filled⟩
    exact ⟨_, (namesMembers_unknown means unknown h known).mpr ⟨more, rfl, names⟩,
      (filledFrom_cons_other other).mpr filled⟩

/-- The member of a field has a value for it. -/
theorem FilledFromObject.exists_makes (h : r.IsOptional) (means : key.Means name)
    (field : r.field? name = some f)
    (filled : r.FilledFromObject room seen ((key, t) :: ms) value x) :
    ∃ fill, Makes f.read room t (some fill) := by
  obtain ⟨members, names, filled⟩ := filled
  obtain ⟨more, rfl, -, -⟩ := (namesMembers_known means field h).mp names
  exact exists_makes_of_filledFrom filled (List.mem_of_find?_eq_some field) List.lookup_cons_self

/-- The member of a field fills it at once, if it has not been filled before. -/
theorem filledFromObject_known (h : r.IsOptional) (independent : r.Independent)
    (means : key.Means name) (field : r.field? name = some f)
    (makes : Makes f.read room t (some fill)) :
    r.FilledFromObject room seen ((key, t) :: ms) value x ↔
      f.name ∉ seen ∧ r.FilledFromObject room (f.name :: seen) ms (fill value) x := by
  have first (more : List (String × Tree)) (names : r.NamesMembers (f.name :: seen) ms more) :
      FilledFrom room ((f.name, t) :: more) r.fields value x ↔
        FilledFrom room more r.fields (fill value) x :=
    filledFrom_cons_member independent h.distinct (List.mem_of_find?_eq_some field) makes
      (lookup_eq_none_of_not_mem (names.fresh f.name List.mem_cons_self))
  constructor
  · rintro ⟨members, names, filled⟩
    obtain ⟨more, rfl, unseen, further⟩ := (namesMembers_known means field h).mp names
    exact ⟨unseen, more, further, (first more further).mp filled⟩
  · rintro ⟨unseen, more, further, filled⟩
    exact ⟨_, (namesMembers_known means field h).mpr ⟨more, rfl, unseen, further⟩,
      (first more further).mpr filled⟩

end Members

/-- What is gathered from the members of an object is what its fields are filled with, one after the
other. The induction is on the members: each of them may be put to use at once. -/
theorem gather_eq_some_iff (h : r.IsOptional) (independent : r.Independent)
    (has : List.Forall₂ (r.HasEffect room) ms effects)
    (known : ∀ name ∈ seen, ∃ f ∈ r.fields, f.name = name) :
    r.gather effects seen value = some x ↔ r.FilledFromObject room seen ms value x := by
  induction has generalizing seen value with
  | nil =>
      rw [gather, h.absent?_eq_none, filledFromObject_nil]
      simp only [Option.isNone_none, if_true, Option.some.injEq]
      exact eq_comm
  | @cons m effect ms effects one _ ih =>
      cases one with
      | @unreadable key t fails =>
          apply iff_of_false
          · intro refused
            cases refused
          · intro filled
            obtain ⟨name, means⟩ := filled.exists_means
            have read := fails []
            rw [means.readText] at read
            cases read
      | @passed key t name means unknown =>
          rw [gather, Effect.andThen, ih known, filledFromObject_unknown means unknown h known]
      | @refused key t name f means field makes =>
          apply iff_of_false
          · intro refused
            cases refused
          · intro filled
            obtain ⟨fill, makes'⟩ := filled.exists_makes h means field
            cases makes.unique makes'
      | @fills key t name f fill means field makes =>
          have known' : ∀ name ∈ f.name :: seen, ∃ f ∈ r.fields, f.name = name :=
            List.forall_mem_cons.mpr ⟨⟨f, List.mem_of_find?_eq_some field, rfl⟩, known⟩
          rw [gather, Effect.andThen, filledFromObject_known h independent means field makes]
          split_ifs with again
          · apply iff_of_false
            · intro refused
              cases refused
            · exact fun filled => filled.1 (List.contains_iff_mem.mp again)
          · rw [ih known', and_iff_right (by simpa using again)]

/-! ## Lists -/

variable {ts : List Tree}

/-- An empty list leaves a record as it was. -/
theorem places_nil_iff (optional : ∀ f ∈ fields, f.needed = false) :
    Places room fields [] value (some x) ↔ x = value := by
  have none : fields.findIdx? (·.needed) = none := List.findIdx?_eq_none_iff.mpr optional
  have ended : Places room fields [] value (some value) := by
    have places : Places room fields [] value _ := .ended fields value
    rwa [none] at places
  constructor
  · intro h
    generalize houtcome : some x = outcome at h
    cases h
    rw [none] at houtcome
    exact Option.some.inj houtcome
  · rintro rfl
    exact ended

/-- What the values of a list make of a record is what its fields are filled with in their order. -/
theorem places_iff (optional : ∀ f ∈ fields, f.needed = false)
    (distinct : (fields.map Field.name).Nodup) :
    Places room fields ts value (some x) ↔
      ts.length ≤ fields.length ∧
        FilledFrom room ((fields.map Field.name).zip ts) fields value x := by
  induction fields generalizing ts value with
  | nil =>
      cases ts with
      | nil =>
          rw [places_nil_iff optional, List.zip_nil_right, filledFrom_nil]
          exact (and_iff_right (Nat.zero_le _)).symm
      | cons t ts => exact ⟨nofun, fun h => absurd h.1 (by simp)⟩
  | cons f fields ih =>
      obtain ⟨-, optional'⟩ := List.forall_mem_cons.mp optional
      obtain ⟨apart, distinct⟩ := List.nodup_cons.mp distinct
      cases ts with
      | nil =>
          rw [places_nil_iff optional, List.zip_nil_right, filledFrom_nil]
          exact (and_iff_right (Nat.zero_le _)).symm
      | cons t ts =>
          have own : List.lookup f.name
              ((f.name, t) :: (fields.map Field.name).zip ts) = some t := List.lookup_cons_self
          have others := ne_of_not_mem_map apart
          rw [List.map_cons, List.zip_cons_cons, filledFrom_cons_some own]
          constructor
          · intro h
            cases h with
            | @fills _ _ _ _ fill _ _ makes further =>
                obtain ⟨few, filled⟩ := (ih optional' distinct).mp further
                exact ⟨Nat.succ_le_succ few, fill, makes, (filledFrom_cons_other others).mpr filled⟩
          · rintro ⟨few, fill, makes, filled⟩
            exact .fills makes ((ih optional' distinct).mpr
              ⟨Nat.le_of_succ_le_succ few, (filledFrom_cons_other others).mp filled⟩)

/-! ## Documents -/

/-- What is read as a record all of whose fields may be left out, and as which. -/
theorem makes_reader_iff (h : r.IsOptional) (independent : r.Independent)
    (uniform : ∀ f ∈ r.fields, Uniform f.read) :
    Makes r.reader (room + 1) t (some x) ↔
      ∃ members, t.HasMembers (r.fields.map Field.name) members ∧
        FilledFrom room members r.fields r.blank x := by
  cases t with
  | object ms =>
      obtain ⟨effects, has⟩ := exists_effects uniform room ms
      have gathered : r.gather effects [] r.blank = some x ↔ _ :=
        gather_eq_some_iff h independent has (List.forall_mem_nil _)
      have outcome : Makes r.reader (room + 1) (.object ms) (some x) ↔
          r.gather effects [] r.blank = some x :=
        ⟨fun makes => (makes_object has).unique makes, fun same => same ▸ makes_object has⟩
      rw [outcome, gathered]
      apply exists_congr
      intro members
      apply and_congr_left
      intro _
      constructor
      · rintro ⟨named, once, -⟩
        exact .object named fun name mem => by
          obtain ⟨f, hf, rfl⟩ := List.mem_map.mp mem
          exact once f hf
      · rintro ⟨named, once⟩
        exact ⟨named, fun f hf => once f.name (List.mem_map_of_mem hf),
          List.forall_mem_nil _⟩
  | list ts =>
      obtain ⟨result, places⟩ := exists_places uniform room ts r.blank
      have outcome : Makes r.reader (room + 1) (.list ts) (some x) ↔
          Places room r.fields ts r.blank (some x) :=
        ⟨fun makes => (makes_places places).unique makes ▸ places, makes_places⟩
      rw [outcome, places_iff h.optional h.distinct]
      constructor
      · rintro ⟨few, filled⟩
        exact ⟨_, .list (by rwa [List.length_map]), filled⟩
      · rintro ⟨members, has, filled⟩
        cases has with
        | list few => exact ⟨by rwa [List.length_map] at few, filled⟩
  | _ =>
      constructor
      · intro makes
        cases makes.unique (makes_none_of_ne_bracket (by simp [Tree.beginning])
          (by simp [Tree.beginning]) (room + 1))
      · rintro ⟨_, ⟨⟩, -⟩

/-- What is decoded as such a record, and as which. -/
theorem decode_eq_ok_iff (h : r.IsOptional) (independent : r.Independent)
    (uniform : ∀ f ∈ r.fields, Uniform f.read) (sound : ∀ f ∈ r.fields, Sound f.read)
    {document : Octets} :
    decode r.reader document = .ok x ↔
      ∃ (t : Tree) (members : List (String × Tree)), Padded t.Spells document ∧
        t.HasMembers (r.fields.map Field.name) members ∧
          FilledFrom (depthLimit - 1) members r.fields r.blank x := by
  have made (t : Tree) (spells : Padded t.Spells document) :
      decode r.reader document = .ok x ↔ Makes r.reader depthLimit t (some x) := by
    obtain ⟨outcome, makes⟩ := uniform_reader uniform depthLimit t
    have decoded := toOption_decode makes spells
    constructor
    · intro same
      rw [same] at decoded
      obtain rfl : some x = outcome := decoded
      exact makes
    · intro makes'
      rw [makes.unique makes'] at decoded
      exact eq_ok decoded
  constructor
  · intro read
    obtain ⟨t, spells⟩ := exists_spelled_of_decode (sound_reader sound) read
    obtain ⟨members, has, filled⟩ :=
      (makes_reader_iff h independent uniform).mp ((made t spells).mp read)
    exact ⟨t, members, spells, has, filled⟩
  · rintro ⟨t, members, spells, has, filled⟩
    exact (made t spells).mpr ((makes_reader_iff h independent uniform).mpr ⟨members, has, filled⟩)

/-- A field is filled with what its member means if there is one, and keeps what it has
otherwise. -/
theorem filledFrom_of_iff {reader : Reader α} {Means : Tree → α → Prop} (exact : Exact reader Means)
    {aliases : List String} {needed : Bool} (get : σ → α) {set : α → σ → σ}
    (set_get : ∀ s, set (get s) s = s) :
    FilledFrom room members (.of name aliases needed reader set :: fields) value x ↔
      ∃ given : Option α, Option.Rel Means (members.lookup name) given ∧
        FilledFrom room members fields (set (given.getD (get value)) value) x := by
  cases found : members.lookup name with
  | none =>
      rw [filledFrom_cons_none found]
      constructor
      · intro filled
        exact ⟨none, .none, by rwa [Option.getD_none, set_get]⟩
      · rintro ⟨given, ⟨⟩, filled⟩
        rwa [Option.getD_none, set_get] at filled
  | some t =>
      rw [filledFrom_cons_some found]
      constructor
      · rintro ⟨fill, makes, filled⟩
        obtain ⟨a, read, rfl⟩ := (makes_map_iff exact.uniform).mp makes
        exact ⟨some a, .some ((exact.makes_iff _ _ _).mp read), filled⟩
      · rintro ⟨given, means, filled⟩
        cases means with
        | @some _ a means =>
            exact ⟨set a, (makes_map_iff exact.uniform).mpr
              ⟨a, (exact.makes_iff _ _ _).mpr means, rfl⟩, filled⟩

end Record

end PulseBridge.Json
