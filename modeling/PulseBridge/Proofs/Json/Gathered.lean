import PulseBridge.Proofs.Json.Outcomes

/-!
# What is gathered from the members of an object

Each member of an object has one effect on the record that is read from it, whatever stands around
the member: it fills a field, it is passed over, or the record is refused for it. What the object is
read as depends on these effects alone, so it depends neither on blanks nor, if fields are filled
independently of each other, on the order of the members.

## Main definitions

* `Effect`, `Record.HasEffect`: what a member does to a record.
* `Record.gather`: what the members of an object make of a record.

## Main statements

* `Record.uniform_reader`: a record is read alike from every spelling if its fields are.
* `Record.makes_object`, `Record.makes_places`: an object is read as what is gathered from its
  members, a list as what its values make of the record in their places.
-/

namespace PulseBridge.Json

open Ascii

variable {σ : Type}

/-- What a member does to the record that is read. -/
inductive Effect (σ : Type) where
  /-- The record is refused. -/
  | refused
  /-- The member is passed over. -/
  | passed
  /-- The field of this name is filled. -/
  | fills (name : String) (fill : σ → σ)

/-- Go on with the record after an effect, unless the record is refused or a field is filled again.
`seen` holds the names of the fields filled so far. -/
def Effect.andThen {α : Type} (effect : Effect σ) (seen : List String) (value : σ)
    (further : List String → σ → Option α) : Option α :=
  match effect with
  | .refused => none
  | .passed => further seen value
  | .fills name fill =>
      if seen.contains name then none else further (name :: seen) (fill value)

theorem Effect.andThen_map {α β : Type} (effect : Effect σ) (seen : List String) (value : σ)
    (further : List String → σ → Option α) (f : α → β) :
    (effect.andThen seen value further).map f =
      effect.andThen seen value fun seen value => (further seen value).map f := by
  cases effect with
  | refused => rfl
  | passed => rfl
  | fills name fill => exact apply_ite (Option.map f) _ none _

namespace Record

variable {r : Record σ} {room : Nat} {before inner core rest : Octets}

/-- Whether a member has an effect on the record that is read. -/
inductive HasEffect (r : Record σ) (room : Nat) : Quotable × Tree → Effect σ → Prop
  | unreadable {key : Quotable} {t : Tree}
      (fails : ∀ rest, (readText (key.octets ++ quote :: rest)).toOption = none) :
      HasEffect r room (key, t) .refused
  | passed {key : Quotable} {t : Tree} {name : String} (means : key.Means name)
      (unknown : r.field? name = none) : HasEffect r room (key, t) .passed
  | refused {key : Quotable} {t : Tree} {name : String} {f : Field σ} (means : key.Means name)
      (known : r.field? name = some f) (makes : Makes f.read room t none) :
      HasEffect r room (key, t) .refused
  | fills {key : Quotable} {t : Tree} {name : String} {f : Field σ} {fill : σ → σ}
      (means : key.Means name) (known : r.field? name = some f)
      (makes : Makes f.read room t (some fill)) : HasEffect r room (key, t) (.fills f.name fill)

/-- What members with these effects make of a record, if nothing is refused, no field is filled
again, and no needed field is left out. -/
def gather (r : Record σ) : List (Effect σ) → List String → σ → Option σ
  | [], seen, value => if (r.absent? seen).isNone then some value else none
  | effect :: effects, seen, value => effect.andThen seen value (gather r effects)

/-- Every member has an effect if the fields are read uniformly. -/
theorem exists_effect (uniform : ∀ f ∈ r.fields, Uniform f.read) (room : Nat)
    (m : Quotable × Tree) : ∃ effect, r.HasEffect room m effect := by
  obtain ⟨key, t⟩ := m
  rcases readText_cases key.isQuotable with ⟨name, means⟩ | fails
  · cases known : r.field? name with
    | none => exact ⟨_, .passed means known⟩
    | some f =>
        obtain ⟨outcome, makes⟩ := uniform f (List.mem_of_find?_eq_some known) room t
        cases outcome with
        | none => exact ⟨_, .refused means known makes⟩
        | some fill => exact ⟨_, .fills means known makes⟩
  · exact ⟨_, .unreadable fails⟩

theorem exists_effects (uniform : ∀ f ∈ r.fields, Uniform f.read) (room : Nat)
    (ms : List (Quotable × Tree)) : ∃ effects, List.Forall₂ (r.HasEffect room) ms effects := by
  induction ms with
  | nil => exact ⟨[], .nil⟩
  | cons m ms ih =>
      obtain ⟨effect, first⟩ := exists_effect uniform room m
      obtain ⟨effects, further⟩ := ih
      exact ⟨effect :: effects, .cons first further⟩

/-! ## Objects -/

theorem nextMember_blanks (first : Bool) (blanks : Blanks before) (s : Octets) :
    Reader.nextMember first (before ++ s) = Reader.nextMember first s := by
  rw [Reader.nextMember, Reader.nextMember, skipBlanks_append blanks]

theorem nextMember_comma_blanks (blanks : Blanks before) (s : Octets) :
    Reader.nextMember false (comma :: (before ++ s)) = Reader.nextMember false (comma :: s) := by
  rw [Reader.nextMember, skipBlanks_cons rfl]
  change (if false = true then _ else if (comma == comma) = true then _ else _) = _
  rw [skipBlanks_append blanks]
  rfl

/-- The next member is found behind the blanks in front of it. -/
theorem nextMember_entries (first : Bool) (blanks : Blanks before) (hinner : Blanks inner)
    (key : Quotable) (value : Octets) (more : List Octets) (rest : Octets) :
    Reader.nextMember first
        (before ++ (entries first ((inner ++ (key.inQuotes ++ value)) :: more) ++ rest)) =
      .ok (some (key.octets ++ quote :: (value ++ (entries false more ++ rest)))) := by
  have shape (s : Octets) : inner ++ (key.inQuotes ++ value) ++ s =
      inner ++ (quote :: (key.octets ++ quote :: (value ++ s))) := by
    simp only [Quotable.inQuotes, List.append_assoc, List.cons_append, List.nil_append]
  rw [nextMember_blanks first blanks]
  cases first with
  | true =>
      rw [entries_true_cons, List.append_assoc, shape, nextMember_blanks true hinner]
      rfl
  | false =>
      rw [entries_false_cons, List.cons_append, List.append_assoc, shape,
        nextMember_comma_blanks hinner]
      rfl

/-- What a member does to the record is done when it is read, and what follows it is left. -/
theorem toOption_members_member {key : Quotable} {t : Tree} {effect : Effect σ}
    (has : r.HasEffect room (key, t) effect) {between s : Octets} (hbetween : Blanks between)
    (hinner : Blanks inner) (spells : t.Spells core) (follows : Follows rest) {first : Bool}
    (next : Reader.nextMember first s =
      .ok (some (key.octets ++ quote :: (between ++ colon :: (inner ++ (core ++ rest))))))
    (tick : UInt8) (clock : Octets) (seen : List String) (value : σ) :
    (r.members room (tick :: clock) first seen value s).toOption =
      effect.andThen seen value fun seen value =>
        (r.members room clock false seen value rest).toOption := by
  have colon : readColon (between ++ colon :: (inner ++ (core ++ rest))) =
      .ok (inner ++ (core ++ rest)) := by
    rw [readColon, skipBlanks_append hbetween]
    rfl
  rw [members, next]
  dsimp only
  cases has with
  | unreadable fails =>
      obtain ⟨fault, failed⟩ :=
        exists_error (fails (between ++ Ascii.colon :: (inner ++ (core ++ rest))))
      rw [failed]
      rfl
  | passed means unknown =>
      have skipped :
          (readColon (between ++ Ascii.colon :: (inner ++ (core ++ rest))) >>= skipValue) =
            .ok rest := by
        rw [colon]
        exact t.skipValue_spells spells hinner follows
      rw [means.readText]
      dsimp only
      rw [unknown, skipped]
      rfl
  | @refused _ _ _ f means known makes =>
      rw [means.readText]
      dsimp only
      rw [known, colon]
      dsimp only
      split
      · rfl
      · obtain ⟨fault, failed⟩ := exists_error (makes inner core rest hinner spells follows)
        rw [failed]
        rfl
  | @fills _ _ _ f fill means known makes =>
      rw [means.readText]
      dsimp only
      rw [known, colon, Effect.andThen]
      dsimp only
      split
      · rfl
      · rw [eq_ok (makes inner core rest hinner spells follows)]

/-- Members are gathered up to the end of the object. -/
theorem toOption_members {ms : List (Quotable × Tree)} {effects : List (Effect σ)}
    {parts : List Octets} (has : List.Forall₂ (r.HasEffect room) ms effects)
    (members : SpellsMembers ms parts) (first : Bool) (blanks : Blanks before) {clock : Octets}
    (long : parts.length < clock.length) (seen : List String) (value : σ) (rest : Octets) :
    (r.members room clock first seen value
        (before ++ (entries first parts ++ closeBrace :: rest))).toOption =
      (r.gather effects seen value).map (·, rest) := by
  induction has generalizing parts clock first seen value before with
  | nil =>
      obtain rfl : parts = [] := members
      cases clock with
      | nil => cases long
      | cons tick clock =>
          have next : Reader.nextMember first (before ++ closeBrace :: rest) = .ok none := by
            rw [nextMember_blanks first blanks]
            cases first <;> rfl
          have ended : Reader.endObject (before ++ closeBrace :: rest) = .ok rest := by
            rw [Reader.endObject, skipBlanks_append blanks]
            rfl
          rw [entries_nil, List.nil_append, Record.members, next]
          dsimp only
          rw [ended, gather]
          cases r.absent? seen <;> rfl
  | @cons m effect ms effects one _ ih =>
      obtain ⟨key, t⟩ := m
      obtain ⟨_, more, ⟨inner, between, _, hinner, hbetween,
        ⟨inner', core, after, hinner', spells, hafter, rfl⟩, rfl⟩, further, rfl⟩ := members
      cases clock with
      | nil => cases long
      | cons tick clock =>
          have follows := (follows_further_entries .object more rest).after_blanks hafter
          have next := nextMember_entries first blanks hinner key
            (between ++ colon :: (inner' ++ (core ++ after))) more (closeBrace :: rest)
          simp only [List.append_assoc, List.cons_append] at next
          rw [toOption_members_member one hbetween hinner' spells follows next, gather,
            Effect.andThen_map]
          congr 1
          funext seen value
          exact ih further false hafter (Nat.lt_of_succ_lt_succ long) seen value

/-- An object is refused where no bracket may be opened any more. -/
theorem makes_object_zero (ms : List (Quotable × Tree)) : Makes r.reader 0 (.object ms) none := by
  rintro before s rest blanks ⟨inner, parts, -, -, rfl⟩ _
  rw [reader, skipBlanks_begun blanks rfl]
  rfl

/-- An object is read as what is gathered from its members. -/
theorem makes_object {ms : List (Quotable × Tree)} {effects : List (Effect σ)}
    (has : List.Forall₂ (r.HasEffect room) ms effects) :
    Makes r.reader (room + 1) (.object ms) (r.gather effects [] r.blank) := by
  rintro before s rest blanks ⟨inner, parts, hinner, members, rfl⟩ _
  have entered : r.reader (room + 1) (before ++
      (openBrace :: (inner ++ (joinWithCommas parts ++ [closeBrace])) ++ rest)) =
      (r.members room (openBrace :: (inner ++ (entries true parts ++ closeBrace :: rest))) true []
        r.blank (inner ++ (entries true parts ++ closeBrace :: rest))).mapError
          (·.settle afterObject) := by
    rw [reader, skipBlanks_begun blanks rfl,
      List.append_assoc, List.append_assoc]
    rfl
  rw [entered, toOption_mapError,
    toOption_members has members true hinner (length_lt_bracket ..)]

/-! ## Lists -/

/-- A list that goes on is not ended. -/
theorem toOption_endList_other {b : UInt8} {s tail : Octets} (skipped : skipBlanks s = b :: tail)
    (notEnd : b ≠ closeBracket) : (Reader.endList s).toOption = none := by
  rw [Reader.endList, skipped]
  split
  · rfl
  · next same => exact absurd (List.cons.inj same).1 notEnd
  · split <;> rfl
  · rfl

theorem toOption_endList_entries (first : Bool) (blanks : Blanks before) (hinner : Blanks inner)
    (begins : BeginsElement core) (after : Octets) (more : List Octets) (rest : Octets) :
    (Reader.endList
      (before ++ (entries first ((inner ++ (core ++ after)) :: more) ++ rest))).toOption =
        none := by
  cases first with
  | true =>
      obtain ⟨b, tail, rfl, notBlank, notEnd⟩ := begins
      have skipped : skipBlanks (before ++
          (entries true ((inner ++ (b :: tail ++ after)) :: more) ++ rest)) =
          b :: (tail ++ (after ++ (entries false more ++ rest))) := by
        rw [skipBlanks_append blanks, entries_true_cons, List.append_assoc, List.append_assoc,
          skipBlanks_append hinner, List.append_assoc, List.cons_append, skipBlanks_cons notBlank]
      exact toOption_endList_other skipped notEnd
  | false =>
      have skipped : skipBlanks (before ++
          (entries false ((inner ++ (core ++ after)) :: more) ++ rest)) =
          comma :: (inner ++ (core ++ after) ++ entries false more ++ rest) := by
        rw [skipBlanks_append blanks]
        rfl
      exact toOption_endList_other skipped (by decide)

/-- A value fills the field of its place, or the record is refused. -/
theorem toOption_positions_value {f : Field σ} {t : Tree} {outcome : Option (σ → σ)}
    (makes : Makes f.read room t outcome) {s : Octets} (spells : t.Spells core)
    (follows : Follows rest) {first : Bool}
    (next : Reader.nextElement first s = .ok (some (core ++ rest))) (fields : List (Field σ))
    (length : Nat) (value : σ) :
    (r.positions room (f :: fields) length first value s).toOption =
      outcome.bind fun fill =>
        (r.positions room fields (length + 1) false (fill value) rest).toOption := by
  rw [positions, next]
  rcases read_cases (makes [] core rest blanks_nil spells follows) with
    ⟨rfl, fault, failed⟩ | ⟨fill, rfl, read⟩
  · rw [List.nil_append] at failed
    simp only [failed]
    rfl
  · rw [List.nil_append] at read
    simp only [read]
    rfl

/-- What the values of a list make of a record, each of them filling the field of its place. -/
inductive Places (room : Nat) : List (Field σ) → List Tree → σ → Option σ → Prop
  | ended (fields : List (Field σ)) (value : σ) :
      Places room fields [] value
        (if (fields.findIdx? (·.needed)).isNone then some value else none)
  | surplus (t : Tree) (ts : List Tree) (value : σ) : Places room [] (t :: ts) value none
  | refused {f : Field σ} {t : Tree} (makes : Makes f.read room t none) (fields : List (Field σ))
      (ts : List Tree) (value : σ) : Places room (f :: fields) (t :: ts) value none
  | fills {f : Field σ} {fields : List (Field σ)} {t : Tree} {ts : List Tree} {fill : σ → σ}
      {value : σ} {outcome : Option σ} (makes : Makes f.read room t (some fill))
      (further : Places room fields ts (fill value) outcome) :
      Places room (f :: fields) (t :: ts) value outcome

/-- The values of a list make something of a record if the fields are read uniformly. -/
theorem exists_places {fields : List (Field σ)} (uniform : ∀ f ∈ fields, Uniform f.read)
    (room : Nat) (ts : List Tree) (value : σ) : ∃ outcome, Places room fields ts value outcome := by
  induction fields generalizing ts value with
  | nil =>
      cases ts with
      | nil => exact ⟨_, .ended [] value⟩
      | cons t ts => exact ⟨none, .surplus t ts value⟩
  | cons f fields ih =>
      obtain ⟨one, uniform⟩ := List.forall_mem_cons.mp uniform
      cases ts with
      | nil => exact ⟨_, .ended (f :: fields) value⟩
      | cons t ts =>
          obtain ⟨filled, makes⟩ := one room t
          cases filled with
          | none => exact ⟨none, .refused makes fields ts value⟩
          | some fill =>
              obtain ⟨outcome, further⟩ := ih uniform ts (fill value)
              exact ⟨outcome, .fills makes further⟩

/-- The values of a list are read in their places, up to the end of the list. -/
theorem toOption_positions {fields : List (Field σ)} {ts : List Tree} {value : σ}
    {outcome : Option σ} (places : Places room fields ts value outcome) {parts : List Octets}
    (each : SpellsEach ts parts) (length : Nat) (first : Bool) (blanks : Blanks before)
    (rest : Octets) :
    (r.positions room fields length first value
        (before ++ (entries first parts ++ closeBracket :: rest))).toOption =
      outcome.map (·, rest) := by
  induction places generalizing parts length first before with
  | ended fields value =>
      obtain rfl : parts = [] := each
      rw [entries_nil, List.nil_append]
      cases fields with
      | nil =>
          rw [positions, endList_blanks blanks]
          rfl
      | cons f fields =>
          rw [positions, nextElement_end first blanks]
          dsimp only
          rw [endList_blanks blanks]
          cases (f :: fields).findIdx? (·.needed) <;> rfl
  | surplus t ts value =>
      obtain ⟨_, more, ⟨inner, core, after, hinner, spells, -, rfl⟩, -, rfl⟩ := each
      obtain ⟨fault, failed⟩ := exists_error (toOption_endList_entries first blanks hinner
        (Tree.beginsElement spells) after more (closeBracket :: rest))
      rw [positions, failed]
      rfl
  | refused makes fields ts value =>
      obtain ⟨_, more, ⟨inner, core, after, hinner, spells, hafter, rfl⟩, -, rfl⟩ := each
      have next := nextElement_entries first blanks hinner (Tree.beginsElement spells) after more
        rest
      have follows := (follows_further_entries .list more rest).after_blanks hafter
      rw [toOption_positions_value makes spells follows next]
      rfl
  | fills makes _ ih =>
      obtain ⟨_, more, ⟨inner, core, after, hinner, spells, hafter, rfl⟩, each, rfl⟩ := each
      have next := nextElement_entries first blanks hinner (Tree.beginsElement spells) after more
        rest
      have follows := (follows_further_entries .list more rest).after_blanks hafter
      rw [toOption_positions_value makes spells follows next]
      exact ih each (length + 1) false hafter

/-- A list is refused where no bracket may be opened any more. -/
theorem makes_places_zero (ts : List Tree) : Makes r.reader 0 (.list ts) none := by
  rintro before s rest blanks ⟨inner, parts, -, -, rfl⟩ _
  rw [reader, skipBlanks_begun blanks rfl]
  rfl

/-- A list is read as what its values make of the record. -/
theorem makes_places {ts : List Tree} {outcome : Option σ}
    (places : Places room r.fields ts r.blank outcome) :
    Makes r.reader (room + 1) (.list ts) outcome := by
  rintro before s rest blanks ⟨inner, parts, hinner, each, rfl⟩ _
  have entered : r.reader (room + 1) (before ++
      (openBracket :: (inner ++ (joinWithCommas parts ++ [closeBracket])) ++ rest)) =
      (r.positions room r.fields 0 true r.blank
        (inner ++ (entries true parts ++ closeBracket :: rest))).mapError (·.settle afterList) := by
    rw [reader, skipBlanks_begun blanks rfl,
      List.append_assoc, List.append_assoc]
    rfl
  rw [entered, toOption_mapError]
  exact toOption_positions places each 0 true hinner rest

/-! ## Records -/

/-- Only an object and a list are read as a record. -/
theorem makes_none_of_ne_bracket {t : Tree} (noList : t.beginning ≠ .list)
    (noObject : t.beginning ≠ .object) (room : Nat) : Makes r.reader room t none := by
  intro before s rest blanks spells _
  obtain ⟨b, tail, skipped, first⟩ := Tree.skipBlanks_spells blanks spells rest
  rw [reader, skipped]
  split
  · rfl
  · next same =>
      obtain ⟨rfl, -⟩ := List.cons.inj same
      exact absurd (Option.some.inj first).symm noList
  · next same =>
      obtain ⟨rfl, -⟩ := List.cons.inj same
      exact absurd (Option.some.inj first).symm noObject
  · rfl

/-- A record is read alike from every spelling, be it an object, a list or neither. -/
theorem uniform_reader (uniform : ∀ f ∈ r.fields, Uniform f.read) : Uniform r.reader := by
  intro room t
  cases t with
  | list elements =>
      cases room with
      | zero => exact ⟨none, makes_places_zero elements⟩
      | succ room =>
          obtain ⟨outcome, places⟩ := exists_places uniform room elements r.blank
          exact ⟨outcome, makes_places places⟩
  | object members =>
      cases room with
      | zero => exact ⟨none, makes_object_zero members⟩
      | succ room =>
          obtain ⟨effects, has⟩ := exists_effects uniform room members
          exact ⟨_, makes_object has⟩
  | _ =>
      exact ⟨none, makes_none_of_ne_bracket (by simp [Tree.beginning]) (by simp [Tree.beginning])
        room⟩

end Record

end PulseBridge.Json
