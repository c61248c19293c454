import PulseBridge.Proofs.Json.Accepted
import PulseBridge.Proofs.Json.Gathered

/-!
# What a document is built as

A document of any shape is built as a value: a text as the text that it means, a number as what is
read of it, and lists and objects of what is built of their elements and members, in their order.
Nothing is built if a text in it means nothing, if a number in it is not read, or if it nests too
deep.

## Main definitions

* `Tree.Builds`: the value that a tree is built as.

## Main statements

* `makes_readValue_iff`, `decode_readValue_eq_ok_iff`: a document is built as what its tree builds.
-/

namespace PulseBridge.Json

open Ascii

/-- Whether a numeral is read as a number. One that is too large for a double is not read. -/
def Numeral.Gives (numeral : Numeral) (n : Number) : Prop :=
  decode readValue numeral.octets = .ok (.number n)

mutual

/-- Whether a tree is built as a value, with room for so many brackets. -/
def Tree.Builds : Tree → Nat → Value → Prop
  | .null, _, v => v = .null
  | .boolean b, _, v => v = .boolean b
  | .number numeral, _, v => ∃ n, numeral.Gives n ∧ v = .number n
  | .text literal, _, v => ∃ text, literal.Means text ∧ v = .text text
  | .list _, 0, _ => False
  | .list ts, room + 1, v => ∃ vs, BuildsEach ts room vs ∧ v = .list vs
  | .object _, 0, _ => False
  | .object ms, room + 1, v => ∃ members, BuildsMembers ms room members ∧ v = .object members

/-- Whether trees are built as values, one after the other. -/
def BuildsEach : List Tree → Nat → List Value → Prop
  | [], _, vs => vs = []
  | t :: ts, room, vs => ∃ v more, t.Builds room v ∧ BuildsEach ts room more ∧ vs = v :: more

/-- Whether members are built, one after the other, under the names that their keys mean. -/
def BuildsMembers : List (Quotable × Tree) → Nat → List (String × Value) → Prop
  | [], _, members => members = []
  | (key, t) :: ms, room, members =>
      ∃ name v more, key.Means name ∧ t.Builds room v ∧ BuildsMembers ms room more ∧
        members = (name, v) :: more

end

variable {α : Type} {room : Nat} {t : Tree} {v : Value} {before inner core rest : Octets}

/-! ## Scalars -/

theorem makes_null (room : Nat) : Makes readValue room .null (some .null) := by
  rintro before s rest blanks rfl _
  rw [readValue_scalar (skipBlanks_begun blanks rfl _ rest) (by decide) (by decide)]
  rfl

theorem makes_boolean (room : Nat) (b : Bool) :
    Makes readValue room (.boolean b) (some (.boolean b)) := by
  cases b <;> rintro before s rest blanks rfl _ <;>
    rw [readValue_scalar (skipBlanks_begun blanks rfl _ rest) (by decide) (by decide)] <;>
    rfl

/-- A text is built if it means something. -/
theorem exists_text (literal : Quotable) : ∃ text : Option String,
    (∀ room, Makes readValue room (.text literal) (text.map .text)) ∧
      ∀ s, text = some s ↔ literal.Means s := by
  have scalar (rest : Octets) : readScalar quote (literal.octets ++ quote :: rest) =
      (readText (literal.octets ++ quote :: rest)).map fun read => (.text read.1, read.2) := rfl
  rcases readText_cases literal.isQuotable with ⟨text, means⟩ | unreadable
  · refine ⟨some text, ?_, fun s => ⟨?_, fun means' => congrArg some (means.unique means')⟩⟩
    · rintro room before _ rest blanks rfl _
      rw [readValue_scalar (skipBlanks_inQuotes blanks literal rest) (by decide) (by decide),
        scalar, means.readText]
      rfl
    · rintro ⟨⟩
      exact means
  · refine ⟨none, ?_, fun s => ⟨nofun, fun means => ?_⟩⟩
    · rintro room before _ rest blanks rfl _
      rw [readValue_scalar (skipBlanks_inQuotes blanks literal rest) (by decide) (by decide),
        scalar, toOption_map, unreadable]
      rfl
    · have read := unreadable []
      rw [means.readText] at read
      cases read

theorem gives_iff {numeral : Numeral} {number : Option Number}
    (makes : ∀ room, Makes readValue room (.number numeral) (number.map .number)) (n : Number) :
    numeral.Gives n ↔ number = some n := by
  have padded : Padded (Tree.number numeral).Spells numeral.octets :=
    ⟨[], _, [], blanks_nil, numeral.spells, blanks_nil, by simp⟩
  have decoded := toOption_decode (makes depthLimit) padded
  constructor
  · intro gives
    rw [Numeral.Gives] at gives
    rw [gives] at decoded
    obtain ⟨n', rfl, same⟩ := Option.map_eq_some_iff.mp decoded.symm
    cases same
    rfl
  · rintro rfl
    exact eq_ok decoded

/-! ## Objects -/

/-- What is read of a member of an object. -/
inductive ReadsMember (r : Reader α) (room : Nat) :
    Quotable × Tree → Option (String × α) → Prop
  | unreadable {key : Quotable} (t : Tree)
      (fails : ∀ rest, (readText (key.octets ++ quote :: rest)).toOption = none) :
      ReadsMember r room (key, t) none
  | read {key : Quotable} {t : Tree} {name : String} {outcome : Option α}
      (means : key.Means name) (makes : Makes r room t outcome) :
      ReadsMember r room (key, t) (outcome.map (name, ·))

section Members

variable {r : Reader α} {gathered : List (String × α)}

/-- A member is gathered, or the object is refused. -/
theorem toOption_anyMembers {key : Quotable} {t : Tree} {outcome : Option (String × α)}
    (reads : ReadsMember r room (key, t) outcome) {between s : Octets} (hbetween : Blanks between)
    (hinner : Blanks inner) (spells : t.Spells core) (follows : Follows rest) {first : Bool}
    (next : Reader.nextMember first s =
      .ok (some (key.octets ++ quote :: (between ++ colon :: (inner ++ (core ++ rest))))))
    (tick : UInt8) (clock : Octets) :
    (anyMembers r room (tick :: clock) first gathered s).toOption =
      outcome.bind fun member =>
        (anyMembers r room clock false (member :: gathered) rest).toOption := by
  have colon : readColon (between ++ colon :: (inner ++ (core ++ rest))) =
      .ok (inner ++ (core ++ rest)) := by
    rw [readColon, skipBlanks_append hbetween]
    rfl
  rw [anyMembers, next]
  dsimp only
  cases reads with
  | unreadable _ fails =>
      obtain ⟨fault, failed⟩ :=
        exists_error (fails (between ++ Ascii.colon :: (inner ++ (core ++ rest))))
      rw [failed]
      rfl
  | read means makes =>
      rw [means.readText]
      dsimp only
      rw [colon]
      dsimp only
      rcases read_cases (makes inner core rest hinner spells follows) with
        ⟨rfl, fault, failed⟩ | ⟨a, rfl, read⟩
      · rw [failed]
        rfl
      · rw [read]
        rfl

/-- Members are gathered up to the end of the object, or one of them is refused. -/
theorem toOption_anyMembers_each {ms : List (Quotable × Tree)}
    {outcomes : List (Option (String × α))} {parts : List Octets}
    (reads : List.Forall₂ (ReadsMember r room) ms outcomes) (members : SpellsMembers ms parts)
    (first : Bool) (blanks : Blanks before) {clock : Octets} (long : parts.length < clock.length)
    (gathered : List (String × α)) (rest : Octets) :
    (anyMembers r room clock first gathered
        (before ++ (entries first parts ++ closeBrace :: rest))).toOption =
      (outcomes.mapM id).map fun members => (gathered.reverse ++ members, rest) := by
  induction reads generalizing parts clock first gathered before with
  | nil =>
      obtain rfl : parts = [] := members
      cases clock with
      | nil => cases long
      | cons tick clock =>
          have next : Reader.nextMember first (before ++ closeBrace :: rest) = .ok none := by
            rw [Record.nextMember_blanks first blanks]
            cases first <;> rfl
          have ended : Reader.endObject (before ++ closeBrace :: rest) = .ok rest := by
            rw [Reader.endObject, skipBlanks_append blanks]
            rfl
          rw [entries_nil, List.nil_append, anyMembers, next]
          simp [ended, Except.toOption]
  | @cons m outcome ms outcomes one _ ih =>
      obtain ⟨key, t⟩ := m
      obtain ⟨_, more, ⟨inner, between, _, hinner, hbetween,
        ⟨inner', core, after, hinner', spells, hafter, rfl⟩, rfl⟩, further, rfl⟩ := members
      cases clock with
      | nil => cases long
      | cons tick clock =>
          have follows := (follows_further_entries .object more rest).after_blanks hafter
          have next := Record.nextMember_entries first blanks hinner key
            (between ++ colon :: (inner' ++ (core ++ after))) more (closeBrace :: rest)
          simp only [List.append_assoc, List.cons_append] at next
          rw [toOption_anyMembers one hbetween hinner' spells follows next]
          cases outcome with
          | none => rfl
          | some member =>
              have read := ih further false hafter (Nat.lt_of_succ_lt_succ long)
                (member :: gathered)
              simp only [Option.bind_some, Bracket.closer, read, List.mapM_cons]
              cases outcomes.mapM id <;> simp

end Members

/-! ## Brackets -/

theorem makes_value_list {ts : List Tree} {outcomes : List (Option Value)}
    (makes : List.Forall₂ (Makes readValue room) ts outcomes) :
    Makes readValue (room + 1) (.list ts) ((outcomes.mapM id).map .list) := by
  rintro before s rest blanks ⟨inner, parts, hinner, each, rfl⟩ _
  have entered : readValue (room + 1) (before ++
      (openBracket :: (inner ++ (joinWithCommas parts ++ [closeBracket])) ++ rest)) =
      (Reader.elements (fun _ => readValue room) room
        (openBracket :: (inner ++ (entries true parts ++ closeBracket :: rest))) true []
        (inner ++ (entries true parts ++ closeBracket :: rest))).map
          fun read => (.list read.1, read.2) := by
    rw [readValue, skipBlanks_begun blanks rfl, List.append_assoc, List.append_assoc]
    rfl
  have makes' : List.Forall₂ (Makes (fun _ => readValue room) room) ts outcomes := makes
  rw [entered, toOption_map,
    toOption_elements_each makes' each true hinner (length_lt_bracket ..)]
  cases outcomes.mapM id <;> rfl

theorem makes_value_object {ms : List (Quotable × Tree)}
    {outcomes : List (Option (String × Value))}
    (reads : List.Forall₂ (ReadsMember readValue room) ms outcomes) :
    Makes readValue (room + 1) (.object ms) ((outcomes.mapM id).map .object) := by
  rintro before s rest blanks ⟨inner, parts, hinner, members, rfl⟩ _
  have entered : readValue (room + 1) (before ++
      (openBrace :: (inner ++ (joinWithCommas parts ++ [closeBrace])) ++ rest)) =
      (anyMembers (fun _ => readValue room) room
        (openBrace :: (inner ++ (entries true parts ++ closeBrace :: rest))) true []
        (inner ++ (entries true parts ++ closeBrace :: rest))).map
          fun read => (.object read.1, read.2) := by
    rw [readValue, skipBlanks_begun blanks rfl, List.append_assoc, List.append_assoc]
    rfl
  have reads' : List.Forall₂ (ReadsMember (fun _ => readValue room) room) ms outcomes := by
    refine reads.imp fun m outcome read => ?_
    cases read with
    | unreadable t fails => exact .unreadable t fails
    | read means makes => exact .read means makes
  rw [entered, toOption_map,
    toOption_anyMembers_each reads' members true hinner (length_lt_bracket ..)]
  cases outcomes.mapM id <;> rfl

/-- A bracket is refused where none may be opened any more. -/
theorem makes_value_list_zero (ts : List Tree) : Makes readValue 0 (.list ts) none := by
  rintro before s rest blanks ⟨inner, parts, -, -, rfl⟩ _
  rw [readValue, skipBlanks_begun blanks rfl]
  rfl

theorem makes_value_object_zero (ms : List (Quotable × Tree)) :
    Makes readValue 0 (.object ms) none := by
  rintro before s rest blanks ⟨inner, parts, -, -, rfl⟩ _
  rw [readValue, skipBlanks_begun blanks rfl]
  rfl

/-! ## Trees -/

/-- Whether a tree is built as something, or as nothing, however it is spelled. -/
def Tree.IsSettled (t : Tree) (room : Nat) : Prop :=
  ∃ outcome, Makes readValue room t outcome ∧ ∀ v, outcome = some v ↔ t.Builds room v

theorem exists_each {ts : List Tree} (h : ∀ t ∈ ts, t.IsSettled room) :
    ∃ outcomes, List.Forall₂ (Makes readValue room) ts outcomes ∧
      ∀ vs, outcomes.mapM id = some vs ↔ BuildsEach ts room vs := by
  induction ts with
  | nil => exact ⟨[], .nil, fun vs => by simp [BuildsEach, eq_comm]⟩
  | cons t ts ih =>
      obtain ⟨⟨outcome, makes, builds⟩, h⟩ := List.forall_mem_cons.mp h
      obtain ⟨outcomes, further, each⟩ := ih h
      refine ⟨outcome :: outcomes, .cons makes further, fun vs => ?_⟩
      rw [List.mapM_cons, BuildsEach]
      simp only [← builds, ← each]
      cases outcome <;> cases outcomes.mapM id <;> simp [eq_comm]

theorem exists_members {ms : List (Quotable × Tree)} (h : ∀ m ∈ ms, m.2.IsSettled room) :
    ∃ outcomes, List.Forall₂ (ReadsMember readValue room) ms outcomes ∧
      ∀ members, outcomes.mapM id = some members ↔ BuildsMembers ms room members := by
  induction ms with
  | nil => exact ⟨[], .nil, fun members => by simp [BuildsMembers, eq_comm]⟩
  | cons m ms ih =>
      obtain ⟨key, t⟩ := m
      obtain ⟨⟨outcome, makes, builds⟩, h⟩ := List.forall_mem_cons.mp h
      obtain ⟨outcomes, further, each⟩ := ih h
      rcases readText_cases key.isQuotable with ⟨name, means⟩ | fails
      · refine ⟨_, .cons (.read means makes) further, fun members => ?_⟩
        rw [List.mapM_cons, BuildsMembers]
        simp only [← builds, ← each]
        have only {v : Value} {more : List (String × Value)} :
            (name, v) :: more = members ↔
              ∃ name, key.Means name ∧ members = (name, v) :: more := by
          constructor
          · rintro rfl
            exact ⟨name, means, rfl⟩
          · rintro ⟨name', means', rfl⟩
            rw [means.unique means']
        cases outcome <;> cases outcomes.mapM id <;> simp [only]
      · refine ⟨_, .cons (.unreadable t fails) further, fun members => ?_⟩
        have unread : ¬ BuildsMembers ((key, t) :: ms) room members := by
          rintro ⟨name, v, more, means, -⟩
          have read := fails []
          rw [means.readText] at read
          cases read
        simp [unread]

theorem isSettled (t : Tree) (room : Nat) : t.IsSettled room := by
  induction t generalizing room with
  | null => exact ⟨_, makes_null room, fun v => by simp [Tree.Builds, eq_comm]⟩
  | boolean b => exact ⟨_, makes_boolean room b, fun v => by simp [Tree.Builds, eq_comm]⟩
  | number numeral =>
      obtain ⟨number, makes⟩ := exists_number numeral
      refine ⟨_, makes room, fun v => ?_⟩
      simp only [Tree.Builds, gives_iff makes, Option.map_eq_some_iff, eq_comm]
  | text literal =>
      obtain ⟨text, makes, means⟩ := exists_text literal
      refine ⟨_, makes room, fun v => ?_⟩
      simp only [Tree.Builds, ← means, Option.map_eq_some_iff, eq_comm]
  | list ts ih =>
      cases room with
      | zero => exact ⟨none, makes_value_list_zero ts, fun v => by simp [Tree.Builds]⟩
      | succ room =>
          obtain ⟨outcomes, makes, each⟩ := exists_each fun t mem => ih t mem room
          refine ⟨_, makes_value_list makes, fun v => ?_⟩
          simp only [Tree.Builds, ← each, Option.map_eq_some_iff, eq_comm]
  | object ms ih =>
      cases room with
      | zero => exact ⟨none, makes_value_object_zero ms, fun v => by simp [Tree.Builds]⟩
      | succ room =>
          obtain ⟨outcomes, reads, each⟩ := exists_members fun m mem => ih m mem room
          refine ⟨_, makes_value_object reads, fun v => ?_⟩
          simp only [Tree.Builds, ← each, Option.map_eq_some_iff, eq_comm]

/-- A tree is read as the value that it is built as. -/
theorem makes_readValue_iff : Makes readValue room t (some v) ↔ t.Builds room v := by
  obtain ⟨outcome, makes, builds⟩ := isSettled t room
  rw [← builds]
  exact ⟨fun makes' => makes.unique makes', fun same => same ▸ makes⟩

/-- Only a text is built as one. -/
theorem Tree.builds_text_iff {text : String} :
    t.Builds room (.text text) ↔ ∃ literal : Quotable, t = .text literal ∧ literal.Means text := by
  cases t <;> cases room <;> simp [Builds]

/-- Only a number is built as one. -/
theorem Tree.builds_number_iff {n : Number} :
    t.Builds room (.number n) ↔ ∃ numeral : Numeral, t = .number numeral ∧ numeral.Gives n := by
  cases t <;> cases room <;> simp [Builds]

/-- A document is built as what the tree that it spells is built as. -/
theorem decode_readValue_eq_ok_iff {document : Octets} :
    decode readValue document = .ok v ↔
      ∃ t : Tree, Padded t.Spells document ∧ t.Builds depthLimit v := by
  constructor
  · intro read
    obtain ⟨t, spells⟩ := exists_spelled_of_decode sound_readValue read
    obtain ⟨outcome, makes, builds⟩ := isSettled t depthLimit
    have decoded := toOption_decode makes spells
    rw [read] at decoded
    exact ⟨t, spells, (builds v).mp decoded.symm⟩
  · rintro ⟨t, spells, builds⟩
    exact eq_ok (toOption_decode (makes_readValue_iff.mpr builds) spells)

end PulseBridge.Json
