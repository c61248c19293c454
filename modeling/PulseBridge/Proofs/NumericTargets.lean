import Mathlib.Algebra.Group.Nat.Defs
import PulseBridge.Proofs.Json.Integers
import PulseBridge.Proofs.Json.OneField
import PulseBridge.Proofs.Refreshes

/-!
# Targets that are named by numbers

A check names its target by a text or by a number. A number is taken if it is an integer of 64 bits,
with a sign or without, and no `-0`; the target is then the integer in decimal, which is how the
number is spelled. So numbers name the same target only if they are the same, and it makes no
difference whether a check has the number or the text of its digits. Every other value is refused,
and with it the whole list.

## Main definitions

* `Check.Names`: the target that a value names.
* `Check.TargetPlace`: an element of a list of checks but for the value that names its target.

## Main statements

* `Check.makes_target_iff`: which values name targets.
* `Check.exists_rest`: the rest of a check is settled by what stands around its target.
* `Check.targets_of_numerals`: numbers as names of targets.
-/

namespace PulseBridge.Check

open Json (Makes Tree Padded Quotable Numeral IsInteger)
open Ascii

/-! ## The value of a target -/

/-- Whether a value names a target, and which: a text itself, and an integer of 64 bits its decimal
text. -/
inductive Names : Tree → String → Prop
  | text {literal : Quotable} {target : String} (means : literal.Means target) :
      Names (.text literal) target
  | number {numeral : Numeral} {n : Int} (names : numeral.Names n) :
      Names (.number numeral) (toString n)

variable {room : Nat} {t t' : Tree} {target : String} {check : Check}

theorem targetText?_eq_some_iff {v : Json.Value} :
    targetText? v = some target ↔
      v = .text target ∨ ∃ n, v = .number (.integer n) ∧ target = toString n := by
  match v with
  | .text s => simp [targetText?]
  | .number (.integer n) => simp [targetText?, eq_comm]
  | .number (.float _) | .null | .boolean _ | .list _ | .object _ => simp [targetText?]

theorem names_iff_builds (room : Nat) :
    Names t target ↔ ∃ v, t.Builds room v ∧ targetText? v = some target := by
  simp only [targetText?_eq_some_iff]
  constructor
  · intro names
    cases names with
    | text means => exact ⟨_, Tree.builds_text_iff.mpr ⟨_, rfl, means⟩, .inl rfl⟩
    | number names =>
        have gives := Json.gives_integer_iff.mpr names
        exact ⟨_, Tree.builds_number_iff.mpr ⟨_, rfl, gives⟩, .inr ⟨_, rfl, rfl⟩⟩
  · rintro ⟨v, builds, rfl | ⟨n, rfl, rfl⟩⟩
    · obtain ⟨literal, rfl, means⟩ := Tree.builds_text_iff.mp builds
      exact .text means
    · obtain ⟨numeral, rfl, gives⟩ := Tree.builds_number_iff.mp builds
      exact .number (Json.gives_integer_iff.mp gives)

/-- A value is read as the target that it names. -/
theorem makes_target_iff (room : Nat) : Makes readTarget room t (some target) ↔ Names t target := by
  obtain ⟨outcome, makes, builds⟩ := Json.isSettled t room
  rw [names_iff_builds room]
  simp only [← builds]
  constructor
  · intro h
    exact Option.bind_eq_some_iff.mp (h.unique (makes_target makes)).symm
  · rintro ⟨v, rfl, names⟩
    have h := makes_target makes
    rwa [Option.bind_some, names] at h

theorem names_text_iff {literal : Quotable} :
    Names (.text literal) target ↔ literal.Means target := by
  constructor
  · rintro ⟨means⟩
    exact means
  · exact .text

theorem names_number_iff {numeral : Numeral} :
    Names (.number numeral) target ↔ ∃ n, numeral.Names n ∧ target = toString n := by
  constructor
  · rintro (_ | ⟨names⟩)
    exact ⟨_, names, rfl⟩
  · rintro ⟨n, names, rfl⟩
    exact .number names

/-! ## What stands around a target -/

/-- An element of a list of checks but for the value that names its target: that of a member of an
object, under the name of the time or under the former one, or the first value of a list. -/
inductive TargetPlace where
  | member (before : List (Quotable × Tree)) (key : Quotable)
      (named : key.Means "target_id" ∨ key.Means "nr_app_id") (after : List (Quotable × Tree))
  | front (further : List Tree)

/-- The element with a value for its target. -/
def TargetPlace.put (place : TargetPlace) (t : Tree) : Tree :=
  match place with
  | .member before key _ after => .object (before ++ (key, t) :: after)
  | .front further => .list (t :: further)

/-- The check with another target. -/
def withTarget (check : Check) (target : String) : Check := { check with target }

/-- The field that the value fills. -/
def targetField : Json.Field Check :=
  .of "target_id" ["nr_app_id"] true readTarget fun target check => check.withTarget target

/-- The rest of a check is settled by what stands around its target. -/
theorem exists_rest (place : TargetPlace) (room : Nat) :
    ∃ rest : Option Check, ∀ t check,
      Makes record.reader (room + 1) (place.put t) (some check) ↔
        ∃ target, Names t target ∧ ∃ other, rest = some other ∧ check = other.withTarget target := by
  have ⟨rest, makes⟩ : ∃ rest : Option Check, ∀ t outcome, Makes targetField.read room t outcome →
      Makes record.reader (room + 1) (place.put t) (outcome.bind fun fill => rest.map fill) := by
    cases place with
    | member before key named after =>
        obtain ⟨name, means, known⟩ :
            ∃ name, key.Means name ∧ record.field? name = some targetField := by
          rcases named with means | means
          · exact ⟨_, means, rfl⟩
          · exact ⟨_, means, rfl⟩
        exact Json.Record.exists_rest_object uniform_fields independent means known before after room
    | front further =>
        exact Json.Record.exists_rest_list uniform_fields independent rfl further room
  refine ⟨rest, fun t check => ?_⟩
  obtain ⟨outcome, read⟩ := uniform_target room t
  have fills : Makes targetField.read room t
      (outcome.map fun target (check : Check) => check.withTarget target) := read.map _
  have reads := makes t _ fills
  have named (target : String) : outcome = some target ↔ Names t target := by
    rw [← makes_target_iff room]
    exact ⟨fun same => same ▸ read, fun h => read.unique h⟩
  simp only [← named]
  constructor
  · intro h
    obtain ⟨fill, filled, further⟩ := Option.bind_eq_some_iff.mp (h.unique reads).symm
    obtain ⟨target, same, rfl⟩ := Option.map_eq_some_iff.mp filled
    obtain ⟨other, present, rfl⟩ := Option.map_eq_some_iff.mp further
    exact ⟨target, same, other, present, rfl⟩
  · rintro ⟨target, rfl, other, rfl, rfl⟩
    exact reads

theorem Names.unique {target' : String} (h : Names t target) (h' : Names t target') :
    target = target' :=
  Option.some.inj ((makes_target_iff 0).mpr h |>.unique ((makes_target_iff 0).mpr h'))

/-- Of values that name the same target the same check is read. -/
theorem makes_put_congr (place : TargetPlace) (h : Names t target) (h' : Names t' target)
    (room : Nat) (check : Check) :
    Makes record.reader (room + 1) (place.put t) (some check) ↔
      Makes record.reader (room + 1) (place.put t') (some check) := by
  obtain ⟨rest, reads⟩ := exists_rest place room
  have only {t : Tree} (h : Names t target) {P : String → Prop} :
      (∃ target, Names t target ∧ P target) ↔ P target :=
    ⟨fun ⟨_, h', holds⟩ => h.unique h' ▸ holds, fun holds => ⟨_, h, holds⟩⟩
  rw [reads, reads, only h, only h']

/-- Where some value is taken for a target every value is that names one, and the check is the same
but for the target. -/
theorem isListedAs_put_iff {place : TargetPlace} (h : IsListedAs (place.put t) check)
    {check' : Check} :
    IsListedAs (place.put t') check' ↔
      ∃ target, Names t' target ∧ check' = check.withTarget target := by
  obtain ⟨rest, reads⟩ := exists_rest place (Json.depthLimit - 2)
  obtain ⟨_, -, other, rfl, rfl⟩ := (reads t check).mp h
  refine (reads t' check').trans (exists_congr fun target => and_congr_right fun _ => ?_)
  constructor
  · rintro ⟨_, ⟨⟩, rfl⟩
    rfl
  · rintro rfl
    exact ⟨other, rfl, rfl⟩

theorem exists_names_of_isListedAs {place : TargetPlace} (h : IsListedAs (place.put t) check) :
    Names t check.target := by
  obtain ⟨rest, reads⟩ := exists_rest place (Json.depthLimit - 2)
  obtain ⟨target, names, other, -, rfl⟩ := (reads t check).mp h
  exact names

/-! ## Lists of checks -/

/-- A list of checks but for the value that names the target of one of them. -/
structure OpenList where
  before : List Tree
  place : TargetPlace
  after : List Tree

/-- Whether a body spells the list with a value for the target. -/
def OpenList.Spelled (list : OpenList) (t : Tree) (body : Octets) : Prop :=
  Padded (Tree.list (list.before ++ list.place.put t :: list.after)).Spells body

theorem forall₂_middle_iff {α β : Type} {R : α → β → Prop} {before after : List α} {a : α}
    {bs : List β} :
    List.Forall₂ R (before ++ a :: after) bs ↔
      ∃ front b back, bs = front ++ b :: back ∧ List.Forall₂ R before front ∧ R a b ∧
        List.Forall₂ R after back := by
  constructor
  · intro h
    induction before generalizing bs with
    | nil =>
        obtain ⟨b, back, first, further, rfl⟩ := List.forall₂_cons_left_iff.mp h
        exact ⟨[], b, back, rfl, .nil, first, further⟩
    | cons a' before ih =>
        obtain ⟨b', bs, first, further, rfl⟩ := List.forall₂_cons_left_iff.mp h
        obtain ⟨front, b, back, rfl, rest⟩ := ih further
        exact ⟨b' :: front, b, back, rfl, .cons first rest.1, rest.2⟩
  · rintro ⟨front, b, back, rfl, first, middle, last⟩
    exact List.rel_append first (.cons middle last)

variable {list : OpenList} {body body' : Octets} {checks : List Check}

/-- The checks of a list are those before the one with the open target, that one, and those after
it. -/
theorem OpenList.decodeList_eq_ok_iff (spelled : list.Spelled t body) :
    decodeList body = .ok checks ↔
      ∃ front check back, checks = front ++ check :: back ∧
        List.Forall₂ IsListedAs list.before front ∧ IsListedAs (list.place.put t) check ∧
        List.Forall₂ IsListedAs list.after back :=
  (Json.decode_spelled_list_iff (Json.Record.uniform_reader uniform_fields) spelled).trans
    forall₂_middle_iff

/-- Lists in which values name the same target are read alike. -/
theorem OpenList.decodeList_congr (h : Names t target) (h' : Names t' target)
    (spelled : list.Spelled t body) (spelled' : list.Spelled t' body') :
    decodeList body = .ok checks ↔ decodeList body' = .ok checks := by
  have same (check : Check) :
      IsListedAs (list.place.put t) check ↔ IsListedAs (list.place.put t') check :=
    makes_put_congr list.place h h' (Json.depthLimit - 2) check
  rw [decodeList_eq_ok_iff spelled, decodeList_eq_ok_iff spelled']
  simp only [same]

/-- A list is refused if a value in it names no target. -/
theorem OpenList.refused_of_no_name (spelled : list.Spelled t body)
    (none : ∀ target, ¬ Names t target) : ∃ e, decodeList body = .error e := by
  cases decoded : decodeList body with
  | error e => exact ⟨e, rfl⟩
  | ok checks =>
      obtain ⟨_, _, _, -, -, listed, -⟩ := (decodeList_eq_ok_iff spelled).mp decoded
      exact absurd (exists_names_of_isListedAs listed) (none _)

/-- Numbers as names of targets. The integers among the numbers are those with neither point nor
exponent. Where a list of checks has a number for a target, it is read only if the number is an
integer other than `-0` from `-2 ^ 63` to `2 ^ 64 - 1`, and the target is the integer in decimal,
which is how the number is spelled. Where a text is taken for a target every such number is, and it
changes nothing but the target; and with a text that means its digits the list is read as the same
checks or refused as well. Numbers with the same decimal text are the same. If the value is neither a
text nor such a number, the whole list is refused. -/
theorem targets_of_numerals :
    (∀ numeral : Numeral, (∃ n, IsInteger numeral.octets n) ↔
      dot ∉ numeral.octets ∧ lowerE ∉ numeral.octets ∧ upperE ∉ numeral.octets) ∧
    (∀ (list : OpenList) (numeral : Numeral) body checks, list.Spelled (.number numeral) body →
      decodeList body = .ok checks →
      ∃ n front check back, IsInteger numeral.octets n ∧ numeral.octets ≠ Octets.ofText "-0" ∧
        -2 ^ 63 ≤ n ∧ n ≤ 2 ^ 64 - 1 ∧ checks = front ++ check :: back ∧
        front.length = list.before.length ∧ check.target = toString n ∧
        Octets.ofText check.target = numeral.octets) ∧
    (∀ (list : OpenList) (literal : Quotable) body front check back,
      list.Spelled (.text literal) body → decodeList body = .ok (front ++ check :: back) →
      front.length = list.before.length → literal.Means check.target ∧
        ∀ (numeral : Numeral) n body', numeral.Names n → list.Spelled (.number numeral) body' →
          decodeList body' = .ok (front ++ check.withTarget (toString n) :: back)) ∧
    (∀ (list : OpenList) (numeral : Numeral) n (literal : Quotable) body body',
      numeral.Names n → literal.Means (toString n) → list.Spelled (.number numeral) body →
      list.Spelled (.text literal) body' → ∀ checks,
      decodeList body = .ok checks ↔ decodeList body' = .ok checks) ∧
    (∀ (numeral numeral' : Numeral) n n', numeral.Names n → numeral'.Names n' →
      toString n = toString n' → n = n') ∧
    (∀ (list : OpenList) t body, (∀ literal, t ≠ .text literal) →
      (∀ numeral n, t = .number numeral → ¬ numeral.Names n) → list.Spelled t body →
      ∃ e, decodeList body = .error e) := by
  refine ⟨Json.exists_isInteger_iff, ?accepted, ?taken, ?alike, ?apart, ?refused⟩
  case accepted =>
    intro list numeral body checks spelled decoded
    obtain ⟨front, check, back, rfl, first, listed, -⟩ :=
      (OpenList.decodeList_eq_ok_iff spelled).mp decoded
    obtain ⟨n, names, target⟩ := names_number_iff.mp (exists_names_of_isListedAs listed)
    exact ⟨n, front, check, back, names.integer, names.notMinusZero, names.low, names.high, rfl,
      first.length_eq.symm, target, target ▸ (Json.Numeral.names_iff.mp names).1.symm⟩
  case taken =>
    intro list literal body front check back spelled decoded length
    obtain ⟨front', check', back', same, first, listed, last⟩ :=
      (OpenList.decodeList_eq_ok_iff spelled).mp decoded
    obtain ⟨rfl, tails⟩ := List.append_inj same (length.trans first.length_eq)
    obtain ⟨rfl, rfl⟩ := List.cons.inj tails
    refine ⟨names_text_iff.mp (exists_names_of_isListedAs listed), ?_⟩
    intro numeral n body' names spelled'
    have listed' := (isListedAs_put_iff listed).mpr ⟨_, .number names, rfl⟩
    exact (OpenList.decodeList_eq_ok_iff spelled').mpr
      ⟨front, _, back, rfl, first, listed', last⟩
  case alike =>
    intro list numeral n literal body body' names means spelled spelled' checks
    exact OpenList.decodeList_congr (.number names) (.text means) spelled spelled'
  case apart =>
    intro numeral numeral' n n' names names' same
    have octets : numeral.octets = numeral'.octets := by
      rw [(Json.Numeral.names_iff.mp names).1, (Json.Numeral.names_iff.mp names').1, same]
    exact names.integer.unique (octets ▸ names'.integer)
  case refused =>
    intro list t body noText noNumber spelled
    refine OpenList.refused_of_no_name spelled fun target names => ?_
    cases names with
    | text _ => exact noText _ rfl
    | number names => exact noNumber _ _ rfl names

namespace Greatest

/-- A list of one check that names its target by the former name. -/
def single : OpenList where
  before := []
  place := .member [] (.written "nr_app_id") (.inr (Quotable.means_written _))
    [(.written "target_credential", .text (.written "k"))]
  after := []

/-- That list with a target. -/
def written (target : Octets) : Octets :=
  Json.writeList
    [Json.writeMembers [("nr_app_id", target), ("target_credential", Json.writeText "k")]]

theorem spelled_written {value : Octets} (spells : t.Spells value) :
    single.Spelled t (written value) := by
  have element : (single.place.put t).Spells
      (Json.writeMembers [("nr_app_id", value), ("target_credential", Json.writeText "k")]) :=
    Json.spells_writeMembers
      (.cons ⟨rfl, spells⟩ (.cons ⟨rfl, Json.spells_writeText "k"⟩ .nil))
  exact ⟨[], _, [], Json.blanks_nil, Json.spells_writeList (.cons element .nil), Json.blanks_nil,
    (List.append_nil _).symm⟩

/-- A number without a sign. -/
def plain (n : Nat) : Numeral := ⟨Json.digitOctets n, Json.isNumber_digitOctets n⟩

theorem names_plain_iff {k : Nat} {n : Int} : (plain k).Names n ↔ n = k ∧ k < 2 ^ 64 := by
  have written : (plain k).octets = Octets.ofText (toString (k : Int)) :=
    (Json.ofText_toString k).symm
  rw [Json.Numeral.names_iff, written]
  constructor
  · rintro ⟨same, -, high⟩
    have integer := (Json.isInteger_written k).1
    rw [same] at integer
    obtain rfl := (Json.isInteger_written n).1.unique integer
    exact ⟨rfl, by omega⟩
  · rintro ⟨rfl, small⟩
    exact ⟨rfl, by omega, by omega⟩

/-- The greatest number of 64 bits is a target, as the text of its digits is, and the number after it
fails the list. -/
theorem targets_of_greatest :
    decodeList (written (Json.digitOctets (2 ^ 64 - 1))) =
        .ok [⟨"18446744073709551615", "k", "", .empty⟩] ∧
      decodeList (written (Json.writeText "18446744073709551615")) =
        .ok [⟨"18446744073709551615", "k", "", .empty⟩] ∧
      ∃ e, decodeList (written (Json.digitOctets (2 ^ 64))) = .error e := by
  obtain ⟨-, -, taken, alike, -, refused⟩ := targets_of_numerals
  have spelled (n : Nat) : single.Spelled (.number (plain n)) (written (Json.digitOctets n)) :=
    spelled_written rfl
  have spelledText (text : String) :
      single.Spelled (.text (.written text)) (written (Json.writeText text)) :=
    spelled_written rfl
  have names : (plain (2 ^ 64 - 1)).Names (2 ^ 64 - 1 : Nat) :=
    names_plain_iff.mpr ⟨rfl, by decide⟩
  have greatest : decodeList (written (Json.digitOctets (2 ^ 64 - 1))) =
      .ok [⟨"18446744073709551615", "k", "", .empty⟩] := by
    have decoded : decodeList (written (Json.writeText "7")) = .ok [⟨"7", "k", "", .empty⟩] :=
      Json.eq_ok (by decide)
    obtain ⟨-, numbers⟩ := taken single _ _ [] _ [] (spelledText "7") decoded rfl
    exact numbers _ _ _ names (spelled (2 ^ 64 - 1))
  refine ⟨greatest, ?text, ?next⟩
  case text =>
    have means : (Quotable.written "18446744073709551615").Means
        (toString ((2 ^ 64 - 1 : Nat) : Int)) := Quotable.means_written _
    exact (alike single _ _ _ _ _ names means (spelled _) (spelledText _) _).mp greatest
  case next =>
    refine refused single _ _ (by rintro _ ⟨⟩) ?_ (spelled (2 ^ 64))
    rintro _ n ⟨⟩ names
    exact absurd (names_plain_iff.mp names).2 (by decide)

end Greatest

end PulseBridge.Check
