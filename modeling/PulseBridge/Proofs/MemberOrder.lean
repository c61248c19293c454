import PulseBridge.Proofs.Answers
import PulseBridge.Proofs.Calls.Delivery
import PulseBridge.Proofs.CheckRounds
import PulseBridge.Proofs.Json.Accepted
import PulseBridge.Proofs.Json.Rearranged

/-!
# The order of members is of no account

Checks and alerts are read from objects whose members may stand in any order and with any blanks
between them. Members that nobody knows may stand among them, and those of a check may have their
former names. A member that is given twice, be it under two names, is refused, and then the checks
and the alerts that are kept stay as they were.
-/

namespace PulseBridge

open Json (Uniform Makes Sound Tree Blanks Padded)
open Ascii

/-! ## Checks -/

namespace Check

theorem toOption_readTarget (room : Nat) (s : Octets) :
    (readTarget room s).toOption =
      (Json.readValue room s).toOption.bind fun (v, rest) => (targetText? v).map (·, rest) := by
  rw [readTarget]
  cases Json.readValue room s with
  | error fault => rfl
  | ok read =>
      dsimp only
      cases h : targetText? read.1 <;> simp [Except.toOption, h]

/-- No list and no object names a target. -/
theorem toOption_readTarget_bracket {room : Nat} {b : UInt8} {s tail : Octets}
    (skipped : Json.skipBlanks s = b :: tail) (bracket : b = openBracket ∨ b = openBrace) :
    (readTarget room s).toOption = none := by
  rw [toOption_readTarget, Json.readValue, skipped]
  rcases bracket with rfl | rfl <;> cases room with
  | zero => rfl
  | succ room =>
      change (Except.map _ _).toOption.bind _ = none
      rw [Json.toOption_map, Option.bind_map]
      exact Option.bind_eq_none_iff.mpr fun _ _ => rfl

/-- What names a target is made of a value. -/
theorem makes_target {room : Nat} {t : Tree} {outcome : Option Json.Value}
    (h : Makes Json.readValue room t outcome) :
    Makes readTarget room t (outcome.bind targetText?) := by
  intro before s rest blanks spells follows
  rw [toOption_readTarget, h before s rest blanks spells follows]
  cases outcome <;> rfl

theorem uniform_target : Uniform readTarget := by
  intro room t
  cases t with
  | number numeral =>
      obtain ⟨outcome, makes⟩ := Json.makes_number room numeral
      exact ⟨_, makes_target makes⟩
  | text literal =>
      obtain ⟨outcome, makes⟩ := Json.makes_text room literal
      exact ⟨_, makes_target makes⟩
  | null =>
      refine ⟨none, ?_⟩
      rintro before s rest blanks rfl _
      rw [toOption_readTarget, Json.readValue_scalar (Json.skipBlanks_begun blanks rfl _ rest)
        (by decide) (by decide)]
      rfl
  | boolean value =>
      refine ⟨none, ?_⟩
      cases value <;> rintro before s rest blanks rfl _ <;>
        rw [toOption_readTarget, Json.readValue_scalar (Json.skipBlanks_begun blanks rfl _ rest)
          (by decide) (by decide)] <;>
        rfl
  | list elements =>
      refine ⟨none, ?_⟩
      rintro before s rest blanks ⟨inner, parts, -, -, rfl⟩ _
      exact toOption_readTarget_bracket (Json.skipBlanks_begun blanks rfl _ rest) (.inl rfl)
  | object members =>
      refine ⟨none, ?_⟩
      rintro before s rest blanks ⟨inner, parts, -, -, rfl⟩ _
      exact toOption_readTarget_bracket (Json.skipBlanks_begun blanks rfl _ rest) (.inr rfl)

theorem sound_target : Sound readTarget := by
  intro room s target rest read
  rw [readTarget] at read
  split at read
  · cases read
  · next v rest' value =>
      split at read
      · cases read
        exact Json.sound_readValue room s v _ value
      · cases read

theorem sound_fields : ∀ f ∈ record.fields, Sound f.read := by
  simp only [record, List.forall_mem_cons, List.not_mem_nil, false_implies, implies_true, and_true]
  exact ⟨sound_target.map _, Json.sound_text.map _, Json.sound_text.map _,
    Json.sound_text.list.nullable.map _⟩

theorem uniform_fields : ∀ f ∈ record.fields, Uniform f.read := by
  simp only [record, List.forall_mem_cons, List.not_mem_nil, false_implies, implies_true, and_true]
  exact ⟨uniform_target.map _, Json.uniform_text.map _, Json.uniform_text.map _,
    Json.uniform_text.list.nullable.map _⟩

theorem independent : record.Independent := by
  simp only [Json.Record.Independent, record, List.pairwise_cons, List.forall_mem_cons,
    List.not_mem_nil, false_implies, implies_true, and_true, List.Pairwise.nil]
  and_intros <;> exact Json.Field.commutes_of fun _ _ _ => rfl

end Check

/-! ## Alerts -/

namespace Alert

theorem sound_i64 : Sound Json.Reader.i64 := (Json.sound_number _ _).map _

theorem sound_fields : ∀ f ∈ record.fields, Sound f.read := by
  simp only [record, List.forall_mem_cons, List.not_mem_nil, false_implies, implies_true, and_true]
  exact ⟨Json.sound_text.nullable.map _, Json.sound_text.map _, Json.sound_text.map _,
    sound_i64.nullable.map _, sound_i64.nullable.map _, Json.sound_text.list.map _⟩

theorem uniform_i64 : Uniform Json.Reader.i64 := (Json.uniform_number _ _).map _

theorem uniform_fields : ∀ f ∈ record.fields, Uniform f.read := by
  simp only [record, List.forall_mem_cons, List.not_mem_nil, false_implies, implies_true, and_true]
  exact ⟨Json.uniform_text.nullable.map _, Json.uniform_text.map _, Json.uniform_text.map _,
    uniform_i64.nullable.map _, uniform_i64.nullable.map _, Json.uniform_text.list.map _⟩

theorem independent : record.Independent := by
  simp only [Json.Record.Independent, record, List.pairwise_cons, List.forall_mem_cons,
    List.not_mem_nil, false_implies, implies_true, and_true, List.Pairwise.nil]
  and_intros <;> exact Json.Field.commutes_of fun _ _ _ => rfl

end Alert

/-! ## What is kept -/

section Kept

open Http (Web Sent Fetched)

variable {web : Web} {source : CheckSource} {earlier : List Sent}

/-- An answer that holds no list of checks is a failure. -/
theorem CheckSource.fetch_of_undecoded {fetched : Fetched} {e : Json.Error}
    (answered : (Http.call web earlier source.request).1 = .ok fetched)
    (undecoded : Check.decodeList fetched.body = .error e) :
    ∃ failure, (source.fetch web earlier).1 = .error failure := by
  have result : (source.fetch web earlier).1 = (checksOfAnswer (.ok fetched)).1 := by
    rw [CheckSource.fetch_eq, answered]
  cases h : (source.fetch web earlier).1 with
  | error failure => exact ⟨failure, rfl⟩
  | ok checks =>
      obtain ⟨_, listed, same, -, decoded, -⟩ := checksOfAnswer_eq_ok.mp (result.symm.trans h)
      cases same
      rw [undecoded] at decoded
      cases decoded

/-- A refresh that fails says so and leaves the keeper as it was. -/
theorem CheckKeeper.refreshed_of_failed {failure : Failure}
    (failed : (source.fetch web earlier).1 = .error failure) (keeper : CheckKeeper) :
    (∃ reason, (keeper.refreshNow web source earlier).result = .error reason) ∧
      (keeper.refreshNow web source earlier).keeper = keeper ∧
      (keeper.tick web source earlier).keeper = keeper := by
  cases hrunning : keeper.running with
  | false => simp [refreshNow, tick, hrunning]
  | true => simp [refreshNow, tick, hrunning, failed, reply, conclude]

/-- What is no alert is refused and leaves the intake as it was. -/
theorem Relay.answer_of_refused {inquiry : Inquiry} (h : inquiry.BringsAlert) {e : Json.Error}
    (undecoded : Alert.decode inquiry.body = .error e) (now : String) (intake : Intake) :
    (answer now intake inquiry).1.status =
        (if bodyLimit < inquiry.body.length then 413 else 400) ∧
      (answer now intake inquiry).2.1 = intake := by
  rw [answer_of_bringsAlert h, receiveAlert, undecoded]
  split <;> exact ⟨rfl, rfl⟩

end Kept

/-- How the members of an object are arranged is of no account. Whatever is decoded as a check, as a
list of checks or as an alert spells some tree. An object that is decoded as a check or as an alert
is decoded as the same one with its members in any order, with members among them that nobody knows,
whatever their values, with any blanks between the tokens, and, for a check, with any of its members
under their other names; so are lists of checks. An object that gives a field twice, under the same
name or under two, is refused. A list of checks with such an object in it makes the refresh fail and
leaves the checks as they were, and such an alert leaves the intake as it was. -/
theorem readings_of_members :
    (∀ document check, Json.decode Check.record.reader document = .ok check →
      ∃ t : Tree, Padded t.Spells document) ∧
    (∀ t t' document document', Check.record.Resembles t t' → Padded t.Spells document →
      Padded t'.Spells document' → ∀ check,
      Json.decode Check.record.reader document = .ok check ↔
        Json.decode Check.record.reader document' = .ok check) ∧
    (∀ body checks, Check.decodeList body = .ok checks →
      ∃ ts, Padded (Tree.list ts).Spells body) ∧
    (∀ ts ts' body body', List.Forall₂ Check.record.Resembles ts ts' →
      Padded (Tree.list ts).Spells body → Padded (Tree.list ts').Spells body' → ∀ checks,
      Check.decodeList body = .ok checks ↔ Check.decodeList body' = .ok checks) ∧
    (∀ body alert, Alert.decode body = .ok alert → ∃ t : Tree, Padded t.Spells body) ∧
    (∀ t t' body body', Alert.record.Resembles t t' → Padded t.Spells body →
      Padded t'.Spells body' → ∀ alert,
      Alert.decode body = .ok alert ↔ Alert.decode body' = .ok alert) ∧
    (∀ ms document, Check.record.GivesTwice ms → Padded (Tree.object ms).Spells document →
      ∃ e, Json.decode Check.record.reader document = .error e) ∧
    (∀ ms ts web source earlier fetched keeper, Check.record.GivesTwice ms → .object ms ∈ ts →
      (Http.call web earlier (CheckSource.request source)).1 = .ok fetched →
      Padded (Tree.list ts).Spells fetched.body →
      (∃ failure, (source.fetch web earlier).1 = .error failure) ∧
        (∃ failure, (CheckKeeper.refreshNow web source keeper earlier).result = .error failure) ∧
        (CheckKeeper.refreshNow web source keeper earlier).keeper = keeper ∧
        (CheckKeeper.tick web source keeper earlier).keeper = keeper) ∧
    (∀ ms (inquiry : Relay.Inquiry) now intake, Alert.record.GivesTwice ms → inquiry.BringsAlert →
      Padded (Tree.object ms).Spells inquiry.body →
      (∃ e, Alert.decode inquiry.body = .error e) ∧
        (Relay.answer now intake inquiry).1.status =
          (if Relay.bodyLimit < inquiry.body.length then 413 else 400) ∧
        (Relay.answer now intake inquiry).2.1 = intake) := by
  refine ⟨?_, ?_, ?_, ?_, ?_, ?_, ?_, ?_, ?_⟩
  · intro document check decoded
    exact Json.exists_spelled_of_decode (Json.Record.sound_reader Check.sound_fields) decoded
  · intro t t' document document' same spells spells'
    exact Json.Record.decode_resembling Check.uniform_fields Check.independent same spells spells'
  · intro body checks decoded
    exact Json.exists_spelled_of_decode_list (Json.Record.sound_reader Check.sound_fields) decoded
  · intro ts ts' body body' same spells spells'
    exact Json.Record.decode_list_resembling Check.uniform_fields Check.independent same spells
      spells'
  · intro body alert decoded
    exact Json.exists_spelled_of_decode (Json.Record.sound_reader Alert.sound_fields) decoded
  · intro t t' body body' same spells spells'
    exact Json.Record.decode_resembling Alert.uniform_fields Alert.independent same spells spells'
  · intro ms document twice spells
    exact Json.Record.decode_twice Check.uniform_fields twice spells
  · intro ms ts web source earlier fetched keeper twice mem answered spells
    obtain ⟨e, undecoded⟩ := Json.Record.decode_list_twice Check.uniform_fields twice mem spells
    obtain ⟨failure, failed⟩ := CheckSource.fetch_of_undecoded answered undecoded
    exact ⟨⟨failure, failed⟩, CheckKeeper.refreshed_of_failed failed keeper⟩
  · intro ms inquiry now intake twice brings spells
    obtain ⟨e, undecoded⟩ := Json.Record.decode_twice Alert.uniform_fields twice spells
    exact ⟨⟨e, undecoded⟩, Relay.answer_of_refused brings undecoded now intake⟩

namespace Renamed

open Json (Quotable)

/-- A member whose value is a text. -/
def member (name text : String) : Quotable × Tree := (.written name, .text (.written text))

/-- Members whose values are texts. -/
def members (texts : List (String × String)) : List (Quotable × Tree) :=
  texts.map fun m => member m.1 m.2

/-- An object of such members. -/
def written (texts : List (String × String)) : Octets :=
  Json.writeMembers (texts.map fun m => (m.1, Json.writeText m.2))

theorem spells_members (texts : List (String × String)) :
    Padded (Tree.object (members texts)).Spells (written texts) := by
  have spells : (Tree.object (members texts)).Spells (written texts) := by
    apply Json.spells_writeMembers
    rw [members, List.forall₂_map_left_iff, List.forall₂_map_right_iff, List.forall₂_same]
    exact fun m _ => ⟨rfl, Json.spells_writeText m.2⟩
  exact ⟨[], _, [], by decide, spells, by decide, (List.append_nil _).symm⟩

/-- A list of one element. -/
def listed (element : Octets) : Octets := Json.writeList [element]

theorem spells_listed {t : Tree} {element : Octets} (spells : Padded t.Spells element) :
    Padded (Tree.list [t]).Spells (listed element) :=
  ⟨[], _, [], by decide, ⟨[], [element], by decide, ⟨_, _, spells, rfl, rfl⟩, rfl⟩, by decide,
    (List.append_nil _).symm⟩

/-- The members of a check under current names. -/
def current : List (String × String) := [("target_id", "7"), ("target_credential", "k")]

/-- A member that nobody knows. -/
def unknown : Quotable × Tree := (.written "x", .list [.list []])

/-- The same check under former names, in another order, with a member among its own. -/
def former : List (Quotable × Tree) := [member "nr_api_key" "k", unknown, member "nr_app_id" "7"]

/-- That check as it is spelled with some blanks. -/
def formerText : Octets :=
  Octets.ofText " \x7b \"nr_api_key\" : \"k\",\n\"x\":[[]] ,\"nr_app_id\":\"7\"\x7d\t"

theorem rearranged : Check.record.Rearranged (members current) former := by
  refine ⟨[unknown], [member "nr_app_id" "7", member "nr_api_key" "k"], ?_, ?_, ?_⟩
  · rintro _ (_ | ⟨_, ⟨⟩⟩)
    exact ⟨"x", Quotable.means_written "x", rfl⟩
  · refine .cons (.inr ⟨rfl, "target_id", "nr_app_id", ?_, ?_, rfl⟩)
      (.cons (.inr ⟨rfl, "target_credential", "nr_api_key", ?_, ?_, rfl⟩) .nil) <;>
      exact Quotable.means_written _
  · exact (List.Perm.swap _ _ _).trans (.cons _ (.swap _ _ _))

theorem spells_former : Padded (Tree.object former).Spells formerText := by
  have credential := Json.spellsMember_of (.written "nr_api_key") (Json.spells_writeText "k")
    [space] [space] [space] [] (by decide) (by decide) (by decide) (by decide)
  have other := Json.spellsMember_of (.written "x")
    (Json.spells_writeList (.cons (Json.spells_writeList .nil) .nil))
    [lineFeed] [] [] [space] (by decide) (by decide) (by decide) (by decide)
  have target := Json.spellsMember_of (.written "nr_app_id") (Json.spells_writeText "7")
    [] [] [] [] (by decide) (by decide) (by decide) (by decide)
  exact ⟨[space], _, [tab], by decide,
    ⟨[], _, by decide, ⟨_, _, credential, ⟨_, _, other, ⟨_, _, target, rfl, rfl⟩, rfl⟩, rfl⟩, rfl⟩,
    by decide, rfl⟩

/-- The members of an alert. -/
def alert : List (String × String) := [("check", "disk"), ("org", "MyCo")]

theorem rearranged_alert :
    Alert.record.Rearranged (members alert) (members [("org", "MyCo"), ("check", "disk")]) := by
  refine ⟨[], members alert, by simp, ?_, .swap _ _ _⟩
  exact .cons (.inl rfl) (.cons (.inl rfl) .nil)

/-- A target under both its names. -/
def both : List (String × String) := [("target_id", "7"), ("nr_app_id", "7")]

theorem givesTwice_both : Check.record.GivesTwice (members both) :=
  ⟨_, _, _, ⟨"target_id", Quotable.means_written _, rfl⟩,
    ⟨"nr_app_id", Quotable.means_written _, rfl⟩, List.Sublist.refl _⟩

theorem givesTwice_check :
    Alert.record.GivesTwice (members [("check", "a"), ("org", "b"), ("check", "a")]) :=
  ⟨_, _, _, ⟨"check", Quotable.means_written _, rfl⟩, ⟨"check", Quotable.means_written _, rfl⟩,
    .cons_cons _ (.cons _ (.refl _))⟩

/-- A web that answers every request with the same body. -/
def web (body : Octets) : Http.Web := fun _ _ => .reply ⟨.ok, [], .ok body⟩

/-- Where the list is published. -/
def source : CheckSource := ⟨"http://[::1]/checks", "key"⟩

theorem answered (body : Octets) :
    (Http.call (web body) [] source.request).1 = .ok ⟨.ok, body⟩ := by
  obtain ⟨out, first⟩ : ∃ out, source.request.first? = some out := by
    apply Option.isSome_iff_exists.mp
    decide
  rw [Http.call_of_success first rfl]

/-- An alert that gives its check twice. -/
def twofold : Relay.Inquiry :=
  ⟨"POST", "/pacemaker", none, written [("check", "a"), ("org", "b"), ("check", "a")]⟩

/-- The names of a check do not matter and neither does the order of an alert's members, but what is
given twice is refused. -/
theorem readings_of_renamed :
    Json.decode Check.record.reader formerText = .ok ⟨"7", "k", "", .empty⟩ ∧
    Check.decodeList (listed formerText) = .ok [⟨"7", "k", "", .empty⟩] ∧
    Alert.decode (written [("org", "MyCo"), ("check", "disk")]) =
      .ok ⟨none, "MyCo", "disk", none, none, []⟩ ∧
    (∃ e, Json.decode Check.record.reader (written both) = .error e) ∧
    (∀ keeper : CheckKeeper,
      (keeper.refreshNow (web (listed (written both))) source []).keeper = keeper) ∧
    ∀ intake, (Relay.answer "" intake twofold).2.1 = intake := by
  obtain ⟨-, check, -, list, -, ofAlert, twice, refresh, relay⟩ := readings_of_members
  refine ⟨?check, ?list, ?alert, ?twice, ?refresh, ?relay⟩
  case check =>
    exact (check _ _ _ _ (.object rearranged) (spells_members current) spells_former _).mp
      (Json.eq_ok (by decide))
  case list =>
    exact (list _ _ _ _ (.cons (.object rearranged) .nil) (spells_listed (spells_members current))
      (spells_listed spells_former) _).mp (Json.eq_ok (by decide))
  case alert =>
    exact (ofAlert _ _ _ _ (.object rearranged_alert) (spells_members alert) (spells_members _)
      _).mp (Json.eq_ok (by decide))
  case twice => exact twice _ _ givesTwice_both (spells_members both)
  case refresh =>
    intro keeper
    have failed := refresh _ _ _ source [] _ keeper givesTwice_both List.mem_cons_self (answered _)
      (spells_listed (spells_members both))
    exact failed.2.2.1
  case relay =>
    intro intake
    exact (relay _ twofold "" intake givesTwice_check ⟨rfl, by decide⟩ (spells_members _)).2.2

end Renamed

end PulseBridge
