import PulseBridge.Proofs.Calls.Alike
import PulseBridge.Proofs.MemberOrder

/-!
# A refresh takes all of a list or none of it

A refresh succeeds exactly if the last of its requests is answered with a success whose body arrives
as a whole and spells a list, each element of which is a check. The checks are then those of the
list that can be polled, in their order and as often as they are listed, and nothing of what was
there before. Whatever else comes of the requests, the refresh fails and the checks stay.

## Main definitions

* `Check.IsBlank`: a check that cannot be polled.
* `Brings`: the requests of a refresh bring a list of checks.

## Main statements

* `refresh_of_brought`, `refresh_of_nothing`: what a refresh comes to.
* `refresh_exact`: a refresh takes the whole list or nothing.
-/

namespace PulseBridge

open Http (Web Sent Fetched Reply LastAnswered)
open Json (Makes Tree Padded)

namespace Check

/-- Whether the target or the credential has no character that is not blank. -/
def IsBlank (check : Check) : Prop :=
  (∀ c ∈ check.target.toList, Text.isBlank c = true) ∨
    ∀ c ∈ check.credential.toList, Text.isBlank c = true

theorem isValid_eq_false_iff (check : Check) : check.isValid = false ↔ check.IsBlank := by
  simp only [isValid, IsBlank, Text.isBlankText, Bool.and_eq_false_iff, Bool.not_eq_false',
    List.all_eq_true]

instance (check : Check) : Decidable check.IsBlank :=
  decidable_of_iff _ check.isValid_eq_false_iff

/-- What a value of the grammar is read as where it stands in a list of checks. -/
def IsListedAs (t : Tree) (check : Check) : Prop :=
  Makes record.reader (Json.depthLimit - 1) t (some check)

/-- The checks of a body are those of the list that it spells. -/
theorem decodeList_eq_ok_iff {body : Octets} {listed : List Check} :
    decodeList body = .ok listed ↔
      ∃ ts, Padded (Tree.list ts).Spells body ∧ List.Forall₂ IsListedAs ts listed :=
  Json.decode_list_eq_ok_iff (Json.Record.sound_reader sound_fields)
    (Json.Record.uniform_reader uniform_fields)

end Check

/-- The checks that are kept of a list. -/
theorem keepValid_eq (listed : List Check) :
    keepValid listed = listed.filter fun check => ¬ check.IsBlank := by
  apply List.filter_congr
  intro check _
  rw [Bool.eq_iff_iff, decide_eq_true_iff, ← check.isValid_eq_false_iff, Bool.not_eq_false]

/-- Whether the last of some requests is answered with a success whose body arrives as a whole and
lists these checks. -/
def Brings (web : Web) (earlier asked : List Sent) (listed : List Check) : Prop :=
  ∃ received body ts, LastAnswered web earlier asked received ∧
    200 ≤ received.status.code ∧ received.status.code ≤ 299 ∧ received.body = .ok body ∧
    Padded (Tree.list ts).Spells body ∧ List.Forall₂ Check.IsListedAs ts listed

section Fetching

variable {web : Web} {source : CheckSource} {earlier asked : List Sent}

/-- Fetching the list gives the checks to keep of what the requests bring, and nothing else. -/
theorem CheckSource.fetch_eq_ok_iff
    (hlog : (Http.call web earlier source.request).2 = earlier ++ asked) {checks : List Check} :
    (source.fetch web earlier).1 = .ok checks ↔
      ∃ listed, Brings web earlier asked listed ∧ checks = keepValid listed := by
  rw [fetch_eq, checksOfAnswer_eq_ok]
  constructor
  · rintro ⟨fetched, listed, answered, success, decoded, rfl⟩
    obtain ⟨received, last, status, body⟩ := (Http.success_iff success hlog).mp answered
    obtain ⟨ts, spells, each⟩ := Check.decodeList_eq_ok_iff.mp decoded
    obtain ⟨lower, upper⟩ := Http.Status.isSuccess_iff.mp (status ▸ success)
    exact ⟨listed, ⟨received, _, ts, last, lower, upper, body, spells, each⟩, rfl⟩
  · rintro ⟨listed, ⟨received, body, ts, last, lower, upper, arrived, spells, each⟩, rfl⟩
    have success : (Fetched.mk received.status body).status.isSuccess = true :=
      Http.Status.isSuccess_iff.mpr ⟨lower, upper⟩
    have answered : (Http.call web earlier source.request).1 = .ok ⟨received.status, body⟩ :=
      (Http.success_iff success hlog).mpr ⟨received, last, rfl, arrived⟩
    exact ⟨_, listed, answered, success, Check.decodeList_eq_ok_iff.mpr ⟨ts, spells, each⟩, rfl⟩

theorem log_refreshNow (web : Web) (source : CheckSource) (previous : List Check)
    (earlier : List Sent) :
    ((CheckKeeper.start previous).refreshNow web source earlier).log =
      (Http.call web earlier source.request).2 := by
  simp only [CheckKeeper.refreshNow, CheckKeeper.start, if_true, CheckSource.fetch_eq]

/-- What the timer does to the checks is what a refresh does to them. -/
theorem keeper_tick (web : Web) (source : CheckSource) (previous : List Check)
    (earlier : List Sent) :
    ((CheckKeeper.start previous).tick web source earlier).keeper =
      ((CheckKeeper.start previous).refreshNow web source earlier).keeper := by
  simp only [CheckKeeper.tick, CheckKeeper.refreshNow, CheckKeeper.start, if_true]

/-- A keeper takes over what the requests bring. -/
theorem refresh_of_brought {listed : List Check}
    (hlog : (Http.call web earlier source.request).2 = earlier ++ asked)
    (brought : Brings web earlier asked listed) (previous : List Check) :
    ((CheckKeeper.start previous).refreshNow web source earlier).result =
        .ok (keepValid listed).length ∧
      ((CheckKeeper.start previous).refreshNow web source earlier).keeper =
        .start (keepValid listed) := by
  have fetched := (CheckSource.fetch_eq_ok_iff hlog).mpr ⟨listed, brought, rfl⟩
  simp [CheckKeeper.refreshNow, CheckKeeper.start, fetched, CheckKeeper.reply,
    CheckKeeper.conclude]

/-- A keeper whose requests bring nothing says so and keeps what it has. -/
theorem refresh_of_nothing
    (hlog : (Http.call web earlier source.request).2 = earlier ++ asked)
    (nothing : ∀ listed, ¬ Brings web earlier asked listed) (previous : List Check) :
    (∃ failure, ((CheckKeeper.start previous).refreshNow web source earlier).result =
        .error failure) ∧
      ((CheckKeeper.start previous).refreshNow web source earlier).keeper = .start previous := by
  cases h : (source.fetch web earlier).1 with
  | error failure =>
      obtain ⟨failed, same, -⟩ := CheckKeeper.refreshed_of_failed h (.start previous)
      exact ⟨failed, same⟩
  | ok checks =>
      obtain ⟨listed, brought, -⟩ := (CheckSource.fetch_eq_ok_iff hlog).mp h
      exact absurd brought (nothing listed)

/-- A list with an element that is no check brings nothing. -/
theorem not_brings_of_unread {received : Reply} {body : Octets} {ts : List Tree} {t : Tree}
    (last : LastAnswered web earlier asked received) (arrived : received.body = .ok body)
    (spells : Padded (Tree.list ts).Spells body) (mem : t ∈ ts)
    (unread : ∀ check, ¬ Check.IsListedAs t check) (listed : List Check) :
    ¬ Brings web earlier asked listed := by
  rintro ⟨received', body', ts', last', -, -, arrived', spells', each⟩
  obtain rfl := last.unique last'
  obtain rfl := Except.ok.inj (arrived.symm.trans arrived')
  have uniform := Json.Record.uniform_reader Check.uniform_fields
  exact Json.decode_list_ne_ok uniform spells mem unread listed
    (Check.decodeList_eq_ok_iff.mpr ⟨ts', spells', each⟩)

end Fetching

/-- A refresh takes the whole list or nothing, whatever was there before and whatever comes of its
requests. It succeeds exactly if they bring a list of checks, which is that the last of them is
answered with a status of success and a body that arrives as a whole and spells a list of nothing
but checks. The keeper then has the checks of that list whose target and credential are not blank,
in their order, and the refresh tells their number. Otherwise it tells a failure and the keeper is
the one from before; so it is if a single element of the list is no check. What the timer does to
the checks is the same. -/
theorem refresh_exact (web : Web) (source : CheckSource) (previous : List Check)
    (earlier : List Sent) :
    ∃ asked,
      ((CheckKeeper.start previous).refreshNow web source earlier).log = earlier ++ asked ∧
      asked.head? = source.request.first? ∧
      (∀ n, ((CheckKeeper.start previous).refreshNow web source earlier).result = .ok n ↔
        ∃ listed, Brings web earlier asked listed ∧
          n = (listed.filter fun check => ¬ check.IsBlank).length) ∧
      (∀ listed, Brings web earlier asked listed →
        ((CheckKeeper.start previous).refreshNow web source earlier).keeper =
          .start (listed.filter fun check => ¬ check.IsBlank)) ∧
      ((¬ ∃ listed, Brings web earlier asked listed) →
        (∃ failure, ((CheckKeeper.start previous).refreshNow web source earlier).result =
          .error failure) ∧
        ((CheckKeeper.start previous).refreshNow web source earlier).keeper = .start previous) ∧
      (∀ received body ts, LastAnswered web earlier asked received → received.body = .ok body →
        Padded (Tree.list ts).Spells body → (∃ t ∈ ts, ∀ check, ¬ Check.IsListedAs t check) →
        ¬ ∃ listed, Brings web earlier asked listed) ∧
      ((CheckKeeper.start previous).tick web source earlier).keeper =
        ((CheckKeeper.start previous).refreshNow web source earlier).keeper := by
  obtain ⟨asked, hlog, hfirst⟩ := Http.requests_of_call source.request web earlier
  have log := (log_refreshNow web source previous earlier).trans hlog
  refine ⟨asked, log, hfirst, ?_, ?_, ?_, ?_, keeper_tick web source previous earlier⟩
  · intro n
    constructor
    · intro succeeds
      by_cases brought : ∃ listed, Brings web earlier asked listed
      · obtain ⟨listed, brought⟩ := brought
        have told := (refresh_of_brought hlog brought previous).1
        rw [keepValid_eq] at told
        exact ⟨listed, brought, Except.ok.inj (succeeds.symm.trans told)⟩
      · obtain ⟨⟨failure, failed⟩, -⟩ :=
          refresh_of_nothing hlog (not_exists.mp brought) previous
        cases succeeds.symm.trans failed
    · rintro ⟨listed, brought, rfl⟩
      rw [← keepValid_eq]
      exact (refresh_of_brought hlog brought previous).1
  · intro listed brought
    rw [← keepValid_eq]
    exact (refresh_of_brought hlog brought previous).2
  · intro nothing
    exact refresh_of_nothing hlog (not_exists.mp nothing) previous
  · rintro received body ts last arrived spells ⟨t, mem, unread⟩
    exact not_exists.mpr (not_brings_of_unread last arrived spells mem unread)

namespace Relisted

open Json (writeText writeMembers writeList)

/-- Where the list is published. -/
def source : CheckSource := ⟨"http://[::1]/checks", "key"⟩

/-- A web that answers every request with the same body. -/
def web (body : Octets) : Web := fun _ _ => .reply ⟨.ok, [], .ok body⟩

/-- The check that is known before. -/
def former : Check := ⟨"1", "j", "", .empty⟩

/-- A check that can be polled. -/
def good : Check := ⟨"7", "k", "", .empty⟩

/-- A check whose target is an em space. -/
def idle : Check := ⟨"\u2003", "k", "", .empty⟩

theorem good_not_isBlank : ¬ good.IsBlank := by decide

theorem idle_isBlank : idle.IsBlank := by decide

/-- The members of a check. -/
def members (check : Check) : List (String × String) :=
  [("target_id", check.target), ("target_credential", check.credential)]

/-- What these members spell. -/
def written (check : Check) : Octets :=
  writeMembers ((members check).map fun m => (m.1, writeText m.2))

theorem spells_written (check : Check) :
    (Tree.object ((members check).map fun m => (.written m.1, .text (.written m.2)))).Spells
      (written check) := by
  apply Json.spells_writeMembers
  rw [List.forall₂_map_left_iff, List.forall₂_map_right_iff, List.forall₂_same]
  exact fun m _ => ⟨rfl, Json.spells_writeText m.2⟩

/-- A list with one check twice and one that cannot be polled. -/
def three : Octets := writeList [written good, written idle, written good]

/-- A list with something among its checks that is none. -/
def spoilt : Octets := writeList [written good, Octets.ofText "null", written good]

theorem spells_spoilt :
    ∃ ts, Padded (Tree.list ts).Spells spoilt ∧ .null ∈ ts := by
  have spells := Json.spells_writeList
    (.cons (spells_written good) (.cons (show Tree.null.Spells (Octets.ofText "null") from rfl)
      (.cons (spells_written good) .nil)))
  refine ⟨_, ⟨[], _, [], Json.blanks_nil, spells, Json.blanks_nil, (List.append_nil _).symm⟩, ?_⟩
  exact List.mem_cons_of_mem _ List.mem_cons_self

theorem null_unread (check : Check) : ¬ Check.IsListedAs .null check := by
  intro listed
  have read := listed [] (Octets.ofText "null") [] Json.blanks_nil rfl Json.follows_nil
  have refused : (Check.record.reader (Json.depthLimit - 1)
      ([] ++ (Octets.ofText "null" ++ []))).toOption = none := by
    decide
  rw [refused] at read
  cases read

/-- A refresh sends one request, which is answered. -/
theorem lastAnswered_web {body : Octets} {asked : List Sent} {previous : List Check}
    (hlog : ((CheckKeeper.start previous).refreshNow (web body) source []).log = [] ++ asked) :
    LastAnswered (web body) [] asked ⟨.ok, [], .ok body⟩ := by
  obtain ⟨out, first⟩ : ∃ out, source.request.first? = some out := by
    apply Option.isSome_iff_exists.mp
    decide
  rw [log_refreshNow, Http.call_of_success first rfl] at hlog
  obtain rfl : [out] = asked := hlog
  exact Http.lastAnswered_singleton.mpr rfl

/-- Of three checks the two that can be polled take the place of the former one, and with something
among them that is no check the former one stays. -/
theorem refresh_of_three :
    ((CheckKeeper.start [former]).refreshNow (web three) source []).result = .ok 2 ∧
      ((CheckKeeper.start [former]).refreshNow (web three) source []).keeper =
        .start [good, good] ∧
      (∃ failure, ((CheckKeeper.start [former]).refreshNow (web spoilt) source []).result =
        .error failure) ∧
      ((CheckKeeper.start [former]).refreshNow (web spoilt) source []).keeper =
        .start [former] := by
  obtain ⟨asked, hlog, -, succeeds, kept, -⟩ := refresh_exact (web three) source [former] []
  obtain ⟨asked', hlog', -, -, -, fails, unread, -⟩ :=
    refresh_exact (web spoilt) source [former] []
  have decoded : Check.decodeList three = .ok [good, idle, good] := Json.eq_ok (by decide)
  obtain ⟨ts, spells, each⟩ := Check.decodeList_eq_ok_iff.mp decoded
  have brought : Brings (web three) [] asked [good, idle, good] :=
    ⟨_, three, ts, lastAnswered_web hlog, by decide, by decide, rfl, spells, each⟩
  have blanks : [good, idle, good].filter (fun check => ¬ check.IsBlank) = [good, good] := by
    simp [good_not_isBlank, idle_isBlank]
  obtain ⟨ts', spells', mem⟩ := spells_spoilt
  have nothing := unread _ spoilt ts' (lastAnswered_web hlog') rfl spells' ⟨_, mem, null_unread⟩
  refine ⟨?_, ?_, fails nothing⟩
  · exact (succeeds 2).mpr ⟨_, brought, by rw [blanks]; rfl⟩
  · rw [kept _ brought, blanks]

end Relisted

end PulseBridge
