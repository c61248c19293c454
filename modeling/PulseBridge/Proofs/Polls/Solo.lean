import PulseBridge.Proofs.Calls.Course
import PulseBridge.Proofs.Polls.Schedule

/-!
# Polls on their own

Where the answers of the provider depend on nothing but the request, what a check comes to does not
depend on what has been asked before. A tick over one check alone shows what that is: the heartbeats
of its reading, or nothing. Polling several checks one after the other gives all that each of them
gives alone.
-/

namespace PulseBridge

open Http (Answer CallError Fetched Sent Web)

/-! ## Reports -/

namespace TickReport

/-- The report on polls of which all that count have given equally many heartbeats. -/
theorem foldl_record {n : Nat} (counts : List (Option Nat))
    (h : ∀ count ∈ counts, count = none ∨ count = some n) (report : TickReport) :
    counts.foldl record report =
      ⟨report.polled + counts.length, report.succeeded + counts.countP (·.isSome),
        report.heartbeats + n * counts.countP (·.isSome)⟩ := by
  induction counts generalizing report with
  | nil => rfl
  | cons count counts ih =>
      obtain ⟨hcount, hcounts⟩ := List.forall_mem_cons.mp h
      rw [List.foldl_cons, ih hcounts]
      rcases hcount with rfl | rfl
      · have same : (none :: counts).countP (·.isSome) = counts.countP (·.isSome) := rfl
        rw [same]
        simp only [record, List.length_cons, mk.injEq, and_true]
        omega
      · have more : (some n :: counts).countP (·.isSome) = counts.countP (·.isSome) + 1 :=
          List.countP_cons_of_pos rfl
        rw [more]
        simp only [record, List.length_cons, mk.injEq, Nat.mul_add]
        omega

end TickReport

/-! ## Polls -/

/-- The heartbeats that an answer gives, none if it is not good. -/
def PollPlan.given (plan : PollPlan) (check : Check) (answer : Except CallError Fetched) :
    List Heartbeat :=
  (plan.stageAfter check answer).left

/-- The number that a poll of so many heartbeats counts: it counts if it has sent one of each
metric. -/
def countOf (sent : List Heartbeat) : Option Nat :=
  if sent.length = Metric.all.length then some Metric.all.length else none

/-- A tick over one check, while somebody takes heartbeats. -/
def solo (reply : Sent → Answer) (plan : PollPlan) (check : Check) : Ticked :=
  pollAll (.steady reply) plan true [check] []

/-- What is asked of a provider is no post. -/
theorem PollPlan.method_request (plan : PollPlan) (check : Check) :
    (plan.request check).method ≠ "POST" :=
  Http.Request.ne_post_of_get rfl

/-- How the provider answers about a check. -/
def providerAnswer (reply : Sent → Answer) (plan : PollPlan) (check : Check) :
    Except CallError Fetched :=
  (Http.call (.steady reply) [] (plan.request check)).1

namespace PollPlan

variable {plan : PollPlan} {check : Check} {answer : Except CallError Fetched}
variable {heartbeats : List Heartbeat}

/-- What an answer gives, or nothing if it gives nothing. -/
theorem given_eq (plan : PollPlan) (check : Check) (answer : Except CallError Fetched) :
    (∀ heartbeats, plan.Gives check answer heartbeats → plan.given check answer = heartbeats) ∧
      (plan.Gives check answer (plan.given check answer) ∨
        plan.given check answer = [] ∧ ∀ heartbeats, ¬ plan.Gives check answer heartbeats) := by
  simp only [← heartbeatsOfAnswer_eq_ok_iff]
  refine ⟨fun heartbeats good => left_stageAfter good, ?_⟩
  cases good : plan.heartbeatsOfAnswer check answer with
  | error failure =>
      right
      rw [given, stageAfter, good]
      refine ⟨rfl, fun heartbeats other => ?_⟩
      cases other
  | ok heartbeats =>
      left
      rw [given, left_stageAfter good]

/-- While somebody takes heartbeats, a poll sends what its answer gives and counts accordingly. -/
theorem polled_eq (plan : PollPlan) (check : Check) (answer : Except CallError Fetched) :
    (Polls.polled plan true check answer).sent = plan.given check answer ∧
      (Polls.polled plan true check answer).count = countOf (plan.given check answer) := by
  cases good : plan.heartbeatsOfAnswer check answer with
  | error failure =>
      simp [Polls.polled, Polled.ofAnswer, given, stageAfter, good, countOf, Metric.all]
  | ok heartbeats =>
      rw [Polls.polled, given, left_stageAfter good, good, countOf, if_pos (length_of_good good),
        ← length_of_good good]
      exact ⟨rfl, rfl⟩

end PollPlan

section Solo

variable (reply : Sent → Answer) (plan : PollPlan)

/-- Whatever has been asked before, the provider answers about a check as it always does. -/
theorem call_request {web : Web} {log earlier : List Sent} (fetches : web.FetchesAre log reply)
    (hlog : log <+: earlier) (check : Check) :
    (Http.call web earlier (plan.request check)).1 = providerAnswer reply plan check :=
  Http.call_of_fetches fetches hlog (plan.method_request check)

/-- Polling checks one after the other gives what each of them gives. -/
theorem pollEach_of_fetches {web : Web} {log : List Sent} (fetches : web.FetchesAre log reply)
    (checks : List Check) (done : Ticked) (hlog : log <+: done.log) :
    (pollEach web plan true checks done).sent =
        done.sent ++
          checks.flatMap (fun check => plan.given check (providerAnswer reply plan check)) ∧
      (pollEach web plan true checks done).report =
        (checks.map fun check => countOf (plan.given check (providerAnswer reply plan check))).foldl
          TickReport.record done.report := by
  induction checks generalizing done with
  | nil => exact ⟨(List.append_nil _).symm, rfl⟩
  | cons check checks ih =>
      obtain ⟨hsent, hcount⟩ := plan.polled_eq check (providerAnswer reply plan check)
      obtain ⟨more, hmore, -⟩ :=
        Http.call_posts_nothing (plan.method_request check) web done.log
      rw [Polls.pollEach_cons, call_request reply plan fetches hlog]
      obtain ⟨hrest, hreport⟩ := ih (Polls.after done
        (Polls.polled plan true check (providerAnswer reply plan check))
        (Http.call web done.log (plan.request check)).2) (by
          rw [Polls.after, hmore]
          exact hlog.trans (List.prefix_append ..))
      constructor
      · rw [hrest, List.flatMap_cons, ← List.append_assoc, Polls.after, hsent]
      · rw [hreport, List.map_cons, List.foldl_cons, Polls.after, hcount]

/-- What a check comes to alone. -/
theorem solo_eq (check : Check) :
    (solo reply plan check).sent = plan.given check (providerAnswer reply plan check) ∧
      (solo reply plan check).report =
        TickReport.empty.record (countOf (solo reply plan check).sent) := by
  obtain ⟨hsent, hreport⟩ := pollEach_of_fetches reply plan
    (Web.fetchesAre_steady reply []) [check] ⟨.empty, [], [], []⟩ (List.nil_prefix)
  have same : (solo reply plan check).sent =
      plan.given check (providerAnswer reply plan check) := by
    rw [solo, pollAll, hsent]
    simp
  refine ⟨same, ?_⟩
  rw [same, solo, pollAll, hreport]
  simp only [List.map_cons, List.map_nil, List.foldl_cons, List.foldl_nil]

theorem countOf_cases (sent : List Heartbeat) :
    countOf sent = none ∨ countOf sent = some Metric.all.length := by
  unfold countOf
  split
  · exact .inr rfl
  · exact .inl rfl

/-- A check succeeds alone if it gives a heartbeat of each metric. -/
theorem succeeded_solo (check : Check) :
    ((solo reply plan check).report.succeeded == 1) =
      (countOf (solo reply plan check).sent).isSome := by
  rw [(solo_eq reply plan check).2]
  cases countOf (solo reply plan check).sent <;> rfl

/-- A check gives alone what the provider's answer about it gives, and succeeds if that is
anything. -/
theorem gives_iff_succeeded (check : Check) :
    ((solo reply plan check).report.succeeded = 1 ↔
        ∃ heartbeats, plan.Gives check (providerAnswer reply plan check) heartbeats) ∧
      (∀ heartbeats, plan.Gives check (providerAnswer reply plan check) heartbeats →
        (solo reply plan check).sent = heartbeats) ∧
      ((∀ heartbeats, ¬ plan.Gives check (providerAnswer reply plan check) heartbeats) →
        (solo reply plan check).sent = []) := by
  obtain ⟨gives, all⟩ := plan.given_eq check (providerAnswer reply plan check)
  rw [← beq_iff_eq, succeeded_solo, (solo_eq reply plan check).1]
  rcases all with given | ⟨nothing, none⟩
  · have three := PollPlan.length_of_good (PollPlan.heartbeatsOfAnswer_eq_ok_iff.mpr given)
    refine ⟨⟨fun _ => ⟨_, given⟩, fun _ => ?_⟩, gives, fun none => absurd given (none _)⟩
    rw [countOf, if_pos three]
    rfl
  · refine ⟨⟨fun some => ?_, fun ⟨_, given⟩ => absurd given (none _)⟩, gives, fun _ => nothing⟩
    rw [nothing] at some
    cases some

/-- Polling checks one after the other comes to what each of them comes to alone. -/
theorem pollAll_steady (checks : List Check) (earlier : List Sent) :
    (pollAll (.steady reply) plan true checks earlier).sent =
        checks.flatMap (fun check => (solo reply plan check).sent) ∧
      (pollAll (.steady reply) plan true checks earlier).report =
        ⟨checks.length, checks.countP fun check => (solo reply plan check).report.succeeded == 1,
          Metric.all.length *
            checks.countP fun check => (solo reply plan check).report.succeeded == 1⟩ := by
  obtain ⟨hsent, hreport⟩ := pollEach_of_fetches reply plan
    (Web.fetchesAre_steady reply []) checks ⟨.empty, [], [], earlier⟩ (List.nil_prefix)
  simp only [← (solo_eq reply plan _).1] at hsent hreport
  have counted : (checks.map fun check => countOf (solo reply plan check).sent).countP (·.isSome) =
      checks.countP fun check => (solo reply plan check).report.succeeded == 1 := by
    rw [List.countP_map]
    apply List.countP_congr
    intro check _
    rw [succeeded_solo, Function.comp_apply]
  constructor
  · rw [pollAll, hsent, List.nil_append]
  · rw [pollAll, hreport, TickReport.foldl_record (n := Metric.all.length), counted]
    · simp [TickReport.empty]
    · intro count hcount
      obtain ⟨check, -, rfl⟩ := List.mem_map.mp hcount
      exact countOf_cases _

end Solo

end PulseBridge
