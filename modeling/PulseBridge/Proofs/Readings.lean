import PulseBridge.Proofs.Calls.Alike
import PulseBridge.Proofs.Readings.Told

/-!
# What a poll brings

A poll brings heartbeats exactly when the provider's last answer is a plain success that is
understood as an application or as figures alone.

## Main definitions

* `Reading.IsBrought`: what a provider has answered that can be understood.

## Main statements

* `heartbeats_of_answer`: the heartbeats that a poll brings.
-/

namespace PulseBridge

open Json (Value)

section Heartbeats

open Http (Web Sent LastAnswered)

/-- Whether the last of some requests is answered with a success whose body arrives as a whole and
tells this. -/
def Reading.IsBrought (web : Web) (earlier asked : List Sent) (reading : Reading) : Prop :=
  ∃ received body, LastAnswered web earlier asked received ∧
    200 ≤ received.status.code ∧ received.status.code ≤ 299 ∧ received.body = .ok body ∧
    reading.IsToldBy body

variable {web : Web} {plan : PollPlan} {check : Check} {earlier asked : List Sent}

theorem PollPlan.ask_eq (plan : PollPlan) (web : Web) (check : Check) (earlier : List Sent) :
    plan.ask web check earlier =
      (plan.heartbeatsOfAnswer check (Http.call web earlier (plan.request check)).1,
        (Http.call web earlier (plan.request check)).2) := by
  rw [ask]

/-- A poll gives the heartbeats of what its requests bring, and nothing else. -/
theorem PollPlan.ask_eq_ok_iff
    (hlog : (Http.call web earlier (plan.request check)).2 = earlier ++ asked)
    {heartbeats : List Heartbeat} :
    (plan.ask web check earlier).1 = .ok heartbeats ↔
      ∃ reading, Reading.IsBrought web earlier asked reading ∧
        heartbeats = Heartbeat.ofReading check reading plan.ttl := by
  rw [PollPlan.ask_eq, PollPlan.heartbeatsOfAnswer_eq_ok_iff_decode]
  constructor
  · rintro ⟨fetched, reading, answered, success, decoded, rfl⟩
    obtain ⟨received, last, status, body⟩ := (Http.success_iff success hlog).mp answered
    obtain ⟨lower, upper⟩ := Http.Status.isSuccess_iff.mp (status ▸ success)
    exact ⟨reading, ⟨received, _, last, lower, upper, body, Reading.decode_eq_ok_iff.mp decoded⟩,
      rfl⟩
  · rintro ⟨reading, ⟨received, body, last, lower, upper, arrived, told⟩, rfl⟩
    have success : (Http.Fetched.mk received.status body).status.isSuccess = true :=
      Http.Status.isSuccess_iff.mpr ⟨lower, upper⟩
    exact ⟨⟨received.status, body⟩, reading,
      (Http.success_iff success hlog).mpr ⟨received, last, rfl, arrived⟩, success,
      Reading.decode_eq_ok_iff.mpr told, rfl⟩

end Heartbeats

open Http (Web Sent LastAnswered) in
/-- A poll gives something exactly if the last of its requests is answered with a success whose body
arrives as a whole and is a document that tells an application or figures. It is then one heartbeat
of each of three figures, under the name that the check goes by. Otherwise the poll fails and sends
nothing. -/
theorem heartbeats_of_answer (web : Web) (plan : PollPlan) (check : Check) (earlier : List Sent) :
    ∃ asked, (plan.ask web check earlier).2 = earlier ++ asked ∧
      asked.head? = (plan.request check).first? ∧
      (∀ reading, Reading.IsBrought web earlier asked reading →
        ∃ name heartbeats, reading.Names check name ∧
          heartbeats =
            [ ⟨check.routingKey, name ++ ": response time", reading.vitals.responseTime, plan.ttl,
                check.tags.toList⟩,
              ⟨check.routingKey, name ++ ": throughput", reading.vitals.throughput, plan.ttl,
                check.tags.toList⟩,
              ⟨check.routingKey, name ++ ": error rate", reading.vitals.errorRate, plan.ttl,
                check.tags.toList⟩ ] ∧
          (plan.ask web check earlier).1 = .ok heartbeats ∧
          (pollAll web plan true [check] earlier).sent = heartbeats) ∧
      ((∀ reading, ¬ Reading.IsBrought web earlier asked reading) →
        (∃ failure, (plan.ask web check earlier).1 = .error failure) ∧
          (pollAll web plan true [check] earlier).sent = []) := by
  obtain ⟨asked, hlog, hfirst⟩ := Http.requests_of_call (plan.request check) web earlier
  have sent : (pollAll web plan true [check] earlier).sent =
      (Polled.ofAnswer check true (plan.ask web check earlier).1).sent := by
    simp only [pollAll, pollEach, List.nil_append]
  rw [sent]
  refine ⟨asked, by rw [PollPlan.ask_eq, hlog], hfirst, ?_, ?_⟩
  · intro reading brought
    have names := Reading.names_iff.mpr (rfl : reading.name?.getD check.target = _)
    have result := (PollPlan.ask_eq_ok_iff hlog).mpr ⟨reading, brought, rfl⟩
    rw [Heartbeat.ofReading_eq check reading plan.ttl names] at result
    exact ⟨_, _, names, rfl, result, by rw [result]; rfl⟩
  · intro nothing
    cases result : (plan.ask web check earlier).1 with
    | error failure => exact ⟨⟨failure, rfl⟩, rfl⟩
    | ok heartbeats =>
        obtain ⟨reading, brought, -⟩ := (PollPlan.ask_eq_ok_iff hlog).mp result
        exact absurd brought (nothing reading)

namespace Answered

open Http (Web Sent LastAnswered)
open Json (Number)

/-- A plan. -/
def plan : PollPlan := ⟨"http://[::1]/{id}", 60⟩

/-- A check. -/
def check : Check := ⟨"7", "k", "key", .empty⟩

/-- A web that answers every request with the same body. -/
def web (body : Octets) : Web := fun _ _ => .reply ⟨.ok, [], .ok body⟩

/-- An answer with an application and with figures of its own. -/
def nested : Octets := Octets.ofText
  ("\x7b\"application\":\x7b\"name\":\"shop\",\"application_summary\":[1,2,3]\x7d,"
    ++ "\"response_time\":4,\"throughput\":5,\"error_rate\":6\x7d")

/-- An answer with two applications and with figures of its own. -/
def doubled : Octets := Octets.ofText
  ("\x7b\"application\":\x7b\"application_summary\":[1,2,3]\x7d,\"application\":null,"
    ++ "\"response_time\":4,\"throughput\":5,\"error_rate\":6\x7d")

/-- Figures. -/
def vitals (n m k : Int) : Vitals :=
  ⟨(Number.integer n).toFloat, (Number.integer m).toFloat, (Number.integer k).toFloat, 0, 0, 0, 0⟩

/-- What the members of both answers are. -/
def figures : List (String × Value) :=
  [("response_time", .number (.integer 4)), ("throughput", .number (.integer 5)),
    ("error_rate", .number (.integer 6))]

/-- The figures of an application in a list. -/
def summary : String × Value :=
  ("application_summary", .list [.number (.integer 1), .number (.integer 2), .number (.integer 3)])

theorem isToldBy_nested :
    (Reading.application ⟨none, some "shop", false, vitals 1 2 3⟩).IsToldBy nested := by
  rw [← Reading.decode_eq_ok_iff, Reading.decode_eq_ok_iff_pick]
  refine ⟨.object (("application", .object [("name", .text "shop"), summary]) :: figures), ?_, rfl⟩
  rfl

theorem isToldBy_doubled : (Reading.bare (vitals 4 5 6)).IsToldBy doubled := by
  rw [← Reading.decode_eq_ok_iff, Reading.decode_eq_ok_iff_pick]
  refine ⟨.object (("application", .object [summary]) :: ("application", .null) :: figures), ?_,
    rfl⟩
  rfl

theorem not_isToldBy_null (reading : Reading) : ¬ reading.IsToldBy (Octets.ofText "null") := by
  intro told
  have decoded := Reading.decode_eq_ok_iff.mpr told
  have refused : (Reading.decode (Octets.ofText "null")).toOption = none := rfl
  rw [decoded] at refused
  cases refused

/-- A poll sends one request, which is answered. -/
theorem lastAnswered_web {body : Octets} {asked : List Sent}
    (hlog : (plan.ask (web body) check []).2 = [] ++ asked) :
    LastAnswered (web body) [] asked ⟨.ok, [], .ok body⟩ := by
  obtain ⟨out, first⟩ : ∃ out, (plan.request check).first? = some out := by
    apply Option.isSome_iff_exists.mp
    decide
  rw [PollPlan.ask_eq, Http.call_of_success first rfl] at hlog
  obtain rfl : [out] = asked := hlog
  exact Http.lastAnswered_singleton.mpr rfl

/-- The application is preferred to the figures beside it, unless there are two of them, and neither
is found in `null`. -/
theorem heartbeats_of_shop :
    (plan.ask (web nested) check []).1 = .ok
        [ ⟨"key", "shop: response time", (Number.integer 1).toFloat, 60, []⟩,
          ⟨"key", "shop: throughput", (Number.integer 2).toFloat, 60, []⟩,
          ⟨"key", "shop: error rate", (Number.integer 3).toFloat, 60, []⟩ ] ∧
      (plan.ask (web doubled) check []).1 = .ok
        [ ⟨"key", "7: response time", (Number.integer 4).toFloat, 60, []⟩,
          ⟨"key", "7: throughput", (Number.integer 5).toFloat, 60, []⟩,
          ⟨"key", "7: error rate", (Number.integer 6).toFloat, 60, []⟩ ] ∧
      ∃ failure, (plan.ask (web (Octets.ofText "null")) check []).1 = .error failure := by
  obtain ⟨asked, hlog, -, tells, -⟩ := heartbeats_of_answer (web nested) plan check []
  obtain ⟨asked', hlog', -, tells', -⟩ := heartbeats_of_answer (web doubled) plan check []
  obtain ⟨asked'', hlog'', -, -, nothing⟩ :=
    heartbeats_of_answer (web (Octets.ofText "null")) plan check []
  refine ⟨?_, ?_, ?_⟩
  · obtain ⟨name, heartbeats, names, rfl, result, -⟩ := tells _
      ⟨_, nested, lastAnswered_web hlog, by decide, by decide, rfl, isToldBy_nested⟩
    obtain rfl : name = "shop" := Reading.names_iff.mp names
    exact result
  · obtain ⟨name, heartbeats, names, rfl, result, -⟩ := tells' _
      ⟨_, doubled, lastAnswered_web hlog', by decide, by decide, rfl, isToldBy_doubled⟩
    obtain rfl : name = "7" := Reading.names_iff.mp names
    exact result
  · refine (nothing ?_).1
    rintro reading ⟨received, body, last, -, -, arrived, told⟩
    obtain rfl := last.unique (lastAnswered_web hlog'')
    obtain rfl := Except.ok.inj arrived
    exact not_isToldBy_null reading told

end Answered

end PulseBridge
