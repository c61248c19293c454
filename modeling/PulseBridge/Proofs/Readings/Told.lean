import PulseBridge.Polling
import PulseBridge.Proofs.Json.Built
import PulseBridge.Proofs.Json.Picked

/-!
# What an answer of the provider is understood as

An answer is understood if it is a document that tells an application, inside an object with no
other member `application`, or figures alone. An application is preferred. An answer that is a
success and is understood gives one heartbeat of each of three figures.

## Main definitions

* `Vitals.IsToldBy`, `Application.IsToldBy`: the figures and the application that a value tells.
* `Reading.IsToldBy`: what a body is understood as.
* `Reading.Names`: the name that the checks of a reading get.
* `PollPlan.Gives`: the heartbeats that an answer gives.

## Main statements

* `Reading.decode_eq_ok_iff`: a body is decoded as what it is understood as.
* `PollPlan.heartbeatsOfAnswer_eq_ok_iff`: an answer is taken for the heartbeats that it gives.
-/

namespace PulseBridge

open Json (Given GivenOr Pick Slot Tree Padded Value fillEach fillEach_needed fillEach_optional)

/-! ## Figures -/

namespace Vitals

/-- The names of the figures. -/
def memberNames : List String :=
  ["response_time", "throughput", "error_rate", "apdex_target", "apdex_score", "host_count",
    "instance_count"]

/-- Whether members give these figures. The first three are needed, and the others are zero where
they are left out. -/
structure IsGivenBy (members : List (String × Value)) (x : Vitals) : Prop where
  responseTime : Given members "response_time" Value.IsNumber x.responseTime
  throughput : Given members "throughput" Value.IsNumber x.throughput
  errorRate : Given members "error_rate" Value.IsNumber x.errorRate
  apdexTarget : GivenOr members "apdex_target" Value.IsNumber 0 x.apdexTarget
  apdexScore : GivenOr members "apdex_score" Value.IsNumber 0 x.apdexScore
  hostCount : GivenOr members "host_count" Value.IsNumber 0 x.hostCount
  instanceCount : GivenOr members "instance_count" Value.IsNumber 0 x.instanceCount

/-- Whether a value is an object, or a list in the place of one, that gives these figures. -/
def IsToldBy (v : Value) (x : Vitals) : Prop :=
  ∃ members, v.HasMembers memberNames members ∧ IsGivenBy members x

theorem commute : slots.Pairwise Slot.Commutes := by
  simp only [slots, List.pairwise_cons, List.forall_mem_cons, List.not_mem_nil, false_implies,
    implies_true, and_true, List.Pairwise.nil]
  and_intros <;> exact Json.Slot.commutes_of fun _ _ _ => rfl

/-- The slots are filled from members that give the figures. -/
theorem fillEach_slots {members : List (String × Value)} {x : Vitals} :
    fillEach members [] slots blank = some x ↔ IsGivenBy members x := by
  have takes := Pick.takes_f64
  constructor
  · intro filled
    obtain ⟨_, responseTime, filled⟩ := (fillEach_needed takes).mp filled
    obtain ⟨_, throughput, filled⟩ := (fillEach_needed takes).mp filled
    obtain ⟨_, errorRate, filled⟩ := (fillEach_needed takes).mp filled
    obtain ⟨_, apdexTarget, filled⟩ := (fillEach_optional takes rfl).mp filled
    obtain ⟨_, apdexScore, filled⟩ := (fillEach_optional takes rfl).mp filled
    obtain ⟨_, hostCount, filled⟩ := (fillEach_optional takes rfl).mp filled
    obtain ⟨_, instanceCount, filled⟩ := (fillEach_optional takes rfl).mp filled
    cases filled
    exact ⟨responseTime, throughput, errorRate, apdexTarget, apdexScore, hostCount, instanceCount⟩
  · intro h
    refine (fillEach_needed takes).mpr ⟨_, h.responseTime, ?_⟩
    refine (fillEach_needed takes).mpr ⟨_, h.throughput, ?_⟩
    refine (fillEach_needed takes).mpr ⟨_, h.errorRate, ?_⟩
    refine (fillEach_optional takes rfl).mpr ⟨_, h.apdexTarget, ?_⟩
    refine (fillEach_optional takes rfl).mpr ⟨_, h.apdexScore, ?_⟩
    refine (fillEach_optional takes rfl).mpr ⟨_, h.hostCount, ?_⟩
    refine (fillEach_optional takes rfl).mpr ⟨_, h.instanceCount, ?_⟩
    rfl

/-- Figures are taken out of exactly the values that tell them. -/
theorem takes_pick : pick.Takes fun v x => IsToldBy v x := by
  intro v x
  rw [pick, Pick.record_eq_some_iff commute (by decide)]
  simp only [fillEach_slots]
  rfl

end Vitals

/-! ## Applications -/

namespace Application

/-- The names of what is told about an application. -/
def memberNames : List String := ["id", "name", "reporting", "application_summary"]

/-- Whether members give this application. Only its figures are needed. -/
structure IsGivenBy (members : List (String × Value)) (a : Application) : Prop where
  id : GivenOr members "id" (Value.OrNull Value.IsCount) none a.id
  name : GivenOr members "name" (Value.OrNull Value.IsText) none a.name
  reporting : GivenOr members "reporting" Value.IsBoolean false a.reporting
  vitals : Given members "application_summary" Vitals.IsToldBy a.vitals

/-- Whether a value is an object, or a list in the place of one, that gives this application. -/
def IsToldBy (v : Value) (a : Application) : Prop :=
  ∃ members, v.HasMembers memberNames members ∧ IsGivenBy members a

theorem commute : slots.Pairwise Slot.Commutes := by
  simp only [slots, List.pairwise_cons, List.forall_mem_cons, List.not_mem_nil, false_implies,
    implies_true, and_true, List.Pairwise.nil]
  and_intros <;> exact Json.Slot.commutes_of fun _ _ _ => rfl

theorem fillEach_slots {members : List (String × Value)} {a : Application} :
    fillEach members [] slots blank = some a ↔ IsGivenBy members a := by
  have takes_id := Pick.takes_u64.nullable nofun
  have takes_name := Pick.takes_text.nullable nofun
  constructor
  · intro filled
    obtain ⟨_, id, filled⟩ := (fillEach_optional takes_id rfl).mp filled
    obtain ⟨_, name, filled⟩ := (fillEach_optional takes_name rfl).mp filled
    obtain ⟨_, reporting, filled⟩ := (fillEach_optional Pick.takes_boolean rfl).mp filled
    obtain ⟨_, vitals, filled⟩ := (fillEach_needed Vitals.takes_pick).mp filled
    cases filled
    exact ⟨id, name, reporting, vitals⟩
  · intro h
    refine (fillEach_optional takes_id rfl).mpr ⟨_, h.id, ?_⟩
    refine (fillEach_optional takes_name rfl).mpr ⟨_, h.name, ?_⟩
    refine (fillEach_optional Pick.takes_boolean rfl).mpr ⟨_, h.reporting, ?_⟩
    refine (fillEach_needed Vitals.takes_pick).mpr ⟨_, h.vitals, ?_⟩
    rfl

/-- An application is taken out of exactly the values that tell it. -/
theorem takes_pick : pick.Takes fun v a => IsToldBy v a := by
  intro v a
  rw [pick, Pick.record_eq_some_iff commute (by decide)]
  simp only [fillEach_slots]
  rfl

end Application

/-! ## Answers -/

namespace Reading

/-- Whether a value is an object with exactly one member `application`, and that tells this
application. -/
def IsNested (v : Value) (a : Application) : Prop :=
  ∃ members inner, v = .object members ∧
    members.filter (·.1 == "application") = [("application", inner)] ∧ a.IsToldBy inner

/-- What a value tells: the application in it, or else figures. -/
inductive IsIn (v : Value) : Reading → Prop
  | application {a : Application} (nested : IsNested v a) : IsIn v (.application a)
  | bare {x : Vitals} (none : ∀ a, ¬ IsNested v a) (told : x.IsToldBy v) : IsIn v (.bare x)

/-- An application is found in exactly the objects that have it as their one member
`application`. -/
theorem takes_pickApplication : pickApplication.Takes IsNested := by
  intro v a
  cases v with
  | object members =>
      rw [pickApplication, Pick.members_object (List.pairwise_singleton _ _) (by decide)]
      simp only [fillEach_needed Application.takes_pick]
      constructor
      · rintro ⟨once, a, ⟨inner, found, told⟩, ⟨⟩⟩
        exact ⟨members, inner, rfl,
          Json.filter_eq_singleton_iff.mpr ⟨once _ (List.mem_singleton_self _), found⟩, told⟩
      · rintro ⟨_, inner, ⟨⟩, alone, told⟩
        obtain ⟨once, found⟩ := Json.filter_eq_singleton_iff.mp alone
        exact ⟨List.forall_mem_singleton.mpr once, a, ⟨inner, found, told⟩, rfl⟩
  | _ => exact ⟨nofun, fun ⟨_, _, same, _⟩ => nomatch same⟩

theorem pick_eq_some_iff {v : Value} {reading : Reading} :
    pick v = some reading ↔ IsIn v reading := by
  rw [pick]
  cases nested : pickApplication v with
  | some a =>
      have isNested := (takes_pickApplication v a).mp nested
      constructor
      · rintro ⟨⟩
        exact .application isNested
      · rintro (isNested' | ⟨none, -⟩)
        · have same := (takes_pickApplication v _).mpr isNested'
          rw [nested] at same
          rw [Option.some.inj same]
        · exact absurd isNested (none a)
  | none =>
      have none (a : Application) : ¬ IsNested v a := fun isNested => by
        rw [(takes_pickApplication v a).mpr isNested] at nested
        cases nested
      rw [Option.map_eq_some_iff]
      constructor
      · rintro ⟨x, told, rfl⟩
        exact .bare none ((Vitals.takes_pick v x).mp told)
      · rintro (isNested | ⟨-, told⟩)
        · exact absurd isNested (none _)
        · exact ⟨_, (Vitals.takes_pick v _).mpr told, rfl⟩

/-- Whether a body is a document that is built as a value, and the value tells this. -/
def IsToldBy (body : Octets) (reading : Reading) : Prop :=
  ∃ (t : Tree) (v : Value),
    Padded t.Spells body ∧ t.Builds Json.depthLimit v ∧ IsIn v reading

theorem decode_eq_ok_iff_pick {body : Octets} {reading : Reading} :
    decode body = .ok reading ↔
      ∃ v, Json.decode Json.readValue body = .ok v ∧ pick v = some reading := by
  rw [decode, Json.decode, Json.decode, reader]
  cases Json.readValue Json.depthLimit body with
  | error fault => simp
  | ok read =>
      obtain ⟨v, rest⟩ := read
      dsimp only
      cases picked : pick v with
      | none =>
          dsimp only
          split <;> simp [picked]
      | some taken =>
          dsimp only
          split <;> simp [picked]

/-- A body is decoded as what it tells. -/
theorem decode_eq_ok_iff {body : Octets} {reading : Reading} :
    decode body = .ok reading ↔ reading.IsToldBy body := by
  rw [decode_eq_ok_iff_pick]
  simp only [Json.decode_readValue_eq_ok_iff, pick_eq_some_iff]
  constructor
  · rintro ⟨v, ⟨t, spells, builds⟩, isIn⟩
    exact ⟨t, v, spells, builds, isIn⟩
  · rintro ⟨t, v, spells, builds, isIn⟩
    exact ⟨v, ⟨t, spells, builds⟩, isIn⟩

/-- The name that a check goes by: the one that the application is told to have if there is a
character in it that is not blank, and otherwise the target. -/
inductive Names (check : Check) : Reading → String → Prop
  | application {a : Application} {name : String} (named : a.name = some name)
      (visible : ∃ c ∈ name.toList, Text.isBlank c = false) : Names check (.application a) name
  | nameless {a : Application}
      (unnamed : ∀ name, a.name = some name → ∀ c ∈ name.toList, Text.isBlank c = true) :
      Names check (.application a) check.target
  | bare (x : Vitals) : Names check (.bare x) check.target

theorem name?_of_blank {a : Application} {name : String} (named : a.name = some name)
    (blank : ∀ c ∈ name.toList, Text.isBlank c = true) : (application a).name? = none := by
  have isBlank : Text.isBlankText name = true := List.all_eq_true.mpr blank
  simp [name?, named, Option.filter, isBlank]

theorem name?_of_visible {a : Application} {name : String} (named : a.name = some name)
    (visible : ∃ c ∈ name.toList, Text.isBlank c = false) :
    (application a).name? = some name := by
  obtain ⟨c, mem, notBlank⟩ := visible
  have isBlank : Text.isBlankText name = false :=
    List.all_eq_false.mpr ⟨c, mem, by simp [notBlank]⟩
  simp [name?, named, Option.filter, isBlank]

theorem name?_of_none {a : Application} (unnamed : a.name = none) :
    (application a).name? = none := by
  rw [name?, unnamed]
  rfl

theorem names_iff {check : Check} {reading : Reading} {name : String} :
    Names check reading name ↔ name = reading.name?.getD check.target := by
  constructor
  · rintro (⟨named, visible⟩ | @⟨a, unnamed⟩ | x)
    · rw [name?_of_visible named visible]
      rfl
    · cases given : a.name with
      | none => rw [name?_of_none given, Option.getD_none]
      | some name => rw [name?_of_blank given (unnamed name given), Option.getD_none]
    · rfl
  · rintro rfl
    cases reading with
    | bare x => exact .bare x
    | application a =>
        cases given : a.name with
        | none =>
            rw [name?_of_none given]
            exact .nameless fun name named => nomatch given.symm.trans named
        | some name =>
            by_cases visible : ∃ c ∈ name.toList, Text.isBlank c = false
            · rw [name?_of_visible given visible]
              exact .application given visible
            · have blank : ∀ c ∈ name.toList, Text.isBlank c = true := by simpa using visible
              rw [name?_of_blank given blank]
              refine .nameless fun name' named => ?_
              cases given.symm.trans named
              exact blank

end Reading

/-! ## Heartbeats -/

/-- One heartbeat of each of three figures. -/
theorem Heartbeat.ofReading_eq (check : Check) (reading : Reading) (ttl : UInt64) {name : String}
    (names : reading.Names check name) :
    ofReading check reading ttl =
      [ ⟨check.routingKey, name ++ ": response time", reading.vitals.responseTime, ttl,
          check.tags.toList⟩,
        ⟨check.routingKey, name ++ ": throughput", reading.vitals.throughput, ttl,
          check.tags.toList⟩,
        ⟨check.routingKey, name ++ ": error rate", reading.vitals.errorRate, ttl,
          check.tags.toList⟩ ] := by
  have labels : ": " ++ Metric.label .responseTime = ": response time" ∧
      ": " ++ Metric.label .throughput = ": throughput" ∧
      ": " ++ Metric.label .errorRate = ": error rate" := by decide
  obtain ⟨h₁, h₂, h₃⟩ := labels
  rw [ofReading, ← Reading.names_iff.mp names, ofVitals]
  simp only [Metric.all, List.map_cons, List.map_nil, ofMetric, String.append_assoc, h₁, h₂, h₃,
    Metric.value]

/-- Whether an answer about a check gives these heartbeats: a success has come as a whole, its body
tells a reading, and they are one heartbeat of each of three figures of it, in this order, under the
name that the check goes by. -/
def PollPlan.Gives (plan : PollPlan) (check : Check) (answer : Except Http.CallError Http.Fetched)
    (heartbeats : List Heartbeat) : Prop :=
  ∃ (fetched : Http.Fetched) (reading : Reading) (name : String), answer = .ok fetched ∧
    200 ≤ fetched.status.code ∧ fetched.status.code ≤ 299 ∧
    reading.IsToldBy fetched.body ∧ reading.Names check name ∧
    heartbeats =
      [ ⟨check.routingKey, name ++ ": response time", reading.vitals.responseTime, plan.ttl,
          check.tags.toList⟩,
        ⟨check.routingKey, name ++ ": throughput", reading.vitals.throughput, plan.ttl,
          check.tags.toList⟩,
        ⟨check.routingKey, name ++ ": error rate", reading.vitals.errorRate, plan.ttl,
          check.tags.toList⟩ ]

namespace PollPlan

variable {plan : PollPlan} {check : Check} {answer : Except Http.CallError Http.Fetched}
variable {heartbeats : List Heartbeat}

/-- An answer is taken for heartbeats if it is a success and its body is decoded. -/
theorem heartbeatsOfAnswer_eq_ok_iff_decode :
    plan.heartbeatsOfAnswer check answer = .ok heartbeats ↔
      ∃ fetched reading, answer = .ok fetched ∧ fetched.status.isSuccess = true ∧
        Reading.decode fetched.body = .ok reading ∧
        heartbeats = Heartbeat.ofReading check reading plan.ttl := by
  cases answer with
  | error e => simp [heartbeatsOfAnswer]
  | ok fetched =>
      cases success : fetched.status.isSuccess with
      | false => simp [heartbeatsOfAnswer, Http.Fetched.requireSuccess, success]
      | true =>
          cases decoded : Reading.decode fetched.body with
          | error e => simp [heartbeatsOfAnswer, Http.Fetched.requireSuccess, success, decoded]
          | ok reading =>
              have result : plan.heartbeatsOfAnswer check (.ok fetched) =
                  .ok (Heartbeat.ofReading check reading plan.ttl) := by
                simp [heartbeatsOfAnswer, Http.Fetched.requireSuccess, success, decoded]
              rw [result]
              constructor
              · intro same
                exact ⟨fetched, reading, rfl, success, decoded, (Except.ok.inj same).symm⟩
              · rintro ⟨_, _, same, -, decoded', rfl⟩
                cases same
                rw [Except.ok.inj (decoded.symm.trans decoded')]

/-- An answer is taken for exactly the heartbeats that it gives. -/
theorem heartbeatsOfAnswer_eq_ok_iff :
    plan.heartbeatsOfAnswer check answer = .ok heartbeats ↔
      plan.Gives check answer heartbeats := by
  rw [heartbeatsOfAnswer_eq_ok_iff_decode]
  constructor
  · rintro ⟨fetched, reading, answered, success, decoded, rfl⟩
    obtain ⟨lower, upper⟩ := Http.Status.isSuccess_iff.mp success
    have names := Reading.names_iff.mpr (rfl : reading.name?.getD check.target = _)
    exact ⟨fetched, reading, _, answered, lower, upper, Reading.decode_eq_ok_iff.mp decoded, names,
      Heartbeat.ofReading_eq check reading plan.ttl names⟩
  · rintro ⟨fetched, reading, name, answered, lower, upper, told, names, rfl⟩
    exact ⟨fetched, reading, answered, Http.Status.isSuccess_iff.mpr ⟨lower, upper⟩,
      Reading.decode_eq_ok_iff.mpr told, (Heartbeat.ofReading_eq check reading plan.ttl names).symm⟩

end PollPlan

end PulseBridge
