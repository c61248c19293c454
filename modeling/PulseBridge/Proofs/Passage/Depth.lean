import PulseBridge.Proofs.Answers
import PulseBridge.Proofs.Json.Numerals
import PulseBridge.Proofs.Passage.Conservation

/-!
# How many alerts are told to wait

Whoever asks about the health of the relay is told how many places of the channel are taken. Those
outside who have not been admitted take no place, so they are accepted and not received, and yet not
told: the number falls short by just as many as they are.

## Main statements

* `told_of_run`: what is told after any run, and by how much it falls short.
* `untold_of_overfull`: a run after which it falls short.
-/

namespace PulseBridge

namespace Relay

variable {now : String} {intake : Intake} {inquiry : Inquiry}

/-- What somebody asks about the health of the relay. -/
structure Inquiry.AsksHealth (inquiry : Inquiry) : Prop where
  method : inquiry.method = "GET"
  path : pathOf inquiry.target = "/health"

/-- The number of places taken is told in decimal, next to two texts. -/
theorem members_of_health (h : inquiry.AsksHealth) :
    (answer now intake inquiry).1.status = 200 ∧
      Json.decode (.object .raw) (answer now intake inquiry).1.body =
        .ok [("status", Json.writeText "ok"), ("timestamp", Json.writeText now),
          ("queued_alerts", Octets.ofText (toString intake.queued))] := by
  have told : (answer now intake inquiry).1 = health now intake := by
    simp [answer, h.path, h.method, show route? "/health" = some .health by decide]
  have number := Json.isNumber_toString intake.queued
  rw [told]
  refine ⟨rfl, Json.decode_object ?_⟩
  rw [List.forall₂_same]
  intro member hmember
  refine ⟨rfl, Json.Passes.reads_raw ?_ 126⟩
  simp only [List.mem_cons, List.not_mem_nil, or_false] at hmember
  rcases hmember with rfl | rfl | rfl
  · exact (Json.isLeaf_writeText "ok").passes
  · exact (Json.isLeaf_writeText now).passes
  · exact number.isLeaf.passes

end Relay

namespace Intake

open Relay (Inquiry Response)

variable {s t : Intake} {trace : List Event} {capacity : Nat}

/-- The numbers of those who came, were received, are told and are outside. -/
theorem Account.length_arrivals (h : Account trace s) :
    s.queued + s.waiting.length + (received trace).length = (arrivals trace).length := by
  have lengths := h.conserved.length_eq
  simp only [present, List.length_append] at lengths
  rw [← lengths, queued, Nat.add_comm]

/-- Every active alert that comes is acknowledged. -/
theorem acknowledged_of_run (run : Run Step s trace t) {inquiry : Inquiry} {response : Response}
    {notices : List Notice} (told : .ask inquiry response notices ∈ trace)
    (brought : inquiry.alert?.isSome = true) : response = .text 200 "OK" := by
  obtain ⟨before, after, rfl⟩ := List.append_of_mem told
  obtain ⟨u, v, -, step, -⟩ := run.split_at
  obtain ⟨alert, halert⟩ := Option.isSome_iff_exists.mp brought
  obtain ⟨brings, fits, decoded, -⟩ := Relay.Inquiry.alert?_eq_some_iff.mp halert
  cases step with
  | ask now => exact Relay.answer_of_decoded brings fits decoded

/-- What is told of the alerts that wait, after any run while somebody receives. Every active alert
that came was acknowledged. The number of places taken is told as it is. Together with those outside
it makes up the alerts that were acknowledged and have not been received; so it is their number just
where nobody waits outside, as is the case unless an alert found the channel full, and it never
exceeds the capacity, however many there are. -/
theorem told_of_run (run : Run Step (start capacity) trace s) :
    (∀ inquiry response notices, .ask inquiry response notices ∈ trace →
      inquiry.alert?.isSome = true → response = .text 200 "OK") ∧
    (∀ now inquiry, inquiry.AsksHealth →
      (Relay.answer now s inquiry).1.status = 200 ∧
        Json.decode (.object .raw) (Relay.answer now s inquiry).1.body =
          .ok [("status", Json.writeText "ok"), ("timestamp", Json.writeText now),
            ("queued_alerts", Octets.ofText (toString s.queued))]) ∧
    s.queued + s.waiting.length + (received trace).length = (arrivals trace).length ∧
    (s.queued + (received trace).length = (arrivals trace).length ↔ s.waiting = []) ∧
    ((∀ e ∈ trace, e.foundFull = false) → s.waiting = []) ∧
    s.queued ≤ capacity := by
  have account := account_of_run run
  have total := account.length_arrivals
  refine ⟨fun _ _ _ => acknowledged_of_run run, fun _ _ => Relay.members_of_health, total, ?_,
    fun unfilled => (account.inside unfilled).2.1, ?_⟩
  · rw [← List.length_eq_zero_iff]
    omega
  · exact capacity_of_run run ▸ account.room

/-- An inquiry about the health of the relay. -/
def checkup : Inquiry := ⟨"GET", "/health", none, []⟩

theorem alert_of_pressing : pressing.alert? = some ⟨some "x", "", "", none, none, []⟩ := by
  decide

/-- The second of two alerts finds the only place taken. Both are acknowledged and neither has been
received, but only one is told. -/
theorem untold_of_overfull :
    ∃ trace s, Run Step (start 1) trace s ∧ s.receiving = true ∧
      (arrivals trace).length = 2 ∧ (received trace).length = 0 ∧ s.queued = 1 ∧
      Json.decode (.object .raw) (Relay.answer "" s checkup).1.body =
        .ok [("status", Json.writeText "ok"), ("timestamp", Json.writeText ""),
          ("queued_alerts", Octets.ofText "1")] := by
  have first := Run.single (@step_of_room (start 1) _ _ "" alert_of_pressing rfl (by decide))
  have run := first.snoc (step_of_full "" alert_of_pressing rfl (by decide))
  have asks : checkup.AsksHealth := ⟨rfl, by decide⟩
  exact ⟨_, _, run, rfl, rfl, rfl, rfl, (Relay.members_of_health asks).2⟩

/-- After the one that has a place has been received, the other may enter and be told. -/
theorem told_of_entered :
    ∃ trace s, Run Step (start 1) trace s ∧ s.waiting = [] ∧ s.queued = 1 ∧
      s.queued + (received trace).length = (arrivals trace).length := by
  have first := Run.single (@step_of_room (start 1) _ _ "" alert_of_pressing rfl (by decide))
  have second := first.snoc (step_of_full "" alert_of_pressing rfl (by decide))
  have third := second.snoc (.receive rfl)
  have run := third.snoc (@Step.allot _ _ 0 rfl)
  exact ⟨_, _, run, rfl, rfl, (told_of_run run).2.2.2.1.mpr rfl⟩

end Intake

end PulseBridge
