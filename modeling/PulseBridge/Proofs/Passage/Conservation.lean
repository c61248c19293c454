import Mathlib.Data.List.Perm.Basic
import PulseBridge.Proofs.Passage

/-!
# No alert is lost or received twice

Every active alert that came stands in the channel, is outside or has been received. Whatever
overtakes whatever, alerts leave the channel in the order in which they entered it, and those that
never were outside entered it in the order in which they came.
-/

namespace PulseBridge

namespace Intake

open Relay (Inquiry)

variable {s t : Intake} {e : Event} {trace : List Event} {capacity : Nat}

/-- The alerts that are in the channel or outside. -/
def present (s : Intake) : List Alert := s.queue ++ s.admitted ++ s.waiting

/-- Taking one out of a list and putting it elsewhere loses nothing. -/
theorem perm_eraseIdx {α : Type} {l : List α} {i : Nat} {a : α} (h : l[i]? = some a) :
    (a :: l.eraseIdx i).Perm l := by
  obtain ⟨hi, rfl⟩ := List.getElem?_eq_some_iff.mp h
  exact List.getElem_cons_eraseIdx_perm hi

/-- No step loses an alert or makes one. -/
theorem Move.conserves (move : Move s e t) :
    (e.received?.toList ++ t.present).Perm (s.present ++ e.arrived?.toList) := by
  cases move with
  | pass nothing => simp [Event.received?, Event.arrived?, nothing]
  | @direct inquiry response alert brought =>
      simp only [Event.received?, Event.arrived?, brought, present, Option.toList_none,
        Option.toList_some, List.nil_append, List.append_assoc]
      refine List.Perm.append_left _ ?_
      rw [← List.append_assoc s.admitted]
      exact List.perm_append_comm
  | defer brought => simp [Event.received?, Event.arrived?, brought, present]
  | @allot i alert found =>
      have moved : (s.admitted ++ alert :: s.waiting.eraseIdx i).Perm (s.admitted ++ s.waiting) :=
        (perm_eraseIdx found).append_left _
      simpa [Event.received?, Event.arrived?, present] using moved.append_left s.queue
  | @enter i alert found =>
      have moved : (alert :: s.admitted.eraseIdx i ++ s.waiting).Perm (s.admitted ++ s.waiting) :=
        (perm_eraseIdx found).append_right _
      simpa [Event.received?, Event.arrived?, present] using moved.append_left s.queue
  | receive first => simp [Event.received?, Event.arrived?, present, first]

/-- The channel is first in, first out. -/
theorem Move.keeps_order (move : Move s e t) :
    s.queue ++ e.entered?.toList.map Prod.fst = e.received?.toList ++ t.queue := by
  cases move with
  | pass nothing =>
      simp [Event.entered?, Event.direct?, Event.arrived?, Event.received?, nothing]
  | direct brought =>
      simp [Event.entered?, Event.direct?, Event.arrived?, Event.foundFull, Event.received?,
        brought]
  | defer => simp [Event.entered?, Event.direct?, Event.foundFull, Event.received?]
  | allot => simp [Event.entered?, Event.direct?, Event.arrived?, Event.received?]
  | enter => simp [Event.entered?, Event.received?]
  | receive first =>
      simp [Event.entered?, Event.direct?, Event.arrived?, Event.received?, first]

/-- No more places are taken than there are. -/
theorem Move.keeps_room (move : Move s e t) (room : s.queued ≤ s.capacity) :
    t.queued ≤ t.capacity := by
  unfold queued at room ⊢
  cases move with
  | pass | defer => exact room
  | direct _ free | allot _ free =>
      simp only [queued, List.length_append, List.length_singleton] at free ⊢
      omega
  | enter found =>
      have hi := (List.getElem?_eq_some_iff.mp found).1
      simp only [List.length_append, List.length_singleton, List.length_eraseIdx_of_lt hi]
      omega
  | receive first =>
      simp only [first, List.length_cons] at room ⊢
      omega

/-- Nobody gets outside but by finding the channel full, and so nobody enters from there. -/
theorem Move.keeps_inside (move : Move s e t) (unfilled : e.foundFull = false)
    (admitted : s.admitted = []) (waiting : s.waiting = []) :
    t.admitted = [] ∧ t.waiting = [] ∧ e.entered?.map Prod.fst = e.arrived? := by
  cases move with
  | pass nothing =>
      exact ⟨admitted, waiting, by simp [Event.entered?, Event.direct?, Event.arrived?, nothing]⟩
  | direct brought =>
      refine ⟨admitted, waiting, ?_⟩
      simp [Event.entered?, Event.direct?, Event.arrived?, Event.foundFull, brought]
  | receive => exact ⟨admitted, waiting, rfl⟩
  | defer => simp [Event.foundFull] at unfilled
  | allot found => simp [waiting] at found
  | enter found => simp [admitted] at found

theorem Move.capacity_eq (move : Move s e t) : t.capacity = s.capacity := by
  cases move <;> rfl

/-- What the trace so far says of the state. -/
structure Account (trace : List Event) (s : Intake) : Prop where
  receiving : s.receiving = true
  conserved : (received trace ++ s.present).Perm (arrivals trace)
  order : (entered trace).map Prod.fst = received trace ++ s.queue
  room : s.queued ≤ s.capacity
  inside : (∀ e ∈ trace, e.foundFull = false) →
    s.admitted = [] ∧ s.waiting = [] ∧ (entered trace).map Prod.fst = arrivals trace

theorem account_start : Account [] (start capacity) where
  receiving := rfl
  conserved := .refl _
  order := rfl
  room := Nat.zero_le _
  inside := fun _ => ⟨rfl, rfl, rfl⟩

/-- Every step keeps the account. -/
theorem Account.step (h : Account trace s) (step : Step s e t) : Account (trace ++ [e]) t := by
  have move := step.move h.receiving
  constructor
  case receiving => cases move <;> exact h.receiving
  case conserved =>
      rw [received_append, received_singleton, arrivals_append, arrivals_singleton,
        List.append_assoc]
      calc
        (received trace ++ (e.received?.toList ++ t.present)).Perm
            (received trace ++ (s.present ++ e.arrived?.toList)) := move.conserves.append_left _
        _ = (received trace ++ s.present) ++ e.arrived?.toList := (List.append_assoc ..).symm
        List.Perm _ (arrivals trace ++ e.arrived?.toList) := h.conserved.append_right _
  case order =>
      rw [entered_append, entered_singleton, received_append, received_singleton, List.map_append,
        h.order, List.append_assoc, move.keeps_order, List.append_assoc]
  case room => exact move.keeps_room h.room
  case inside =>
      intro unfilled
      obtain ⟨admitted, waiting, hdirect⟩ :=
        h.inside fun e he => unfilled e (List.mem_append_left _ he)
      obtain ⟨admitted, waiting, hentered⟩ :=
        move.keeps_inside (unfilled e (by simp)) admitted waiting
      refine ⟨admitted, waiting, ?_⟩
      rw [entered_append, entered_singleton, arrivals_append, arrivals_singleton, List.map_append,
        hdirect, ← hentered]
      cases e.entered? <;> rfl

/-- The account is right after every run. -/
theorem account_of_run (run : Run Step (start capacity) trace s) : Account trace s := by
  apply run.invariant account_start
  intro trace s e t _ h step
  exact h.step step

theorem capacity_of_run (run : Run Step (start capacity) trace s) : s.capacity = capacity := by
  induction run with
  | start => rfl
  | snoc run last ih =>
      have move := last.move (account_of_run run).receiving
      rw [move.capacity_eq, ih]

/-- What has been received entered the channel first. -/
theorem Account.received_eq (h : Account trace s) :
    ((entered trace).take (received trace).length).map Prod.fst = received trace := by
  rw [List.map_take, h.order]
  exact List.take_left

/-- Those received that never were outside are received in the order in which they came. -/
theorem directs_received (trace : List Event) (n : Nat) :
    (((entered trace).take n).filter Prod.snd).map Prod.fst <+: directs trace := by
  rw [← entered_filter]
  exact ((List.take_prefix n (entered trace)).filter Prod.snd).map Prod.fst

/-- No alert is lost or received twice, whatever comes and in whatever order those outside enter. -/
theorem alerts_of_run (run : Run Step (start capacity) trace s) :
    -- Each active alert is in the channel, outside or received, and nothing else is.
    (received trace ++ s.queue ++ (s.admitted ++ s.waiting)).Perm (arrivals trace) ∧
    -- An inquiry that brings no active alert changes nothing.
    (∀ inquiry response notices t, inquiry.alert? = none →
      Step s (.ask inquiry response notices) t → t = s) ∧
    s.queue.length ≤ capacity ∧
    -- Those that were not outside are received in the order of their inquiries.
    ((entered trace).take (received trace).length).map Prod.fst = received trace ∧
    (((entered trace).take (received trace).length).filter Prod.snd).map Prod.fst <+:
      directs trace ∧
    -- Unless one finds the channel full, they are received in the order in which they came.
    ((∀ e ∈ trace, e.foundFull = false) → received trace <+: arrivals trace) := by
  have account := account_of_run run
  refine ⟨?_, ?_, ?_, account.received_eq, directs_received trace _, ?_⟩
  · simpa only [present, List.append_assoc] using account.conserved
  · intro inquiry response notices t nothing step
    have move := step.move account.receiving
    cases move with
    | pass => rfl
    | direct brought | defer brought => simp [nothing] at brought
  · calc
      s.queue.length ≤ s.queued := Nat.le_add_right _ _
      _ ≤ s.capacity := account.room
      _ = capacity := capacity_of_run run
  · intro unfilled
    obtain ⟨_, _, hentered⟩ := account.inside unfilled
    rw [← hentered, account.order]
    exact List.prefix_append _ _

/-- An inquiry that brings an active alert. -/
def pressing : Inquiry :=
  ⟨"POST", "/pacemaker", none, Octets.ofText "\x7b\"state\":\"x\"\x7d"⟩

/-- The second of two alerts finds the only place taken and waits, while the first is received. -/
theorem alerts_of_deferred_run :
    ∃ trace s alert, Run Step (start 1) trace s ∧ received trace = [alert] ∧
      s.waiting = [alert] ∧ (received trace ++ s.queue ++ (s.admitted ++ s.waiting)).Perm
        (arrivals trace) := by
  have brought : pressing.alert? = some ⟨some "x", "", "", none, none, []⟩ := by decide
  have first := Run.single (@step_of_room (start 1) _ _ "" brought rfl (by decide))
  have second := first.snoc (step_of_full "" brought rfl (by decide))
  have run := second.snoc (.receive rfl)
  exact ⟨_, _, _, run, rfl, rfl, (alerts_of_run run).1⟩

end Intake

end PulseBridge
