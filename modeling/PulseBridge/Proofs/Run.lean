/-!
# Runs

Parties that work at the same time are described by their steps. A step leads from one state to
another and bears a label that tells what happened; a run is a finite sequence of steps, and its
trace is the list of their labels. Statements about every order of steps are statements about
every run.

## Implementation notes

A run grows at its end, so that an invariant relates the trace so far to the state reached. The
other direction, a run cut at a step, is `Run.split` and `Run.split_at`.
-/

namespace PulseBridge

/-- The states that steps lead to from `s`, with the labels of the steps. -/
inductive Run {S E : Type} (step : S → E → S → Prop) (s : S) : List E → S → Prop
  | start : Run step s [] s
  | snoc {trace t e u} (run : Run step s trace t) (last : step t e u) :
      Run step s (trace ++ [e]) u

/-- What a trace of one step tells. -/
theorem filterMap_single {E A : Type} (view : E → Option A) (e : E) :
    [e].filterMap view = (view e).toList := by
  cases h : view e <;> simp [h]

namespace Run

variable {S E T F : Type} {step : S → E → S → Prop}
variable {s t u : S} {e : E} {trace before after : List E}

/-- One step is a run. -/
theorem single (h : step s e t) : Run step s [e] t := Run.snoc .start h

/-- A run can be continued by another one. -/
theorem append (first : Run step s before t) (second : Run step t after u) :
    Run step s (before ++ after) u := by
  induction second with
  | start => simpa using first
  | snoc _ last ih => simpa only [List.append_assoc] using ih.snoc last

/-- A run can begin with one more step. -/
theorem cons (h : step s e t) (rest : Run step t after u) : Run step s (e :: after) u :=
  (single h).append rest

/-- A run without steps stays where it is. -/
theorem eq_of_nil (run : Run step s [] t) : t = s := by
  generalize h : ([] : List E) = trace at run
  cases run with
  | start => rfl
  | snoc => simp at h

/-- A run can be cut wherever its trace can. -/
theorem split (run : Run step s (before ++ after) u) :
    ∃ t, Run step s before t ∧ Run step t after u := by
  generalize h : before ++ after = trace at run
  induction run generalizing after with
  | start =>
      obtain ⟨rfl, rfl⟩ := List.append_eq_nil_iff.mp h
      exact ⟨s, .start, .start⟩
  | @snoc trace t e u run last ih =>
      rcases List.eq_nil_or_concat after with rfl | ⟨init, x, rfl⟩
      · rw [List.append_nil] at h
        exact ⟨u, h ▸ run.snoc last, .start⟩
      · rw [List.concat_eq_append] at h ⊢
        rw [← List.append_assoc] at h
        obtain ⟨htrace, hlast⟩ := List.append_inj' h rfl
        obtain ⟨mid, first, second⟩ := ih htrace
        have hx : x = e := by simpa using hlast
        exact ⟨mid, first, hx ▸ second.snoc last⟩

/-- The step that a label of the trace stands for, with the runs before and after it. -/
theorem split_at (run : Run step s (before ++ e :: after) u) :
    ∃ t t', Run step s before t ∧ step t e t' ∧ Run step t' after u := by
  obtain ⟨t, first, rest⟩ := run.split
  rw [← List.singleton_append] at rest
  obtain ⟨t', one, second⟩ := rest.split
  refine ⟨t, t', first, ?_, second⟩
  generalize h : [e] = trace at one
  cases one with
  | start => simp at h
  | @snoc trace v x w one last =>
      rw [← List.nil_append [e]] at h
      obtain ⟨hnil, hx⟩ := List.append_inj' h rfl
      subst hnil
      have hv := one.eq_of_nil
      have he : e = x := by simpa using hx
      exact hv ▸ he ▸ last

/-- What holds at the beginning and is kept by every step holds after every run. -/
theorem invariant {P : List E → S → Prop} (run : Run step s trace t) (init : P [] s)
    (keep : ∀ trace t e u, Run step s trace t → P trace t → step t e u → P (trace ++ [e]) u) :
    P trace t := by
  induction run with
  | start => exact init
  | snoc run last ih => exact keep _ _ _ _ run ih last

/-- A run of a whole is a run of each of its parts, which takes the steps that concern it. -/
theorem project {part : T → F → T → Prop} (f : S → T) (g : E → Option F)
    (concern : ∀ t e u, step t e u →
      (g e = none ∧ f u = f t) ∨ ∃ e', g e = some e' ∧ part (f t) e' (f u))
    (run : Run step s trace t) : Run part (f s) (trace.filterMap g) (f t) := by
  induction run with
  | start => exact .start
  | @snoc trace t e u _ last ih =>
      rw [List.filterMap_append]
      rcases concern t e u last with ⟨hnone, hsame⟩ | ⟨e', hsome, hstep⟩
      · simpa [hnone, hsame] using ih
      · simpa [hsome] using ih.snoc hstep

end Run

end PulseBridge
