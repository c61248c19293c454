import PulseBridge.Proofs.Json.Rearranged

/-!
# One field of a record by itself

What stands around the value of a field settles the rest of the record, whatever the value is: the
record is the rest with the field filled, or there is none if the value is refused or the rest is.
The value may be that of a member anywhere in an object, or the first one of a list.

## Main statements

* `Record.exists_rest_object`, `Record.exists_rest_list`: the rest of a record, and what is read with
  a value for the field.
-/

namespace PulseBridge.Json.Record

variable {σ : Type} {r : Record σ} {f : Field σ} {fields : List (Field σ)} {room : Nat}

/-- What further members make of a record may be made before or after something else is done to it,
if they are exchangeable with that. A member of a field that has been seen need not be. -/
theorem gather_commute {effects : List (Effect σ)} {g : σ → σ} {seen : List String} {value : σ}
    (h : ∀ name fill, .fills name fill ∈ effects → name ∉ seen → Function.Commute fill g) :
    r.gather effects seen (g value) = (r.gather effects seen value).map g := by
  induction effects generalizing seen value with
  | nil =>
      rw [gather, gather, apply_ite (Option.map g)]
      rfl
  | cons effect effects ih =>
      cases effect with
      | refused => rfl
      | passed => exact ih fun name fill mem => h name fill (List.mem_cons_of_mem _ mem)
      | fills name fill =>
          rw [gather, gather, Effect.andThen, Effect.andThen]
          split_ifs with again
          · rfl
          · have commute : Function.Commute fill g :=
              h name fill List.mem_cons_self (by simpa using again)
            rw [commute.eq]
            refine ih fun name' fill' mem unseen => ?_
            exact h name' fill' (List.mem_cons_of_mem _ mem) (List.not_mem_of_not_mem_cons unseen)

/-- A member of an object fills the rest of the record, which is settled by the other members. -/
theorem exists_rest_object (uniform : ∀ f ∈ r.fields, Uniform f.read)
    (independent : r.Independent) {key : Quotable} {name : String} (means : key.Means name)
    (known : r.field? name = some f) (before after : List (Quotable × Tree)) (room : Nat) :
    ∃ rest : Option σ, ∀ t outcome, Makes f.read room t outcome →
      Makes r.reader (room + 1) (.object (before ++ (key, t) :: after))
        (outcome.bind fun fill => rest.map fill) := by
  obtain ⟨effects, has⟩ := exists_effects uniform room before
  obtain ⟨effects', has'⟩ := exists_effects uniform room after
  refine ⟨r.gather (effects ++ effects') [f.name] r.blank, fun t outcome makes => ?_⟩
  -- the member may as well be the first one
  have foremost {effect : Effect σ} (one : r.HasEffect room (key, t) effect) :
      Makes r.reader (room + 1) (.object (before ++ (key, t) :: after))
          (r.gather (effect :: (effects ++ effects')) [] r.blank) ∧
        Exchangeable (effect :: (effects ++ effects')) := by
    have all := List.rel_append has (.cons one has')
    have exchangeable := independent.exchangeable all
    rw [← gather_perm List.perm_middle exchangeable]
    exact ⟨makes_object all,
      exchangeable.of_subset fun _ => List.perm_middle.mem_iff.mpr⟩
  cases outcome with
  | none => exact (foremost (.refused means known makes)).1
  | some fill =>
      obtain ⟨reads, exchangeable⟩ := foremost (.fills means known makes)
      have commute : ∀ name' fill', .fills name' fill' ∈ effects ++ effects' →
          name' ∉ [f.name] → Function.Commute fill' fill := by
        intro name' fill' mem other
        exact exchangeable name' fill' f.name fill (List.mem_cons_of_mem _ mem)
          List.mem_cons_self (by simpa using other)
      have filled : r.gather (.fills f.name fill :: (effects ++ effects')) [] r.blank =
          (r.gather (effects ++ effects') [f.name] r.blank).map fill := gather_commute commute
      rw [filled] at reads
      exact reads

/-- What further values of a list make of a record may be made before or after something else is
done to it, if their fields are exchangeable with that. -/
theorem Places.commute {g : σ → σ} {ts : List Tree} {value : σ} {outcome : Option σ}
    (h : Places room fields ts value outcome)
    (commute : ∀ f ∈ fields, ∀ fill, f.Fills fill → Function.Commute fill g) :
    Places room fields ts (g value) (outcome.map g) := by
  induction h with
  | ended fields value =>
      rw [apply_ite (Option.map g)]
      exact .ended fields (g value)
  | surplus t ts value => exact .surplus t ts (g value)
  | refused makes fields ts value => exact .refused makes fields ts (g value)
  | @fills f fields t ts fill value outcome makes _ ih =>
      obtain ⟨first, further⟩ := List.forall_mem_cons.mp commute
      have same : fill (g value) = g (fill value) :=
        (first fill (Field.fills_of_makes makes)).eq value
      exact .fills makes (same ▸ ih further)

/-- The first value of a list fills the rest of the record, which is settled by the other values. -/
theorem exists_rest_list (uniform : ∀ f ∈ r.fields, Uniform f.read)
    (independent : r.Independent) (hfields : r.fields = f :: fields) (ts : List Tree) (room : Nat) :
    ∃ rest : Option σ, ∀ t outcome, Makes f.read room t outcome →
      Makes r.reader (room + 1) (.list (t :: ts)) (outcome.bind fun fill => rest.map fill) := by
  rw [hfields] at uniform
  rw [Independent, hfields] at independent
  obtain ⟨apart, -⟩ := List.pairwise_cons.mp independent
  obtain ⟨rest, further⟩ :=
    exists_places (List.forall_mem_cons.mp uniform).2 room ts r.blank
  refine ⟨rest, fun t outcome makes => makes_places ?_⟩
  rw [hfields]
  cases outcome with
  | none => exact .refused makes fields ts r.blank
  | some fill =>
      have fills := Field.fills_of_makes makes
      exact .fills makes (further.commute fun g mem fill' fills' =>
        (apart g mem fill fill' fills fills').symm)

end PulseBridge.Json.Record
