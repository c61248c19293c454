import Mathlib.Algebra.Ring.Nat
import Mathlib.Data.List.DropRight
import PulseBridge.Polling

/-!
# The address of a target

A template is cut at its placeholders, from left to right, and the target is put between the pieces.
Nothing is looked for in the target, nor across the places where it meets the pieces, so that a
target may itself look like a placeholder or complete one. A template without a placeholder loses
the slashes at its end and gets one slash and the target. Either way the target can be told from its
address, and no two targets of one template have the same.

## Main definitions

* `IsCut`: the pieces of a template between its placeholders.

## Main statements

* `isCut_iff`: every template is cut in one way.
* `fill_injective`: different targets have different addresses.
* `addresses_of_template`: the address of a target, and that it is the target's own.
-/

namespace PulseBridge.TargetAddress

/-! ## Cutting a template -/

/-- Whether these are the pieces of a template between its placeholders. Each cut is made at the
first placeholder of what is left of the template, and the last piece has none. -/
inductive IsCut : List Char → List (List Char) → Prop
  | whole {piece : List Char} (none : ¬ placeholder <:+: piece) : IsCut piece [piece]
  | cut {piece rest : List Char} {ps : List (List Char)}
      (first : ∀ earlier later,
        piece ++ placeholder ++ rest = earlier ++ placeholder ++ later →
          piece.length ≤ earlier.length)
      (further : IsCut rest ps) : IsCut (piece ++ placeholder ++ rest) (piece :: ps)

variable {template base : List Char} {ps ps' : List (List Char)}

theorem IsCut.length_pos (h : IsCut template ps) : 0 < ps.length := by
  cases h <;> exact Nat.succ_pos _

/-- A template has a placeholder exactly if it is cut into several pieces. -/
theorem IsCut.several_iff (h : IsCut template ps) :
    2 ≤ ps.length ↔ placeholder <:+: template := by
  cases h with
  | whole none => simp [none]
  | @cut piece rest ps _ further =>
      have more := further.length_pos
      have occurs : placeholder <:+: piece ++ placeholder ++ rest := ⟨piece, rest, rfl⟩
      simp only [List.length_cons, occurs, iff_true]
      omega

/-- The pieces with placeholders between them are the template. -/
theorem IsCut.intercalate_eq (h : IsCut template ps) :
    placeholder.intercalate ps = template := by
  induction h with
  | whole _ => simp
  | @cut piece rest ps _ further ih =>
      rw [List.intercalate_cons_of_ne_nil (List.ne_nil_of_length_pos further.length_pos), ih,
        List.append_assoc]

/-- No piece has a placeholder. -/
theorem IsCut.not_isInfix (h : IsCut template ps) {piece : List Char} (mem : piece ∈ ps) :
    ¬ placeholder <:+: piece := by
  induction h with
  | whole none =>
      rwa [List.mem_singleton.mp mem]
  | @cut head rest ps first further ih =>
      rcases List.mem_cons.mp mem with rfl | mem
      · rintro ⟨earlier, later, rfl⟩
        have least := first earlier (later ++ placeholder ++ rest) (by simp)
        have long : 0 < placeholder.length := by decide
        rw [List.length_append, List.length_append] at least
        omega
      · exact ih mem

/-- A template is cut in one way only. -/
theorem IsCut.unique (h : IsCut template ps) (h' : IsCut template ps') : ps = ps' := by
  induction h generalizing ps' with
  | whole none =>
      cases h' with
      | whole _ => rfl
      | cut _ _ => exact absurd ⟨_, _, rfl⟩ none
  | @cut piece rest ps first _ ih =>
      generalize same : piece ++ placeholder ++ rest = template at h'
      cases h' with
      | whole none => exact absurd ⟨piece, rest, same⟩ none
      | @cut piece' rest' ps' first' further' =>
          -- each of the two first placeholders is not after the other one
          have length : piece.length = piece'.length :=
            Nat.le_antisymm (first piece' rest' same) (first' piece rest same.symm)
          rw [List.append_assoc, List.append_assoc] at same
          obtain ⟨rfl, tails⟩ := List.append_inj same length
          rw [ih (List.append_cancel_left tails ▸ further')]

theorem not_isInfix_nil : ¬ placeholder <:+: [] := by decide

/-- One more character in front of a template is one more in front of its first piece, unless it
completes a placeholder. -/
theorem IsCut.cons {c : Char} (h : IsCut template ps)
    (other : ¬ placeholder <+: c :: template) : IsCut (c :: template) (extendFirst c ps) := by
  cases h with
  | whole none =>
      refine .whole fun occurs => ?_
      rcases List.infix_cons_iff.mp occurs with begins | further
      · exact other begins
      · exact none further
  | @cut piece rest ps first further =>
      have least : ∀ earlier later,
          c :: piece ++ placeholder ++ rest = earlier ++ placeholder ++ later →
            (c :: piece).length ≤ earlier.length := by
        intro earlier later same
        cases earlier with
        | nil => exact absurd ⟨later, same.symm⟩ other
        | cons d earlier =>
            obtain ⟨-, same⟩ := List.cons.inj same
            exact Nat.succ_le_succ (first earlier later same)
      exact .cut least further

theorem isCut_pieces (template : List Char) : IsCut template (pieces template) := by
  induction template using pieces.induct with
  | case1 => exact .whole not_isInfix_nil
  | case2 rest ih =>
      have first : ∀ earlier later : List Char,
          [] ++ placeholder ++ rest = earlier ++ placeholder ++ later → 0 ≤ earlier.length :=
        fun _ _ _ => Nat.zero_le _
      exact .cut first ih
  | case3 c rest other ih =>
      have apart : ¬ placeholder <+: c :: rest := by
        rintro ⟨more, same⟩
        obtain ⟨rfl, rfl⟩ := List.cons.inj same
        exact other more rfl rfl
      rw [pieces.eq_3 c rest other]
      exact ih.cons apart

/-- A template is cut into the pieces between its placeholders and into no others. -/
theorem isCut_iff : IsCut template ps ↔ pieces template = ps := by
  constructor
  · exact (isCut_pieces template).unique
  · rintro rfl
    exact isCut_pieces template

/-! ## Filling a template -/

/-- Whether `base` is a template without the slashes at its end. -/
def IsBase (template base : List Char) : Prop :=
  base.getLast? ≠ some '/' ∧ ∃ n, template = base ++ List.replicate n '/'

theorem isBase_trimSlashes (template : List Char) : IsBase template (trimSlashes template) := by
  constructor
  · intro last
    have kept := List.head?_dropWhile_not (· == '/') template.reverse
    rw [trimSlashes, List.getLast?_reverse] at last
    rw [last] at kept
    simp at kept
  · have all : ∀ c ∈ template.rtakeWhile (· == '/'), c = '/' := fun c mem => by
      simpa using List.mem_rtakeWhile_imp mem
    refine ⟨(template.rtakeWhile (· == '/')).length, ?_⟩
    rw [← List.eq_replicate_of_mem all]
    exact List.rdropWhile_append_rtakeWhile.symm

theorem trimSlashes_of_isBase (h : IsBase template base) : trimSlashes template = base := by
  obtain ⟨noSlash, n, rfl⟩ := h
  have slashes : ∀ c ∈ List.replicate n '/', (c == '/') = true := by simp
  have kept : base.reverse.dropWhile (· == '/') = base.reverse := by
    rw [← List.head?_reverse] at noSlash
    cases hbase : base.reverse with
    | nil => rfl
    | cons c cs =>
        rw [hbase] at noSlash
        exact List.dropWhile_cons_of_neg (by simpa using noSlash)
  rw [trimSlashes, List.reverse_append, List.reverse_replicate,
    List.dropWhile_append_of_pos slashes, kept, List.reverse_reverse]

theorem fillChars_of_placeholder (occurs : placeholder <:+: template) (h : IsCut template ps)
    (target : List Char) : fillChars template target = target.intercalate ps := by
  have several := h.several_iff.mpr occurs
  rw [fillChars, isCut_iff.mp h]
  split
  · simp at several
  · rfl

theorem fillChars_of_none (none : ¬ placeholder <:+: template) (target : List Char) :
    fillChars template target = trimSlashes template ++ '/' :: target := by
  rw [fillChars, isCut_iff.mp (.whole none)]

theorem toList_fill (template target : String) :
    (fill template target).toList = fillChars template.toList target.toList :=
  String.toList_ofList

/-! ## Telling targets apart -/

theorem length_intercalate (target : List Char) (ps : List (List Char)) :
    (target.intercalate ps).length =
      (ps.map List.length).sum + (ps.length - 1) * target.length := by
  induction ps with
  | nil => simp
  | cons piece ps ih =>
      cases ps with
      | nil => simp
      | cons next ps =>
          rw [List.intercalate_cons_of_ne_nil (List.cons_ne_nil next ps)]
          simp only [List.length_append, ih, List.map_cons, List.sum_cons, List.length_cons,
            Nat.add_sub_cancel, Nat.succ_mul]
          omega

/-- What is put between several pieces can be told from the whole: its length from the length of the
whole, and then it stands behind the first piece. -/
theorem intercalate_injective (several : 2 ≤ ps.length) :
    Function.Injective fun target : List Char => target.intercalate ps := by
  intro target target' same
  dsimp only at same
  have length : target.length = target'.length := by
    have lengths := congrArg List.length same
    rw [length_intercalate, length_intercalate] at lengths
    exact Nat.eq_of_mul_eq_mul_left (by omega) (Nat.add_left_cancel lengths)
  match ps, several with
  | piece :: next :: ps, _ =>
      rw [List.intercalate_cons_of_ne_nil (List.cons_ne_nil next ps),
        List.intercalate_cons_of_ne_nil (List.cons_ne_nil next ps), List.append_assoc,
        List.append_assoc] at same
      exact List.append_inj_left (List.append_cancel_left same) length

theorem fillChars_injective (template : List Char) : Function.Injective (fillChars template) := by
  intro target target' same
  by_cases occurs : placeholder <:+: template
  · have cut := isCut_pieces template
    rw [fillChars_of_placeholder occurs cut, fillChars_of_placeholder occurs cut] at same
    exact intercalate_injective (cut.several_iff.mpr occurs) same
  · rw [fillChars_of_none occurs, fillChars_of_none occurs] at same
    exact (List.cons.inj (List.append_cancel_left same)).2

/-- Different targets have different addresses. -/
theorem fill_injective (template : String) : Function.Injective (fill template) := by
  intro target target' same
  have chars := congrArg String.toList same
  rw [toList_fill, toList_fill] at chars
  exact String.toList_injective (fillChars_injective _ chars)

/-- A template with a placeholder is cut at its placeholders, from left to right, in one way, and
the address of a target is the pieces with the target between each two, whatever the target looks
like; with the placeholder between them the pieces are the template. A template without one is
something that does not end in a slash, and then slashes, and the address is this beginning, one
slash and the target. Under the same template different targets have different addresses, and so the
polls of checks that differ in their targets ask at different addresses. -/
theorem addresses_of_template (template : String) :
    (placeholder <:+: template.toList →
      ∃ ps, IsCut template.toList ps ∧ (∀ ps', IsCut template.toList ps' → ps' = ps) ∧
        2 ≤ ps.length ∧ (∀ piece ∈ ps, ¬ placeholder <:+: piece) ∧
        placeholder.intercalate ps = template.toList ∧
        ∀ target, (fill template target).toList = target.toList.intercalate ps) ∧
    (¬ placeholder <:+: template.toList →
      ∃ base, IsBase template.toList base ∧ (∀ base', IsBase template.toList base' → base' = base) ∧
        ∀ target, (fill template target).toList = base ++ '/' :: target.toList) ∧
    Function.Injective (fill template) ∧
    ∀ (plan : PollPlan) (check check' : Check), plan.template = template →
      check.target ≠ check'.target → (plan.request check).url ≠ (plan.request check').url := by
  refine ⟨?_, ?_, fill_injective template, ?_⟩
  · intro occurs
    have cut := isCut_pieces template.toList
    refine ⟨_, cut, fun ps' cut' => cut'.unique cut, cut.several_iff.mpr occurs,
      fun piece mem => cut.not_isInfix mem, cut.intercalate_eq, fun target => ?_⟩
    rw [toList_fill, fillChars_of_placeholder occurs cut]
  · intro none
    refine ⟨_, isBase_trimSlashes template.toList,
      fun base' h => (trimSlashes_of_isBase h).symm, fun target => ?_⟩
    rw [toList_fill, fillChars_of_none none]
  · rintro plan check check' rfl different same
    exact different (fill_injective plan.template same)

/-- A template with braces around its first placeholder, and with a second one. -/
def braced : String := "\x7b\x7bid\x7did\x7d?\x7bid\x7d"

/-- Nothing between the braces gives a placeholder, which is left as it is, and so is one that is the
target. -/
theorem addresses_of_braced :
    placeholder <:+: braced.toList ∧
      fill braced "" = "\x7bid\x7d?" ∧
      fill braced "\x7bid\x7d" = braced ∧
      ((⟨braced, 0⟩ : PollPlan).request ⟨"", "k", "", .empty⟩).url ≠
        ((⟨braced, 0⟩ : PollPlan).request ⟨"\x7bid\x7d", "k", "", .empty⟩).url := by
  have occurs : placeholder <:+: braced.toList :=
    ⟨"\x7b".toList, "id\x7d?\x7bid\x7d".toList, by decide⟩
  obtain ⟨cuts, -, -, apart⟩ := addresses_of_template braced
  obtain ⟨ps, -, only, -, -, whole, address⟩ := cuts occurs
  have cut : IsCut braced.toList ["\x7b".toList, "id\x7d?".toList, []] :=
    isCut_iff.mpr (by decide)
  obtain rfl := only _ cut
  refine ⟨occurs, ?_, ?_, apart ⟨braced, 0⟩ _ _ rfl (by decide)⟩
  · exact String.toList_injective ((address "").trans (by decide))
  · exact String.toList_injective ((address "\x7bid\x7d").trans whole)

end PulseBridge.TargetAddress
