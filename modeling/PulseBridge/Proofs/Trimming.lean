import Mathlib.Data.List.DropRight
import PulseBridge.Text.Blank

/-!
# Trimmed texts

What is left of a text without the blanks at either end neither begins nor ends with a blank, and
nothing but blanks stood around it. There is one such text only.

## Main definitions

* `Text.Blanks`, `Text.Padded`: texts of blanks, and texts with blanks at either end.
* `Text.Trims`: what a text is without the blanks at either end.

## Main statements

* `Text.trims_iff`: trimming leaves exactly that.
-/

namespace PulseBridge.Text

/-- Whether all characters are blanks. -/
def Blanks (cs : List Char) : Prop := ∀ c ∈ cs, isBlank c = true

/-- Whether a text neither begins nor ends with a blank. -/
structure IsTrim (cs : List Char) : Prop where
  first : ∀ c ∈ cs.head?, isBlank c = false
  last : ∀ c ∈ cs.getLast?, isBlank c = false

/-- Whether a text is `core` with blanks at either end, or at none. -/
def Padded (cs core : List Char) : Prop :=
  ∃ front back, Blanks front ∧ Blanks back ∧ cs = front ++ core ++ back

/-- Whether `core` is what is left of a text without the blanks at either end. -/
def Trims (cs core : List Char) : Prop := IsTrim core ∧ Padded cs core

variable {cs core : List Char}

instance : Decidable (Blanks cs) := List.decidableBAll (fun c => isBlank c = true) cs

theorem blanks_nil : Blanks [] := nofun

theorem isTrim_nil : IsTrim [] := ⟨nofun, nofun⟩

/-- A text without blanks in it is trim. -/
theorem isTrim_of_none (h : ∀ c ∈ cs, isBlank c = false) : IsTrim cs :=
  ⟨fun c mem => h c (List.mem_of_mem_head? mem), fun c mem => h c (List.mem_of_mem_getLast? mem)⟩

theorem dropWhile_isBlank (h : ∀ c ∈ cs.head?, isBlank c = false) :
    cs.dropWhile isBlank = cs := by
  cases cs with
  | nil => rfl
  | cons c cs => exact List.dropWhile_cons_of_neg (by simp [h c rfl])

theorem trimChars_eq_rdropWhile (cs : List Char) :
    trimChars cs = (cs.dropWhile isBlank).rdropWhile isBlank := rfl

/-- Blanks at either end are of no account. -/
theorem Padded.trimChars_eq (h : Padded cs core) : trimChars cs = trimChars core := by
  obtain ⟨front, back, hfront, hback, rfl⟩ := h
  have dropped : ((front ++ core ++ back).dropWhile isBlank).rdropWhile isBlank =
      ((core ++ back).dropWhile isBlank).rdropWhile isBlank := by
    rw [List.append_assoc, List.dropWhile_append_of_pos hfront]
  rw [trimChars_eq_rdropWhile, trimChars_eq_rdropWhile, dropped, List.dropWhile_append]
  split
  · next none =>
      rw [List.isEmpty_iff.mp none, List.dropWhile_eq_nil_iff.mpr hback]
  · have reversed : Blanks back.reverse := fun c mem => hback c (List.mem_reverse.mp mem)
    rw [List.rdropWhile, List.reverse_append, List.dropWhile_append_of_pos reversed]
    rfl

theorem trimChars_of_isTrim (h : IsTrim cs) : trimChars cs = cs := by
  rw [trimChars, dropWhile_isBlank h.first, dropWhile_isBlank, List.reverse_reverse]
  intro c mem
  rw [List.head?_reverse] at mem
  exact h.last c mem

theorem head?_dropWhile_isBlank (cs : List Char) :
    ∀ c ∈ (cs.dropWhile isBlank).head?, isBlank c = false := by
  intro c mem
  have first := List.head?_dropWhile_not isBlank cs
  rw [Option.mem_def.mp mem] at first
  simpa using first

theorem IsTrim.trims (h : IsTrim cs) : Trims cs cs :=
  ⟨h, [], [], blanks_nil, blanks_nil, by simp⟩

theorem isTrim_trimChars (cs : List Char) : IsTrim (trimChars cs) := by
  constructor
  · intro c mem
    -- what is dropped at the end leaves the first character as it was
    have kept : trimChars cs <+: cs.dropWhile isBlank := List.rdropWhile_prefix isBlank _
    obtain ⟨more, split⟩ := kept
    apply head?_dropWhile_isBlank cs c
    rw [← split, List.head?_append, Option.mem_def.mp mem]
    rfl
  · intro c mem
    rw [trimChars, List.getLast?_reverse] at mem
    exact head?_dropWhile_isBlank _ c mem

theorem exists_blanks (cs : List Char) :
    ∃ front, Blanks front ∧ cs = front ++ cs.dropWhile isBlank :=
  ⟨cs.takeWhile isBlank, fun _ => List.mem_takeWhile_imp,
    (List.takeWhile_append_dropWhile).symm⟩

theorem trims_trimChars (cs : List Char) : Trims cs (trimChars cs) := by
  obtain ⟨front, hfront, split⟩ := exists_blanks cs
  obtain ⟨back, hback, rest⟩ := exists_blanks (cs.dropWhile isBlank).reverse
  refine ⟨isTrim_trimChars cs, front, back.reverse, hfront, ?_, ?_⟩
  · exact fun c mem => hback c (List.mem_reverse.mp mem)
  · rw [trimChars, List.append_assoc, ← List.reverse_append, ← rest, List.reverse_reverse]
    exact split

/-- Trimming leaves what is left of a text without the blanks at either end. -/
theorem trims_iff : Trims cs core ↔ trimChars cs = core := by
  constructor
  · rintro ⟨trim, padded⟩
    rw [padded.trimChars_eq, trimChars_of_isTrim trim]
  · rintro rfl
    exact trims_trimChars cs

/-- Whatever is no blank is left. -/
theorem Padded.mem {c : Char} (h : Padded cs core) (mem : c ∈ cs) (notBlank : isBlank c = false) :
    c ∈ core := by
  obtain ⟨front, back, hfront, hback, rfl⟩ := h
  have outside {blanks : List Char} (h : Blanks blanks) : c ∉ blanks := fun mem => by
    simp [h c mem] at notBlank
  simpa [outside hfront, outside hback] using mem

/-- Nothing is left of blanks. -/
theorem trimChars_of_blanks (h : Blanks cs) : trimChars cs = [] :=
  trims_iff.mp ⟨isTrim_nil, cs, [], h, blanks_nil, by simp⟩

end PulseBridge.Text
