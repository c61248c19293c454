import Mathlib.Data.List.Forall2
import PulseBridge.Alert
import PulseBridge.Proofs.Trimming

/-!
# Which alerts are suppressed

An alert is suppressed if it has no state, or an empty one, or if its state says that the anomaly is
over: without the blanks at either end it is one of two words, in letters of any case. Case is that
of ASCII letters only, while blanks are those of all scripts. So the blanks around a state and the
case of its letters do not matter, but a state of nothing but blanks is active, and so is every
other word, one that only looks like one of the two, and one of the two with a character more.

## Main definitions

* `Text.SameLetters`: texts that agree up to the case of ASCII letters.
* `IsOver`: the two words that say that the anomaly is over.

## Main statements

* `AlertStatus.ofState_eq_missing_iff`, `AlertStatus.ofState_eq_resolved_iff`,
  `AlertStatus.ofState_eq_active_iff`: what each state says.
* `suppression_of_state`: which alerts are suppressed, and what of their states is of no account.
-/

namespace PulseBridge

namespace Text

variable {c d : Char} {cs ds : List Char}

/-! ## The case of letters -/

/-- Whether `d` is the small form of an ASCII capital `c`. -/
def IsSmallOf (d c : Char) : Prop := 'A' ≤ c ∧ c ≤ 'Z' ∧ d.toNat = c.toNat + 32

/-- Whether two characters are the same, or one ASCII letter in its two cases. -/
def SameLetter (c d : Char) : Prop := c = d ∨ IsSmallOf d c ∨ IsSmallOf c d

/-- Whether two texts agree up to the case of ASCII letters. -/
abbrev SameLetters : List Char → List Char → Prop := List.Forall₂ SameLetter

theorem isSmallOf_iff : IsSmallOf d c ↔ 65 ≤ c.toNat ∧ c.toNat ≤ 90 ∧ d.toNat = c.toNat + 32 :=
  Iff.rfl

theorem toNat_ofNat {n : Nat} (valid : n.isValidChar) : (Char.ofNat n).toNat = n := by
  rw [Char.ofNat, dif_pos valid]
  rfl

theorem toNat_asciiLower (c : Char) :
    (asciiLower c).toNat = if 65 ≤ c.toNat ∧ c.toNat ≤ 90 then c.toNat + 32 else c.toNat := by
  have bounds : ('A' ≤ c ∧ c ≤ 'Z') ↔ 65 ≤ c.toNat ∧ c.toNat ≤ 90 := Iff.rfl
  simp only [asciiLower, bounds]
  split
  · next capital => exact toNat_ofNat (.inl (by omega))
  · rfl

/-- Characters are the same letter if their small forms are the same. -/
theorem asciiLower_eq_iff : asciiLower c = asciiLower d ↔ SameLetter c d := by
  rw [← Char.toNat_inj, toNat_asciiLower, toNat_asciiLower, SameLetter, ← Char.toNat_inj,
    isSmallOf_iff, isSmallOf_iff]
  split <;> split <;> omega

theorem sameLetters_iff : cs.map asciiLower = ds.map asciiLower ↔ SameLetters cs ds := by
  rw [← List.forall₂_eq_eq_eq, List.forall₂_map_left_iff, List.forall₂_map_right_iff]
  simp only [asciiLower_eq_iff]

theorem sameIgnoringAsciiCase_iff {s t : String} :
    sameIgnoringAsciiCase s t = true ↔ SameLetters s.toList t.toList := by
  rw [sameIgnoringAsciiCase, beq_iff_eq, sameLetters_iff]

theorem isBlank_of_bounds (low : 65 ≤ c.toNat) (high : c.toNat ≤ 122) : isBlank c = false := by
  simp [isBlank]
  omega

/-- No letter is blank, whatever its case. -/
theorem isBlank_asciiLower (c : Char) : isBlank (asciiLower c) = isBlank c := by
  have lower := toNat_asciiLower c
  split at lower
  · next capital =>
      rw [isBlank_of_bounds (by omega) (by omega), isBlank_of_bounds capital.1 (by omega)]
  · rw [Char.toNat_inj.mp lower]

/-- What is left after trimming does not depend on the case of letters. -/
theorem trimChars_map_asciiLower (cs : List Char) :
    trimChars (cs.map asciiLower) = (trimChars cs).map asciiLower := by
  have blank : isBlank ∘ asciiLower = isBlank := funext isBlank_asciiLower
  simp only [trimChars, List.dropWhile_map, blank, ← List.map_reverse]

end Text

/-! ## What states say -/

open Text (Blanks IsTrim SameLetters Trims)

/-- Whether a word says that the anomaly is over. -/
def IsOver (word : List Char) : Prop :=
  SameLetters word "ok".toList ∨ SameLetters word "resolved".toList

theorem saysResolved_iff {state : String} : saysResolved state = true ↔ IsOver state.toList := by
  rw [saysResolved, Bool.or_eq_true, Text.sameIgnoringAsciiCase_iff,
    Text.sameIgnoringAsciiCase_iff, IsOver]

namespace IsOver

variable {word word' : List Char}

/-- Words of the same letters say the same. -/
theorem congr (same : SameLetters word word') : IsOver word ↔ IsOver word' := by
  rw [← Text.sameLetters_iff] at same
  simp only [IsOver, ← Text.sameLetters_iff, same]

theorem length_eq (h : IsOver word) : word.length = 2 ∨ word.length = 8 := by
  rcases h with same | same
  · exact .inl same.length_eq
  · exact .inr same.length_eq

/-- Two such words of one length have the same letters. -/
theorem sameLetters (h : IsOver word) (h' : IsOver word') (length : word.length = word'.length) :
    word.map Text.asciiLower = word'.map Text.asciiLower := by
  have different : "ok".toList.length ≠ "resolved".toList.length := by decide
  rcases h with same | same <;> rcases h' with same' | same'
  · exact (Text.sameLetters_iff.mpr same).trans (Text.sameLetters_iff.mpr same').symm
  · exact absurd (same.length_eq.symm.trans (length.trans same'.length_eq)) different
  · exact absurd (same'.length_eq.symm.trans (length.symm.trans same.length_eq)) different
  · exact (Text.sameLetters_iff.mpr same).trans (Text.sameLetters_iff.mpr same').symm

/-- All characters of such a word are in the range of the ASCII letters. -/
theorem bounds (h : IsOver word) : ∀ c ∈ word, 65 ≤ c.toNat ∧ c.toNat ≤ 122 := by
  have small : ∀ d ∈ word.map Text.asciiLower, 97 ≤ d.toNat ∧ d.toNat ≤ 122 := by
    rcases h with same | same <;> rw [Text.sameLetters_iff.mpr same] <;>
      simp [Text.toNat_asciiLower]
  intro c mem
  have lower := small _ (List.mem_map_of_mem mem)
  rw [Text.toNat_asciiLower] at lower
  split at lower <;> omega

theorem isBlank_eq (h : IsOver word) : ∀ c ∈ word, Text.isBlank c = false :=
  fun c mem => Text.isBlank_of_bounds (h.bounds c mem).1 (h.bounds c mem).2

theorem ne_nil (h : IsOver word) : word ≠ [] := by
  rintro rfl
  have := h.length_eq
  simp at this

end IsOver

namespace AlertStatus

variable {state : Option String} {s : String}

theorem ofState_empty : ofState (some "") = .missing := rfl

theorem ofState_some (h : s ≠ "") :
    ofState (some s) = if saysResolved (Text.trim s) then .resolved else .active := by
  have notEmpty : ¬ s.isEmpty = true := by simpa using h
  rw [ofState, if_neg notEmpty]

/-- A state is missing if there is none or an empty one. -/
theorem ofState_eq_missing_iff : ofState state = .missing ↔ state = none ∨ state = some "" := by
  cases state with
  | none => simp [ofState]
  | some s =>
      by_cases h : s = ""
      · simp [h, ofState_empty]
      · rw [ofState_some h]
        split <;> simp [h]

theorem saysResolved_trim_iff :
    saysResolved (Text.trim s) = true ↔ IsOver (Text.trimChars s.toList) := by
  rw [saysResolved_iff, Text.trim, String.toList_ofList]

/-- A state says that the anomaly is over if it is one of the two words but for blanks at either
end. -/
theorem ofState_eq_resolved_iff :
    ofState (some s) = .resolved ↔ ∃ core, Trims s.toList core ∧ IsOver core := by
  have trimmed : (∃ core, Trims s.toList core ∧ IsOver core) ↔
      IsOver (Text.trimChars s.toList) := by
    simp [Text.trims_iff]
  rw [trimmed, ← saysResolved_trim_iff]
  by_cases h : s = ""
  · subst h
    decide
  · rw [ofState_some h]
    split <;> simp_all

/-- Any other state that is not empty is active. -/
theorem ofState_eq_active_iff :
    ofState (some s) = .active ↔ s ≠ "" ∧ ∀ core, Trims s.toList core → ¬ IsOver core := by
  have missing : ofState (some s) = .missing ↔ _ := ofState_eq_missing_iff
  have resolved : ofState (some s) = .resolved ↔ _ := ofState_eq_resolved_iff
  cases said : ofState (some s) <;> simp_all

/-- Neither blanks at either end nor the case of letters matter in a state that is not empty. -/
theorem ofState_congr {s' : String} {core core' : List Char} (h : s ≠ "") (h' : s' ≠ "")
    (padded : Text.Padded s.toList core) (padded' : Text.Padded s'.toList core')
    (same : SameLetters core core') : ofState (some s) = ofState (some s') := by
  have trimmed : SameLetters (Text.trimChars core) (Text.trimChars core') := by
    rw [← Text.sameLetters_iff] at same ⊢
    rw [← Text.trimChars_map_asciiLower, same, Text.trimChars_map_asciiLower]
  have alike : saysResolved (Text.trim s) = saysResolved (Text.trim s') := by
    rw [Bool.eq_iff_iff, saysResolved_trim_iff, saysResolved_trim_iff, padded.trimChars_eq,
      padded'.trimChars_eq, IsOver.congr trimmed]
  rw [ofState_some h, ofState_some h', alike]

theorem ofState_of_blanks (h : s ≠ "") (blanks : Blanks s.toList) : ofState (some s) = .active := by
  refine ofState_eq_active_iff.mpr ⟨h, fun core trims isOver => isOver.ne_nil ?_⟩
  rw [← Text.trims_iff.mp trims, Text.trimChars_of_blanks blanks]

/-- A state with a character that is neither blank nor in ASCII is active. -/
theorem ofState_of_beyond {c : Char} (mem : c ∈ s.toList) (notBlank : Text.isBlank c = false)
    (beyond : 128 ≤ c.toNat) : ofState (some s) = .active := by
  refine ofState_eq_active_iff.mpr ⟨?_, fun core trims isOver => ?_⟩
  · rintro rfl
    cases mem
  · have := isOver.bounds c (trims.2.mem mem notBlank)
    omega

section Spoilt

variable {c d : Char} {left right : List Char}

/-- Whatever word without blanks a state has, it is active if the word is not one of the two. -/
theorem ofState_of_word {word : List Char} (padded : Text.Padded s.toList word) (ne : word ≠ [])
    (noBlank : ∀ c ∈ word, Text.isBlank c = false) (notOver : ¬ IsOver word) :
    ofState (some s) = .active := by
  have trimmed : Text.trimChars s.toList = word := by
    rw [padded.trimChars_eq, Text.trimChars_of_isTrim (Text.isTrim_of_none noBlank)]
  refine ofState_eq_active_iff.mpr ⟨?_, fun core trims isOver => notOver ?_⟩
  · rintro rfl
    exact ne trimmed.symm
  · rwa [← trimmed, Text.trims_iff.mp trims]

/-- No blank comes into a word with a character that is none. -/
theorem isBlank_eq_of_middle (notBlank : Text.isBlank c = false)
    (noBlank : ∀ d ∈ left ++ right, Text.isBlank d = false) :
    ∀ d ∈ left ++ c :: right, Text.isBlank d = false := by
  intro d mem
  rcases List.mem_cons.mp (List.perm_middle.mem_iff.mp mem) with rfl | mem
  · exact notBlank
  · exact noBlank d mem

/-- A state of one of the two words with another character in the place of one is active. -/
theorem ofState_of_replaced (isOver : IsOver (left ++ d :: right)) (other : ¬ Text.SameLetter c d)
    (notBlank : Text.isBlank c = false) (padded : Text.Padded s.toList (left ++ c :: right)) :
    ofState (some s) = .active := by
  refine ofState_of_word padded (by simp) (isBlank_eq_of_middle notBlank fun e mem => ?_) ?_
  · exact isOver.isBlank_eq e (List.perm_middle.mem_iff.mpr (List.mem_cons_of_mem d mem))
  · intro isOver'
    have same := isOver'.sameLetters isOver (by simp)
    simp only [List.map_append, List.map_cons, List.append_cancel_left_eq, List.cons.injEq] at same
    exact other (Text.asciiLower_eq_iff.mp same.1)

/-- A state of one of the two words with one more character is active. -/
theorem ofState_of_longer (isOver : IsOver (left ++ right)) (notBlank : Text.isBlank c = false)
    (padded : Text.Padded s.toList (left ++ c :: right)) : ofState (some s) = .active := by
  refine ofState_of_word padded (by simp) (isBlank_eq_of_middle notBlank isOver.isBlank_eq) ?_
  intro isOver'
  have := isOver.length_eq
  have := isOver'.length_eq
  simp only [List.length_append, List.length_cons] at *
  omega

end Spoilt

end AlertStatus

theorem Alert.isActive_eq_false_iff (alert : Alert) :
    alert.isActive = false ↔ alert.state = none ∨ alert.state = some "" ∨
      ∃ s core, alert.state = some s ∧ Trims s.toList core ∧ IsOver core := by
  have inactive : alert.isActive = false ↔
      AlertStatus.ofState alert.state = .missing ∨ AlertStatus.ofState alert.state = .resolved := by
    rw [isActive, status]
    cases AlertStatus.ofState alert.state <;> decide
  rw [inactive, AlertStatus.ofState_eq_missing_iff, or_assoc]
  cases alert.state with
  | none => simp
  | some s => simp [AlertStatus.ofState_eq_resolved_iff]

/-- An alert is suppressed exactly if it has no state, an empty one, or one of the two words, with
blanks at either end or not, in letters of any case. Neither the blanks at either end of a state nor
the case of its letters decide what it says, as long as it is not empty. A state of nothing but
blanks is active. So is one of the two words with another character in the place of one or with one
more, none of them a blank, and so is every state with a character that is neither blank nor in
ASCII. -/
theorem suppression_of_state :
    (∀ alert : Alert, alert.isActive = false ↔
      alert.state = none ∨ alert.state = some "" ∨
        ∃ s core, alert.state = some s ∧ Trims s.toList core ∧
          (SameLetters core "ok".toList ∨ SameLetters core "resolved".toList)) ∧
    (∀ (s s' : String) core core', s ≠ "" → s' ≠ "" → Text.Padded s.toList core →
      Text.Padded s'.toList core' → SameLetters core core' →
      AlertStatus.ofState (some s) = .ofState (some s')) ∧
    (∀ s : String, s ≠ "" → Blanks s.toList → AlertStatus.ofState (some s) = .active) ∧
    (∀ (s : String) c d left right, IsOver (left ++ d :: right) → ¬ Text.SameLetter c d →
      Text.isBlank c = false → Text.Padded s.toList (left ++ c :: right) →
      AlertStatus.ofState (some s) = .active) ∧
    (∀ (s : String) c left right, IsOver (left ++ right) → Text.isBlank c = false →
      Text.Padded s.toList (left ++ c :: right) → AlertStatus.ofState (some s) = .active) ∧
    ∀ (s : String) c, c ∈ s.toList → Text.isBlank c = false → 128 ≤ c.toNat →
      AlertStatus.ofState (some s) = .active := by
  refine ⟨Alert.isActive_eq_false_iff, ?_, ?_, ?_, ?_, ?_⟩
  · intro s s' core core' h h' padded padded' same
    exact AlertStatus.ofState_congr h h' padded padded' same
  · intro s h blanks
    exact AlertStatus.ofState_of_blanks h blanks
  · intro s c d left right isOver other notBlank padded
    exact AlertStatus.ofState_of_replaced isOver other notBlank padded
  · intro s c left right isOver notBlank padded
    exact AlertStatus.ofState_of_longer isOver notBlank padded
  · intro s c mem notBlank beyond
    exact AlertStatus.ofState_of_beyond mem notBlank beyond

namespace Lookalike

/-- A resolved state with blanks of several kinds, one of them beyond ASCII. -/
def resolved : String := "\u2003Resolved\n"

/-- The word with the sign of Kelvin for its second letter. -/
def kelvin : String := "O\u212a"

/-- Blanks and case do not matter, but characters do: neither another letter nor a full stop nor the
sign of Kelvin makes the word, and blanks alone are no word at all. -/
theorem suppression_of_lookalikes :
    AlertStatus.ofState (some resolved) = .ofState (some "RESOLVED") ∧
    AlertStatus.ofState (some "\t ") = .active ∧
    AlertStatus.ofState (some "oo") = .active ∧
    AlertStatus.ofState (some " OK.") = .active ∧
    AlertStatus.ofState (some kelvin) = .active := by
  obtain ⟨-, same, blank, replaced, longer, beyond⟩ := suppression_of_state
  have isOver : IsOver ("OK".toList ++ []) := .inl (Text.sameLetters_iff.mp (by decide))
  have notSame : ¬ Text.SameLetter 'o' 'k' := by
    rw [← Text.asciiLower_eq_iff]
    decide
  refine ⟨?_, ?_, ?_, ?_, ?_⟩
  · refine same resolved "RESOLVED" "Resolved".toList "RESOLVED".toList (by decide) (by decide)
      ⟨['\u2003'], ['\n'], by decide, by decide, by decide⟩
      ⟨[], [], by decide, by decide, by decide⟩ ?_
    exact Text.sameLetters_iff.mp (by decide)
  · exact blank "\t " (by decide) (by decide)
  · exact replaced "oo" 'o' 'k' ['o'] [] (.inl (Text.sameLetters_iff.mp (by decide))) notSame
      (by decide) ⟨[], [], by decide, by decide, by decide⟩
  · exact longer " OK." '.' "OK".toList [] isOver (by decide)
      ⟨[' '], [], by decide, by decide, by decide⟩
  · exact beyond kelvin '\u212a' (by decide) (by decide) (by decide)

end Lookalike

end PulseBridge
