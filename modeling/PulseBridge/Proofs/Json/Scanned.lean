import PulseBridge.Proofs.Json.Trees

/-!
# What is taken for a text or a number is one

Reading and passing over take octets for a text or for a number only where they are spelled as the
grammar says. Whatever is read would be passed over too, up to the same place, so it is enough to
look at what is passed over.

## Main statements

* `exists_quotable_of_skipText`, `exists_quotable_of_readText`: what is taken for a text is one.
* `exists_unsigned_of_skipNumber`, `exists_unsigned_of_readNumber`: what is taken for a number is
  one.
-/

namespace PulseBridge.Json

open Ascii

variable {s rest : Octets}

/-! ## Texts -/

/-- The state in which a text is passed over while it is read in another one. -/
def TextState.skipped : TextState → SkipState
  | .plain => .plain
  | .escape => .escape
  | .hex left unit _ => .hex left unit.isSome
  | .pairBackslash _ => .plain
  | .pairLetter _ => .escape

theorem finishUnit_ok {unit leading : Option Nat} {gathered gathered' : Octets} {state : TextState}
    (h : finishUnit unit leading gathered = .ok (state, gathered')) :
    unit.isSome = true ∧ state.skipped = .plain := by
  cases unit with
  | none => cases leading <;> cases h
  | some u =>
      cases leading <;> simp only [finishUnit] at h <;> split_ifs at h <;> cases h <;>
        exact ⟨rfl, rfl⟩

/-- A text that is read would be passed over. -/
theorem skipTextFrom_of_readTextFrom {state : TextState} {gathered octets : Octets}
    (h : readTextFrom state gathered s = .ok (octets, rest)) :
    skipTextFrom state.skipped s = .ok rest := by
  induction s generalizing state gathered with
  | nil => cases state <;> cases h
  | cons b s ih =>
      cases state with
      | plain =>
          simp only [readTextFrom] at h
          simp only [TextState.skipped, skipTextFrom]
          split_ifs at h ⊢ with hquote hbackslash hcontrol
          · cases h
            rfl
          · exact ih h
          · exact ih h
      | escape =>
          simp only [readTextFrom] at h
          simp only [TextState.skipped, skipTextFrom]
          split_ifs at h ⊢ with hunit hknown
          · exact ih h
          · obtain ⟨octet, known⟩ := Option.isSome_iff_exists.mp hknown
            rw [known] at h
            exact ih h
          · rw [Option.not_isSome_iff_eq_none.mp hknown] at h
            cases h
      | hex left unit leading =>
          simp only [readTextFrom] at h
          simp only [TextState.skipped, skipTextFrom, ← isSome_furtherDigit]
          cases left with
          | succ left => exact ih h
          | zero =>
              dsimp only at h ⊢
              split at h
              · next finished =>
                  obtain ⟨good, plain⟩ := finishUnit_ok finished
                  rw [if_pos good, ← plain]
                  exact ih h
              · cases h
      | pairBackslash leading =>
          simp only [readTextFrom] at h
          split_ifs at h with hbackslash
          rw [beq_iff_eq.mp hbackslash]
          exact ih h
      | pairLetter leading =>
          simp only [readTextFrom] at h
          split_ifs at h with hunit
          rw [beq_iff_eq.mp hunit]
          exact ih h

/-- What is passed over as a text is spelled well. -/
theorem exists_quotable_of_skipText (h : skipText s = .ok rest) :
    ∃ literal : Quotable, s = literal.octets ++ quote :: rest := by
  suffices ∃ octets, IsQuotable octets ∧ s = octets ++ quote :: rest by
    obtain ⟨octets, quotable, shape⟩ := this
    exact ⟨⟨octets, quotable⟩, shape⟩
  rw [skipText] at h
  -- An escape takes up several octets at once, so the induction is on the length.
  induction hn : s.length using Nat.strongRecOn generalizing s with
  | _ n ih =>
      subst hn
      cases s with
      | nil => cases h
      | cons b s =>
          simp only [skipTextFrom] at h
          split_ifs at h with hquote hbackslash hcontrol
          · cases h
            rw [beq_iff_eq.mp hquote]
            exact ⟨[], .nil, rfl⟩
          · rw [beq_iff_eq.mp hbackslash]
            cases s with
            | nil => cases h
            | cons b s =>
                simp only [skipTextFrom] at h
                split_ifs at h with hunit hknown
                · rw [beq_iff_eq.mp hunit]
                  rcases s with _ | ⟨a, _ | ⟨b, _ | ⟨c, _ | ⟨d, s⟩⟩⟩⟩
                  · cases h
                  · cases h
                  · cases h
                  · cases h
                  · change skipTextFrom .plain (unitEscape (a, b, c, d) ++ s) = .ok rest at h
                    rw [skipTextFrom_unitEscape] at h
                    split_ifs at h with known
                    have shorter : s.length < s.length + 6 := by omega
                    obtain ⟨octets, quotable, rfl⟩ := ih s.length shorter h rfl
                    exact ⟨_, .unit known quotable, rfl⟩
                · have shorter : s.length < s.length + 2 := by omega
                  obtain ⟨octets, quotable, rfl⟩ := ih s.length shorter h rfl
                  exact ⟨_, .letter hknown quotable, rfl⟩
          · have itself : standsForItself b = true := by
              simp [standsForItself, bne, hquote, hbackslash, hcontrol]
            obtain ⟨octets, quotable, rfl⟩ := ih s.length (Nat.lt_succ_self _) h rfl
            exact ⟨_, .plain itself quotable, rfl⟩

/-- What is read as a text is spelled well and means that text. -/
theorem exists_quotable_of_readText {text : String} (h : readText s = .ok (text, rest)) :
    ∃ literal : Quotable, literal.Means text ∧ s = literal.octets ++ quote :: rest := by
  obtain ⟨octets, read⟩ : ∃ octets, readTextFrom .plain [] s = .ok (octets, rest) := by
    rw [readText] at h
    split at h
    · cases h
    · next octets rest' read =>
        split at h
        · cases h
          exact ⟨octets, read⟩
        · cases h
  obtain ⟨literal, rfl⟩ := exists_quotable_of_skipText (skipTextFrom_of_readTextFrom read)
  rcases readText_cases literal.isQuotable with ⟨text', means⟩ | unreadable
  · refine ⟨literal, ?_, rfl⟩
    have same := (means.readText rest).symm.trans h
    cases same
    exact means
  · have failed := unreadable rest
    rw [h] at failed
    cases failed

/-! ## Numbers -/

theorem exists_digits (s : Octets) :
    ∃ ds, (∀ b ∈ ds, Octets.isDigit b = true) ∧ s = ds ++ s.dropWhile Octets.isDigit :=
  ⟨s.takeWhile Octets.isDigit, List.all_eq_true.mp List.all_takeWhile,
    List.takeWhile_append_dropWhile.symm⟩

/-- A digit and those that follow it. -/
theorem exists_isDigits {b : UInt8} (digit : Octets.isDigit b = true) (s : Octets) :
    ∃ ds, IsDigits (b :: ds) ∧ s = ds ++ s.dropWhile Octets.isDigit := by
  obtain ⟨ds, digits, shape⟩ := exists_digits s
  exact ⟨ds, ⟨List.cons_ne_nil b ds, List.forall_mem_cons.mpr ⟨digit, digits⟩⟩, shape⟩

/-- An exponent begins with a digit, or with a sign and a digit. -/
theorem skipExponent_ok (h : skipExponent s = .ok rest) :
    ∃ sign b tail, (sign = [] ∨ sign = [plus] ∨ sign = [minus]) ∧ s = sign ++ b :: tail ∧
      Octets.isDigit b = true ∧ rest = tail.dropWhile Octets.isDigit := by
  have signed {sign : UInt8} (hsign : sign = plus ∨ sign = minus) {s : Octets}
      (h : skipExponent (sign :: s) = .ok rest) :
      ∃ b tail, s = b :: tail ∧ Octets.isDigit b = true ∧
        rest = tail.dropWhile Octets.isDigit := by
    cases s with
    | nil => rcases hsign with rfl | rfl <;> cases h
    | cons b s =>
        have read : skipExponent (sign :: b :: s) =
            if Octets.isDigit b then .ok (s.dropWhile Octets.isDigit)
            else .error ⟨.badNumber, .consumed s⟩ := by
          rcases hsign with rfl | rfl <;> rfl
        rw [read] at h
        split_ifs at h with digit
        cases h
        exact ⟨b, s, rfl, digit, rfl⟩
  cases s with
  | nil => cases h
  | cons b s =>
      by_cases hplus : b = plus
      · subst hplus
        obtain ⟨b, tail, rfl, digit, ended⟩ := signed (.inl rfl) h
        exact ⟨[plus], b, tail, .inr (.inl rfl), rfl, digit, ended⟩
      by_cases hminus : b = minus
      · subst hminus
        obtain ⟨b, tail, rfl, digit, ended⟩ := signed (.inr rfl) h
        exact ⟨[minus], b, tail, .inr (.inr rfl), rfl, digit, ended⟩
      rw [skipExponent] at h
      · split_ifs at h with digit
        cases h
        exact ⟨[], b, s, .inl rfl, rfl, digit, rfl⟩
      · exact fun _ same => hplus (List.cons.inj same).1
      · exact fun _ same => hminus (List.cons.inj same).1

/-- What is passed over as an exponent is one. -/
theorem exists_exponent {letter : UInt8} (hletter : letter = lowerE ∨ letter = upperE)
    (h : skipExponent s = .ok rest) :
    ∃ exponent, IsExponent exponent ∧ letter :: s = exponent ++ rest := by
  obtain ⟨sign, b, tail, hsign, rfl, digit, rfl⟩ := skipExponent_ok h
  obtain ⟨ds, digits, shape⟩ := exists_isDigits digit tail
  refine ⟨letter :: (sign ++ b :: ds), .digits hletter hsign digits, ?_⟩
  rw [List.cons_append, List.append_assoc, List.cons_append, ← shape]

/-- What is passed over after the digits before the point is a fraction and an exponent. -/
theorem exists_parts_of_skipAfterWhole (h : skipAfterWhole s = .ok rest) :
    ∃ fraction exponent, IsFraction fraction ∧ IsExponent exponent ∧
      s = fraction ++ (exponent ++ rest) := by
  unfold skipAfterWhole at h
  split at h
  · next s =>
      split_ifs at h with first
      cases s with
      | nil => cases first
      | cons b s =>
          rw [List.dropWhile_cons_of_pos (show Octets.isDigit b = true from first)] at h
          obtain ⟨ds, digits, shape⟩ := exists_isDigits first s
          generalize s.dropWhile Octets.isDigit = further at h shape
          have point : IsFraction (dot :: b :: ds) := .digits digits
          rw [shape]
          split at h
          · obtain ⟨exponent, he, shape⟩ := exists_exponent (.inl rfl) h
            exact ⟨_, exponent, point, he, congrArg (dot :: b :: ds ++ ·) shape⟩
          · obtain ⟨exponent, he, shape⟩ := exists_exponent (.inr rfl) h
            exact ⟨_, exponent, point, he, congrArg (dot :: b :: ds ++ ·) shape⟩
          · cases h
            exact ⟨_, [], point, .none, rfl⟩
  · obtain ⟨exponent, he, shape⟩ := exists_exponent (.inl rfl) h
    exact ⟨[], exponent, .none, he, shape⟩
  · obtain ⟨exponent, he, shape⟩ := exists_exponent (.inr rfl) h
    exact ⟨[], exponent, .none, he, shape⟩
  · cases h
    exact ⟨[], [], .none, .none, rfl⟩

/-- What is passed over as a number is one. -/
theorem exists_unsigned_of_skipNumber (h : skipNumber s = .ok rest) :
    ∃ number, IsUnsigned number ∧ s = number ++ rest := by
  obtain ⟨whole, further, hwhole, shape, skipped⟩ : ∃ whole further, IsWhole whole ∧
      s = whole ++ further ∧ skipAfterWhole further = .ok rest := by
    cases s with
    | nil => cases h
    | cons b s =>
        simp only [skipNumber] at h
        split_ifs at h with hzero first digit
        · rw [beq_iff_eq.mp hzero]
          exact ⟨[zero], s, ⟨isDigits_digitOctets 0, fun _ => rfl⟩, rfl, h⟩
        · obtain ⟨ds, digits, shape⟩ := exists_isDigits digit s
          have notZero : b ≠ zero := by simpa using hzero
          refine ⟨b :: ds, _, ⟨digits, fun first => absurd (Option.some.inj first) notZero⟩, ?_, h⟩
          rw [List.cons_append, ← shape]
  obtain ⟨fraction, exponent, hf, he, rfl⟩ := exists_parts_of_skipAfterWhole skipped
  exact ⟨_, .parts hwhole hf he, by simp only [shape, List.append_assoc]⟩

section Reading

variable {negative : Bool} {x : Decimal.Scaled} {n : Number}

theorem finishFloat_ok (h : finishFloat negative x s = .ok (n, rest)) : s = rest := by
  rw [finishFloat] at h
  split at h <;> cases h
  rfl

theorem readExponentDigits_ok {down : Bool} {e : Nat}
    (h : readExponentDigits negative x down e s = .ok (n, rest)) :
    s.dropWhile Octets.isDigit = rest := by
  induction s generalizing e with
  | nil => exact finishFloat_ok h
  | cons b s ih =>
      unfold readExponentDigits at h
      by_cases digit : Octets.isDigit b = true
      · rw [List.dropWhile_cons_of_pos digit]
        rw [if_pos digit] at h
        dsimp only at h
        split_ifs at h
        · cases h
          rfl
        · exact ih h
      · rw [List.dropWhile_cons_of_neg digit]
        rw [if_neg digit] at h
        exact finishFloat_ok h

theorem skipExponent_of_readExponent (h : readExponent negative x s = .ok (n, rest)) :
    skipExponent s = .ok rest := by
  have further (down : Bool) {s : Octets} {b : UInt8}
      (h : (if Octets.isDigit b then readExponentDigits negative x down (Octets.digitValue b) s
        else .error ⟨.badNumber, .consumed s⟩) = .ok (n, rest)) :
      (if Octets.isDigit b then .ok (s.dropWhile Octets.isDigit)
        else .error ⟨.badNumber, .consumed s⟩ : Except Fault Octets) = .ok rest := by
    split_ifs at h ⊢ with digit
    rw [readExponentDigits_ok h]
  cases s with
  | nil => cases h
  | cons b s =>
      by_cases hplus : b = plus
      · subst hplus
        cases s with
        | nil => cases h
        | cons b s => exact further false h
      by_cases hminus : b = minus
      · subst hminus
        cases s with
        | nil => cases h
        | cons b s => exact further true h
      unfold readExponent at h
      rw [skipExponent]
      · split at h
        next down s' sign =>
          split at sign
          · next same => exact absurd (List.cons.inj same).1 hplus
          · next same => exact absurd (List.cons.inj same).1 hminus
          · cases sign
            exact further false h
      · exact fun _ same => hplus (List.cons.inj same).1
      · exact fun _ same => hminus (List.cons.inj same).1

theorem skipAfterWhole_of_readAfterWhole {whole : List Nat}
    (h : readAfterWhole negative whole s = .ok (n, rest)) : skipAfterWhole s = .ok rest := by
  unfold readAfterWhole at h
  dsimp only at h
  split at h
  · next s =>
      refine (skipAfterWhole.eq_1 s).trans ?_
      split at h
      · cases h
      · cases h
      · next fraction further notEmpty notEmpty' span =>
          obtain ⟨taken, left⟩ := Prod.mk.inj span
          have first : startsWithDigit s = true := by
            cases s with
            | nil => exact absurd taken.symm notEmpty'
            | cons b s =>
                by_contra noDigit
                have none : (b :: s).takeWhile Octets.isDigit = [] :=
                  List.takeWhile_cons_of_neg noDigit
                rw [none] at taken
                exact notEmpty' taken.symm
          rw [if_pos first, left]
          split at h
          · exact skipExponent_of_readExponent h
          · exact skipExponent_of_readExponent h
          · next noLower noUpper =>
              obtain rfl := finishFloat_ok h
              split
              · exact absurd rfl (noLower _)
              · exact absurd rfl (noUpper _)
              · rfl
  · exact skipExponent_of_readExponent h
  · exact skipExponent_of_readExponent h
  · next noDot noLower noUpper =>
      rw [skipAfterWhole]
      · split_ifs at h
        · rw [finishFloat_ok h]
        all_goals
          cases h
          rfl
      · exact noDot
      · exact noLower
      · exact noUpper

/-- A number that is read would be passed over. -/
theorem skipNumber_of_readNumber (h : readNumber negative s = .ok (n, rest)) :
    skipNumber s = .ok rest := by
  cases s with
  | nil => cases h
  | cons b s =>
      simp only [readNumber] at h
      rw [skipNumber]
      split_ifs at h ⊢ with hzero first digit
      · exact skipAfterWhole_of_readAfterWhole h
      · have further := skipAfterWhole_of_readAfterWhole h
        rwa [spanDigits, List.dropWhile_cons_of_pos digit] at further

/-- What is read as a number is one. -/
theorem exists_unsigned_of_readNumber (h : readNumber negative s = .ok (n, rest)) :
    ∃ number, IsUnsigned number ∧ s = number ++ rest :=
  exists_unsigned_of_skipNumber (skipNumber_of_readNumber h)

end Reading

end PulseBridge.Json
