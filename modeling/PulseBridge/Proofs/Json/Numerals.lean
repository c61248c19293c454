import PulseBridge.Proofs.Json.Members
import PulseBridge.Proofs.Json.Numbers

/-!
# The grammar of numbers

A number is an optional sign, the digits before the point, and then optionally a point with digits
and an exponent. Digits before the point have no zero in front of others. Whatever is a number by
this grammar is passed over as one value, and it is read as the same number whatever follows it, or
not at all.

## Main definitions

* `IsNumber`: the grammar.
* `Settled`: what is made of some octets does not depend on what follows them.

## Main statements

* `IsNumber.isLeaf`: a number is passed over.
* `IsUnsigned.settled`: the reading of a number is settled.
-/

namespace PulseBridge.Json

open Ascii

/-- Nothing, or a point and digits. -/
inductive IsFraction : Octets → Prop
  | none : IsFraction []
  | digits {ds : Octets} (digits : IsDigits ds) : IsFraction (dot :: ds)

/-- Nothing, or a letter, an optional sign and digits. -/
inductive IsExponent : Octets → Prop
  | none : IsExponent []
  | digits {letter : UInt8} {sign ds : Octets} (hletter : letter = lowerE ∨ letter = upperE)
      (hsign : sign = [] ∨ sign = [plus] ∨ sign = [minus]) (digits : IsDigits ds) :
      IsExponent (letter :: (sign ++ ds))

/-- A number without a sign. -/
inductive IsUnsigned : Octets → Prop
  | parts {whole fraction exponent : Octets} (hwhole : IsWhole whole)
      (hfraction : IsFraction fraction) (hexponent : IsExponent exponent) :
      IsUnsigned (whole ++ (fraction ++ exponent))

/-- A number as JSON has it. -/
inductive IsNumber : Octets → Prop
  | unsigned {s : Octets} (h : IsUnsigned s) : IsNumber s
  | negative {s : Octets} (h : IsUnsigned s) : IsNumber (minus :: s)

/-! ## Passing over a number -/

theorem dropWhile_digits {ds rest : Octets} (digits : ∀ b ∈ ds, Octets.isDigit b = true)
    (ends : EndsDigits rest) : (ds ++ rest).dropWhile Octets.isDigit = rest :=
  congrArg Prod.snd (spanDigits_append digits ends)

theorem skipExponent_digits {sign ds rest : Octets}
    (hsign : sign = [] ∨ sign = [plus] ∨ sign = [minus]) (digits : IsDigits ds)
    (follows : Follows rest) : skipExponent (sign ++ ds ++ rest) = .ok rest := by
  obtain ⟨b, tail, rfl⟩ := List.exists_cons_of_ne_nil digits.1
  have first : Octets.isDigit b = true := digits.2 b List.mem_cons_self
  have further : (tail ++ rest).dropWhile Octets.isDigit = rest :=
    dropWhile_digits (fun c hc => digits.2 c (List.mem_cons_of_mem b hc)) follows.endsDigits
  have read : (if Octets.isDigit b = true then
      Except.ok ((tail ++ rest).dropWhile Octets.isDigit)
      else .error ⟨.badNumber, .consumed (tail ++ rest)⟩ : Except Fault Octets) = .ok rest := by
    rw [if_pos first, further]
  rcases hsign with rfl | rfl | rfl
  · rw [List.nil_append, List.cons_append, skipExponent]
    · exact read
    · intro _ h
      exact ne_of_isDigit first rfl (List.cons.inj h).1
    · intro _ h
      exact ne_of_isDigit first rfl (List.cons.inj h).1
  · exact read
  · exact read

theorem skipAfterWhole_exponent {exponent rest : Octets} (h : IsExponent exponent)
    (follows : Follows rest) : skipAfterWhole (exponent ++ rest) = .ok rest := by
  cases h with
  | none =>
      rw [List.nil_append, skipAfterWhole]
      · rintro _ rfl
        exact (follows.ends rfl).2.1 rfl
      · rintro _ rfl
        exact (follows.ends rfl).2.2.1 rfl
      · rintro _ rfl
        exact (follows.ends rfl).2.2.2 rfl
  | digits hletter hsign digits =>
      have skip := skipExponent_digits hsign digits follows
      rcases hletter with rfl | rfl <;> exact skip

/-- An exponent, or what follows the number, is neither a digit nor a point. -/
theorem endsFraction_exponent {exponent rest : Octets} (h : IsExponent exponent)
    (follows : Follows rest) :
    ∀ b ∈ (exponent ++ rest).head?, Octets.isDigit b = false ∧ b ≠ dot := by
  cases h with
  | none =>
      intro b hb
      obtain ⟨noDigit, noDot, -⟩ := follows.ends hb
      exact ⟨noDigit, noDot⟩
  | digits hletter hsign digits =>
      rintro b ⟨⟩
      rcases hletter with rfl | rfl <;> exact ⟨rfl, by decide⟩

theorem endsDigits_fraction {fraction rest : Octets} (h : IsFraction fraction)
    (ends : EndsDigits rest) : EndsDigits (fraction ++ rest) := by
  cases h with
  | none => exact ends
  | digits digits =>
      rintro b ⟨⟩
      rfl

/-- After a point and its digits everything may follow that may follow the digits before it, except
for another point. -/
theorem skipAfterWhole_dot {s : Octets} (first : startsWithDigit s = true)
    (noDot : ∀ b ∈ (s.dropWhile Octets.isDigit).head?, b ≠ dot) :
    skipAfterWhole (dot :: s) = skipAfterWhole (s.dropWhile Octets.isDigit) := by
  refine (skipAfterWhole.eq_1 s).trans ?_
  rw [if_pos first]
  generalize s.dropWhile Octets.isDigit = further at noDot ⊢
  split
  · rfl
  · rfl
  · next noLower noUpper =>
      cases further with
      | nil => rfl
      | cons b rest =>
          rw [skipAfterWhole]
          · intro _ h
            exact noDot b rfl (List.cons.inj h).1
          · exact noLower
          · exact noUpper

/-- What may follow the digits before the point is passed over. -/
theorem skipAfterWhole_fraction {fraction exponent rest : Octets} (hf : IsFraction fraction)
    (he : IsExponent exponent) (follows : Follows rest) :
    skipAfterWhole (fraction ++ (exponent ++ rest)) = .ok rest := by
  have ends := endsFraction_exponent he follows
  cases hf with
  | none => exact skipAfterWhole_exponent he follows
  | @digits ds digits =>
      have further : (ds ++ (exponent ++ rest)).dropWhile Octets.isDigit = exponent ++ rest :=
        dropWhile_digits digits.2 fun b hb => (ends b hb).1
      have first : startsWithDigit (ds ++ (exponent ++ rest)) = true := by
        obtain ⟨b, tail, rfl⟩ := List.exists_cons_of_ne_nil digits.1
        exact digits.2 b List.mem_cons_self
      calc skipAfterWhole (dot :: (ds ++ (exponent ++ rest)))
          = skipAfterWhole ((ds ++ (exponent ++ rest)).dropWhile Octets.isDigit) :=
            skipAfterWhole_dot first (by rw [further]; exact fun b hb => (ends b hb).2)
        _ = skipAfterWhole (exponent ++ rest) := by rw [further]
        _ = .ok rest := skipAfterWhole_exponent he follows

theorem skipNumber_whole {whole rest : Octets} (hw : IsWhole whole) (ends : EndsDigits rest) :
    skipNumber (whole ++ rest) = skipAfterWhole rest := by
  obtain ⟨b, tail, rfl⟩ := List.exists_cons_of_ne_nil hw.1.1
  have first : Octets.isDigit b = true := hw.1.2 b List.mem_cons_self
  have further : (tail ++ rest).dropWhile Octets.isDigit = rest :=
    dropWhile_digits (fun c hc => hw.1.2 c (List.mem_cons_of_mem b hc)) ends
  by_cases hzero : b = zero
  · subst hzero
    obtain rfl : tail = [] := (List.cons.inj (hw.2 rfl)).2
    have alone : startsWithDigit rest = false := by
      cases rest with
      | nil => rfl
      | cons b rest => exact ends b rfl
    change (if startsWithDigit rest = true then _ else _) = _
    rw [if_neg (by simp [alone])]
    rfl
  · rw [List.cons_append, skipNumber, if_neg (by simpa using hzero), if_pos first, further]

/-- A number without a sign begins with a digit and is passed over from there. -/
theorem IsUnsigned.skip {s : Octets} (h : IsUnsigned s) :
    ∃ b tail, s = b :: tail ∧ Octets.isDigit b = true ∧
      ∀ rest, Follows rest → skipNumber (s ++ rest) = .ok rest := by
  obtain @⟨whole, fraction, exponent, hwhole, hfraction, hexponent⟩ := h
  obtain ⟨b, tail, rfl⟩ := List.exists_cons_of_ne_nil hwhole.1.1
  refine ⟨b, tail ++ (fraction ++ exponent), rfl, hwhole.1.2 b List.mem_cons_self, ?_⟩
  intro rest follows
  have ends : EndsDigits (fraction ++ (exponent ++ rest)) :=
    endsDigits_fraction hfraction fun b hb => (endsFraction_exponent hexponent follows b hb).1
  rw [List.append_assoc, List.append_assoc,
    skipNumber_whole hwhole ends,
    skipAfterWhole_fraction hfraction hexponent follows]

/-- A number is passed over. -/
theorem IsNumber.isLeaf {s : Octets} (h : IsNumber s) : IsLeaf s := by
  cases h with
  | unsigned h =>
      obtain ⟨b, tail, rfl, first, skip⟩ := h.skip
      have other (c : UInt8) (hc : Octets.isDigit c = false) : (b == c) = false :=
        beq_eq_false_iff_ne.mpr (ne_of_isDigit first hc)
      have noBracket : b ∉ [openBracket, openBrace, closeBracket] := by
        intro bracket
        simp only [List.mem_cons, List.not_mem_nil, or_false] at bracket
        rcases bracket with rfl | rfl | rfl <;> exact absurd first (by decide)
      refine ⟨b, tail, rfl, isBlank_of_isDigit first, noBracket, ?_⟩
      intro rest follows
      rw [skipLeaf]
      simp only [other lowerN rfl, other lowerT rfl, other lowerF rfl, other minus rfl, first,
        Bool.false_eq_true, if_false, if_true]
      exact skip rest follows
  | @negative s h =>
      obtain ⟨b, tail, rfl, first, skip⟩ := h.skip
      refine ⟨minus, b :: tail, rfl, rfl, by decide, ?_⟩
      intro rest follows
      exact skip rest follows

/-- The digits of a natural number are a number. -/
theorem isUnsigned_digitOctets (n : Nat) : IsUnsigned (digitOctets n) := by
  have number := IsUnsigned.parts (isWhole_digitOctets n) .none .none
  rwa [List.append_nil, List.append_nil] at number

theorem isNumber_digitOctets (n : Nat) : IsNumber (digitOctets n) :=
  .unsigned (isUnsigned_digitOctets n)

theorem isNumber_toString (n : Nat) : IsNumber (Octets.ofText (toString n)) := by
  rw [ofText_toString]
  exact isNumber_digitOctets n

/-! ## Reading a number -/

variable {α : Type} {rest : Octets}

/-- Whether what is made of some octets does not depend on what follows them: always the same value,
and what follows is left, or always a fault. -/
def Settled (f : Octets → Except Fault (α × Octets)) : Prop :=
  ∃ outcome : Option α, ∀ rest, Follows rest → (f rest).toOption = outcome.map (·, rest)

theorem settled_ok (a : α) : Settled fun rest => (.ok (a, rest)) :=
  ⟨some a, fun _ _ => rfl⟩

theorem Settled.congr {f g : Octets → Except Fault (α × Octets)} (h : Settled f)
    (same : ∀ rest, Follows rest → g rest = f rest) : Settled g := by
  obtain ⟨outcome, settled⟩ := h
  exact ⟨outcome, fun rest follows => (congrArg _ (same rest follows)).trans (settled rest follows)⟩

theorem settled_finishFloat (negative : Bool) (x : Decimal.Scaled) :
    Settled (finishFloat negative x) := by
  refine ⟨x.toFloat?.map fun f => .float (signed negative f), fun rest _ => ?_⟩
  rw [finishFloat]
  cases x.toFloat? <;> rfl

theorem readExponentDigits_of_follows (negative : Bool) (x : Decimal.Scaled) (down : Bool) (e : Nat)
    (follows : Follows rest) :
    readExponentDigits negative x down e rest =
      finishFloat negative
        ⟨x.significand, if down then x.exponent - e else x.exponent + e⟩ rest := by
  cases rest with
  | nil => rfl
  | cons b rest =>
      rw [readExponentDigits, if_neg]
      simp [(follows.ends rfl).1]

theorem settled_readExponentDigits (negative : Bool) (x : Decimal.Scaled) (down : Bool) (e : Nat)
    {ds : Octets} (digits : ∀ b ∈ ds, Octets.isDigit b = true) :
    Settled fun rest => readExponentDigits negative x down e (ds ++ rest) := by
  induction ds generalizing e with
  | nil =>
      exact (settled_finishFloat negative _).congr fun rest follows =>
        readExponentDigits_of_follows negative x down e follows
  | cons d ds ih =>
      obtain ⟨digit, digits⟩ := List.forall_mem_cons.mp digits
      simp only [List.cons_append, readExponentDigits, digit, if_true]
      split_ifs
      · exact ⟨none, fun _ _ => rfl⟩
      · refine (settled_ok (.float (signed negative 0))).congr fun rest follows => ?_
        rw [dropWhile_digits digits follows.endsDigits]
      · exact ih _ digits

theorem settled_readExponent (negative : Bool) (x : Decimal.Scaled) {sign ds : Octets}
    (hsign : sign = [] ∨ sign = [plus] ∨ sign = [minus]) (digits : IsDigits ds) :
    Settled fun rest => readExponent negative x (sign ++ ds ++ rest) := by
  obtain ⟨b, tail, rfl⟩ := List.exists_cons_of_ne_nil digits.1
  obtain ⟨first, further⟩ := List.forall_mem_cons.mp digits.2
  have read (down : Bool) :=
    settled_readExponentDigits negative x down (Octets.digitValue b) further
  rcases hsign with rfl | rfl | rfl
  · refine (read false).congr fun rest _ => ?_
    have notPlus : b ≠ plus := ne_of_isDigit first rfl
    have notMinus : b ≠ minus := ne_of_isDigit first rfl
    simp only [List.nil_append, List.cons_append]
    unfold readExponent
    split
    next down s heq =>
      split at heq
      · next h => exact absurd (List.cons.inj h).1 notPlus
      · next h => exact absurd (List.cons.inj h).1 notMinus
      · obtain ⟨rfl, rfl⟩ := Prod.mk.inj heq
        simp [first]
  · refine (read false).congr fun rest _ => ?_
    exact if_pos first
  · refine (read true).congr fun rest _ => ?_
    exact if_pos first

/-- An exponent, if there is one. -/
theorem settled_afterExponent (negative : Bool) (x : Decimal.Scaled) {exponent : Octets}
    (h : IsExponent exponent) {f : Octets → Except Fault (Number × Octets)}
    (lower : ∀ rest, f (lowerE :: rest) = readExponent negative x rest)
    (upper : ∀ rest, f (upperE :: rest) = readExponent negative x rest)
    (none : Settled f) : Settled fun rest => f (exponent ++ rest) := by
  cases h with
  | none => exact none
  | digits hletter hsign digits =>
      refine (settled_readExponent negative x hsign digits).congr fun rest _ => ?_
      rcases hletter with rfl | rfl
      · exact lower _
      · exact upper _

theorem settled_readAfterWhole (negative : Bool) (whole : List Nat) {fraction exponent : Octets}
    (hf : IsFraction fraction) (he : IsExponent exponent) :
    Settled fun rest => readAfterWhole negative whole (fraction ++ (exponent ++ rest)) := by
  cases hf with
  | none =>
      refine settled_afterExponent negative _ he (fun _ => rfl) (fun _ => rfl) ?_
      refine Settled.congr ?_ fun rest follows => readAfterWhole_of_follows negative whole follows
      dsimp only
      split_ifs
      · exact settled_finishFloat ..
      · exact settled_ok _
      · exact settled_ok _
      · exact settled_ok _
  | @digits ds digits =>
      obtain ⟨d, tail, rfl⟩ := List.exists_cons_of_ne_nil digits.1
      let x := (Decimal.Scaled.whole ⟨0, 0⟩ whole).fraction ((d :: tail).map Octets.digitValue)
      refine settled_afterExponent
        (f := fun rest => readAfterWhole negative whole (dot :: (d :: tail ++ rest)))
        negative x he ?lower ?upper ?ended
      case lower =>
        intro rest
        refine (readAfterWhole.eq_1 negative whole _).trans ?_
        rw [spanDigits_append digits.2 (by rintro b ⟨⟩; rfl)]
        rfl
      case upper =>
        intro rest
        refine (readAfterWhole.eq_1 negative whole _).trans ?_
        rw [spanDigits_append digits.2 (by rintro b ⟨⟩; rfl)]
        rfl
      case ended =>
        refine (settled_finishFloat negative x).congr fun rest follows => ?_
        refine (readAfterWhole.eq_1 negative whole _).trans ?_
        rw [spanDigits_append digits.2 follows.endsDigits]
        split
        · next h => cases h
        · next h => cases h
        · next h =>
            cases h
            split
            · exact absurd rfl (follows.ends rfl).2.2.1
            · exact absurd rfl (follows.ends rfl).2.2.2
            · rfl

/-- A number without its sign is settled. -/
theorem IsUnsigned.settled {s : Octets} (h : IsUnsigned s) (negative : Bool) :
    Settled fun rest => readNumber negative (s ++ rest) := by
  obtain @⟨whole, fraction, exponent, hwhole, hfraction, hexponent⟩ := h
  refine (settled_readAfterWhole negative (whole.map Octets.digitValue) hfraction hexponent).congr
    fun rest follows => ?_
  rw [List.append_assoc, List.append_assoc]
  exact readNumber_whole negative hwhole
    (endsDigits_fraction hfraction fun b hb => (endsFraction_exponent hexponent follows b hb).1)

end PulseBridge.Json
