import PulseBridge.Proofs.Json.Outcomes
import PulseBridge.Proofs.Json.Scanned

/-!
# What is passed over is a value

Passing over goes from token to token, with the open brackets on a stack. So what it has gone over
is a value only together with what comes after it, up to where the last bracket is closed. Nothing
is passed over but what spells a value of the grammar.

## Main definitions

* `Tree.Leads`: octets that begin with a spelling of a tree.
* `Completes`, `Closes`: octets that complete an open bracket, or all of them.

## Main statements

* `beginsWithValue_of_skipValue`: what is passed over spells a tree.
-/

namespace PulseBridge.Json

open Ascii

variable {s rest : Octets}

/-! ## Values without brackets -/

theorem readLetters_ok {letters : Octets} (h : readLetters letters s = .ok rest) :
    s = letters ++ rest := by
  induction letters generalizing s with
  | nil =>
      cases h
      rfl
  | cons letter letters ih =>
      cases s with
      | nil => cases h
      | cons b s =>
          simp only [readLetters] at h
          split_ifs at h with same
          rw [beq_iff_eq.mp same, List.cons_append, ← ih h]

/-- What is passed over as a value without brackets spells one. -/
theorem exists_tree_of_skipLeaf {b : UInt8} (h : skipLeaf b s = .ok rest) :
    ∃ (t : Tree) (core : Octets), t.Spells core ∧ b :: s = core ++ rest := by
  unfold skipLeaf at h
  split_ifs at h with hnull htrue hfalse hminus digit htext
  · rw [beq_iff_eq.mp hnull, readLetters_ok h]
    exact ⟨.null, _, rfl, rfl⟩
  · rw [beq_iff_eq.mp htrue, readLetters_ok h]
    exact ⟨.boolean true, _, rfl, rfl⟩
  · rw [beq_iff_eq.mp hfalse, readLetters_ok h]
    exact ⟨.boolean false, _, rfl, rfl⟩
  · obtain ⟨number, isUnsigned, rfl⟩ := exists_unsigned_of_skipNumber h
    rw [beq_iff_eq.mp hminus]
    exact ⟨.number ⟨_, .negative isUnsigned⟩, _, rfl, rfl⟩
  · obtain ⟨number, isUnsigned, shape⟩ := exists_unsigned_of_skipNumber h
    exact ⟨.number ⟨number, .unsigned isUnsigned⟩, _, rfl, shape⟩
  · obtain ⟨literal, rfl⟩ := exists_quotable_of_skipText h
    rw [beq_iff_eq.mp htext]
    exact ⟨.text literal, _, rfl, by simp [Quotable.inQuotes]⟩

/-! ## Brackets -/

/-- Whether octets begin with a spelling of a tree, after some blanks, and go on with `rest`. -/
def Tree.Leads (t : Tree) (s rest : Octets) : Prop :=
  ∃ before core, Blanks before ∧ t.Spells core ∧ s = before ++ (core ++ rest)

/-- What is skipped are blanks. -/
theorem exists_blanks (s : Octets) : ∃ before, Blanks before ∧ s = before ++ skipBlanks s :=
  ⟨s.takeWhile isBlank, List.all_eq_true.mp List.all_takeWhile,
    List.takeWhile_append_dropWhile.symm⟩

theorem exists_blanks_of_skipBlanks {b : UInt8} {tail : Octets} (h : skipBlanks s = b :: tail) :
    ∃ before, Blanks before ∧ isBlank b = false ∧ s = before ++ b :: tail := by
  obtain ⟨before, hbefore, shape⟩ := exists_blanks s
  refine ⟨before, hbefore, ?_, by rwa [h] at shape⟩
  have first := List.head?_dropWhile_not isBlank s
  rwa [← skipBlanks, h] at first

theorem leads_of_spells {t : Tree} {core : Octets} (h : t.Spells core) (rest : Octets) :
    t.Leads (core ++ rest) rest :=
  ⟨[], core, blanks_nil, h, rfl⟩

/-- Blanks may stand in front of a value. -/
theorem Tree.Leads.of_skipBlanks {t : Tree} {b : UInt8} {tail : Octets}
    (h : t.Leads (b :: tail) rest) (skipped : skipBlanks s = b :: tail) : t.Leads s rest := by
  obtain ⟨before, hbefore, -, rfl⟩ := exists_blanks_of_skipBlanks skipped
  obtain ⟨front, core, hfront, spells, shape⟩ := h
  refine ⟨before ++ front, core, hbefore.append hfront, spells, ?_⟩
  rw [shape, List.append_assoc]

/-- Whether octets begin with a value, after some blanks, and go on with `rest`. -/
def BeginsWithValue (s rest : Octets) : Prop := ∃ t : Tree, t.Leads s rest

theorem BeginsWithValue.of_skipBlanks {b : UInt8} {tail : Octets}
    (h : BeginsWithValue (b :: tail) rest) (skipped : skipBlanks s = b :: tail) :
    BeginsWithValue s rest := by
  obtain ⟨t, leads⟩ := h
  exact ⟨t, leads.of_skipBlanks skipped⟩

theorem readColon_ok (h : readColon s = .ok rest) :
    ∃ between, Blanks between ∧ s = between ++ colon :: rest := by
  rw [readColon] at h
  split at h
  · cases h
  · next b tail skipped =>
      split_ifs at h with hcolon
      cases h
      obtain ⟨between, hbetween, -, shape⟩ := exists_blanks_of_skipBlanks skipped
      exact ⟨between, hbetween, by rw [shape, beq_iff_eq.mp hcolon]⟩

/-- What is passed over as a key with its colon spells them. -/
theorem exists_key_of_skipKey (h : skipKey s = .ok rest) :
    ∃ (before : Octets) (key : Quotable) (between : Octets), Blanks before ∧ Blanks between ∧
      s = before ++ (key.inQuotes ++ (between ++ colon :: rest)) := by
  rw [skipKey] at h
  split at h
  · cases h
  · next b tail skipped =>
      split_ifs at h with hquote
      obtain ⟨before, hbefore, -, rfl⟩ := exists_blanks_of_skipBlanks skipped
      cases hskip : skipText tail with
      | error fault =>
          rw [hskip] at h
          cases h
      | ok further =>
          rw [hskip] at h
          obtain ⟨between, hbetween, rfl⟩ := readColon_ok h
          obtain ⟨key, rfl⟩ := exists_quotable_of_skipText hskip
          refine ⟨before, key, between, hbefore, hbetween, ?_⟩
          simp only [beq_iff_eq.mp hquote, Quotable.inQuotes, List.cons_append, List.append_assoc,
            List.nil_append]

/-- Whether octets are entries of a bracket. -/
def SpellsEntries : Bracket → List Octets → Prop
  | .list, parts => ∃ ts, SpellsEach ts parts
  | .object, parts => ∃ ms, SpellsMembers ms parts

/-- What stands in front of an entry. -/
def separator (first : Bool) : Octets := if first then [] else [comma]

theorem entries_cons (first : Bool) (part : Octets) (parts : List Octets) :
    entries first (part :: parts) = separator first ++ (part ++ entries false parts) := by
  cases first with
  | true => exact entries_true_cons part parts
  | false => rfl

/-- Whether octets complete an open bracket: they are entries of it and its closing octet, and go on
with `rest`. -/
def Completes (bracket : Bracket) (first : Bool) (s rest : Octets) : Prop :=
  ∃ blanks parts, Blanks blanks ∧ SpellsEntries bracket parts ∧
    s = blanks ++ (entries first parts ++ bracket.closer :: rest)

section Completes

variable {before inner between : Octets} {t : Tree} {s' : Octets}

theorem completes_end (bracket : Bracket) (first : Bool) (hbefore : Blanks before) (rest : Octets) :
    Completes bracket first (before ++ bracket.closer :: rest) rest := by
  refine ⟨before, [], hbefore, ?_, by rw [entries_nil, List.nil_append]⟩
  cases bracket <;> exact ⟨[], rfl⟩

/-- A value is one more element of a list. -/
theorem Completes.element (further : Completes .list false s' rest) (leads : t.Leads s s')
    (first : Bool) (hbefore : Blanks before) (hinner : Blanks inner) :
    Completes .list first (before ++ (separator first ++ (inner ++ s))) rest := by
  obtain ⟨blanks, parts, hblanks, ⟨ts, each⟩, rfl⟩ := further
  obtain ⟨front, core, hfront, spells, rfl⟩ := leads
  have part : Padded t.Spells (inner ++ front ++ (core ++ blanks)) :=
    ⟨_, core, blanks, hinner.append hfront, spells, hblanks, rfl⟩
  refine ⟨before, _, hbefore, ⟨t :: ts, _, parts, part, each, rfl⟩, ?_⟩
  simp only [entries_cons, List.append_assoc]

/-- A key and a value are one more member of an object. -/
theorem Completes.member (further : Completes .object false s' rest) (leads : t.Leads s s')
    (first : Bool) (key : Quotable) (hbefore : Blanks before) (hinner : Blanks inner)
    (hbetween : Blanks between) :
    Completes .object first
      (before ++ (separator first ++ (inner ++ (key.inQuotes ++ (between ++ colon :: s)))))
      rest := by
  obtain ⟨blanks, parts, hblanks, ⟨ms, members⟩, rfl⟩ := further
  obtain ⟨front, core, hfront, spells, rfl⟩ := leads
  have part := spellsMember_of key spells inner between front blanks hinner hbetween hfront hblanks
  refine ⟨before, _, hbefore, ⟨(key, t) :: ms, _, parts, part, members, rfl⟩, ?_⟩
  simp only [entries_cons, List.append_assoc, List.cons_append]

theorem Completes.list (h : Completes .list true s rest) :
    ∃ ts, (Tree.list ts).Leads (openBracket :: s) rest := by
  obtain ⟨blanks, parts, hblanks, ⟨ts, each⟩, rfl⟩ := h
  refine ⟨ts, [], _, blanks_nil, ⟨blanks, parts, hblanks, each, rfl⟩, ?_⟩
  simp [entries, Bracket.closer]

theorem Completes.object (h : Completes .object true s rest) :
    ∃ ms, (Tree.object ms).Leads (openBrace :: s) rest := by
  obtain ⟨blanks, parts, hblanks, ⟨ms, members⟩, rfl⟩ := h
  refine ⟨ms, [], _, blanks_nil, ⟨blanks, parts, hblanks, members, rfl⟩, ?_⟩
  simp [entries, Bracket.closer]

/-- A bracket that is completed is a value. -/
theorem Completes.isValue {bracket : Bracket} (h : Completes bracket true s rest) :
    BeginsWithValue (bracket.opener :: s) rest := by
  cases bracket with
  | list =>
      obtain ⟨ts, leads⟩ := h.list
      exact ⟨_, leads⟩
  | object =>
      obtain ⟨ms, leads⟩ := h.object
      exact ⟨_, leads⟩

end Completes

/-! ## Passing over -/

/-- Whether octets complete the open brackets, one after the other from the innermost. -/
def Closes : List Bracket → Octets → Octets → Prop
  | [], s, rest => s = rest
  | bracket :: stack, s, rest => ∃ s', Completes bracket false s s' ∧ Closes stack s' rest

/-- Whether octets are such as a task names, and then complete the open brackets. -/
def SkipTask.Leads : SkipTask → List Bracket → Octets → Octets → Prop
  | .value, stack, s, rest => ∃ t s', Tree.Leads t s s' ∧ Closes stack s' rest
  | .next, stack, s, rest => Closes stack s rest
  | .key, stack, s, rest =>
      ∃ before key between s', Blanks before ∧ Blanks between ∧
        s = before ++ (Quotable.inQuotes key ++ (between ++ colon :: s')) ∧
        ∃ t s'', Tree.Leads t s' s'' ∧ Closes stack s'' rest

/-- An entry and what comes after it complete the innermost bracket. -/
theorem SkipTask.Leads.completes {bracket : Bracket} {stack : List Bracket}
    (h : bracket.entry.Leads (bracket :: stack) s rest) {before : Octets} (first : Bool)
    (hbefore : Blanks before) :
    ∃ s', Completes bracket first (before ++ (separator first ++ s)) s' ∧ Closes stack s' rest := by
  cases bracket with
  | list =>
      obtain ⟨t, s', leads, s'', further, closes⟩ := h
      exact ⟨s'', further.element leads first hbefore blanks_nil, closes⟩
  | object =>
      obtain ⟨inner, key, between, s', hinner, hbetween, rfl, t, s'', leads, s₃, further, closes⟩ :=
        h
      exact ⟨s₃, further.member leads first key hbefore hinner hbetween, closes⟩

section Rounds

variable {clock : Octets} {stack : List Bracket}

/-- Whether whatever is passed over in so many rounds is such as the task names. -/
def RoundsLead (clock rest : Octets) : Prop :=
  ∀ task stack s, skipRounds clock task stack s = .ok rest → SkipTask.Leads task stack s rest

theorem RoundsLead.closes (h : RoundsLead clock rest) (resumed : resume clock stack s = .ok rest) :
    Closes stack s rest := by
  cases stack with
  | nil =>
      cases resumed
      rfl
  | cons bracket stack => exact h .next (bracket :: stack) s resumed

/-- A bracket is passed over up to its end. -/
theorem RoundsLead.bracket (h : RoundsLead clock rest) (bracket : Bracket) {tick : UInt8}
    (passed : skipRounds (tick :: clock) .value stack (bracket.opener :: s) = .ok rest) :
    SkipTask.Leads .value stack (bracket.opener :: s) rest := by
  rw [skipRounds_open] at passed
  split at passed
  · cases passed
  · next b tail inside =>
      obtain ⟨blanks, hblanks, -, rfl⟩ := exists_blanks_of_skipBlanks inside
      split_ifs at passed with notEnd
      · obtain ⟨s', completes, closes⟩ := (h _ _ _ passed).completes true hblanks
        obtain ⟨t, leads⟩ := completes.isValue
        exact ⟨t, s', leads, closes⟩
      · obtain rfl : b = bracket.closer := by simpa using notEnd
        obtain ⟨t, leads⟩ := (completes_end bracket true hblanks tail).isValue
        exact ⟨t, tail, leads, h.closes passed⟩

/-- A value is passed over with the blanks in front of it. -/
theorem RoundsLead.value (h : RoundsLead clock rest) {tick : UInt8}
    (passed : skipRounds (tick :: clock) .value stack s = .ok rest) :
    SkipTask.Leads .value stack s rest := by
  cases skipped : skipBlanks s with
  | nil =>
      rw [skipRounds.eq_3, skipped] at passed
      cases passed
  | cons b tail =>
      obtain ⟨before, hbefore, notBlank, rfl⟩ := exists_blanks_of_skipBlanks skipped
      rw [skipRounds_value_blanks hbefore] at passed
      suffices SkipTask.Leads .value stack (b :: tail) rest by
        obtain ⟨t, s', leads, closes⟩ := this
        exact ⟨t, s', leads.of_skipBlanks skipped, closes⟩
      by_cases hlist : b = openBracket
      · subst hlist
        exact h.bracket .list passed
      by_cases hobject : b = openBrace
      · subst hobject
        exact h.bracket .object passed
      rw [skipRounds.eq_3, skipBlanks_cons notBlank] at passed
      split at passed
      · next same => cases same
      · next same => exact absurd (List.cons.inj same).1 hlist
      · next same => exact absurd (List.cons.inj same).1 hobject
      · next same =>
          obtain ⟨rfl, rfl⟩ := List.cons.inj same
          split at passed
          · cases passed
          · next s' leaf =>
              obtain ⟨t, core, spells, shape⟩ := exists_tree_of_skipLeaf leaf
              exact ⟨t, s', ⟨[], core, blanks_nil, spells, shape⟩, h.closes passed⟩

/-- What comes after an entry is passed over up to the next entry, or to the end of the bracket. -/
theorem RoundsLead.next (h : RoundsLead clock rest) {bracket : Bracket} {tick : UInt8}
    (passed : skipRounds (tick :: clock) .next (bracket :: stack) s = .ok rest) :
    Closes (bracket :: stack) s rest := by
  rw [skipRounds.eq_5] at passed
  split at passed
  · cases passed
  · next b tail skipped =>
      obtain ⟨before, hbefore, -, rfl⟩ := exists_blanks_of_skipBlanks skipped
      split at passed
      · next hcomma =>
          rw [beq_iff_eq.mp hcomma]
          exact (h _ _ _ passed).completes false hbefore
      · split at passed
        · next hend =>
            rw [beq_iff_eq.mp hend]
            exact ⟨tail, completes_end bracket false hbefore tail, h.closes passed⟩
        · cases passed

/-- What is passed over is such as the task names, and completes the open brackets. -/
theorem roundsLead (clock rest : Octets) : RoundsLead clock rest := by
  induction clock with
  | nil =>
      intro task stack s passed
      cases stack <;> cases passed
  | cons tick clock ih =>
      intro task stack s passed
      cases task with
      | value => exact ih.value passed
      | next =>
          cases stack with
          | nil =>
              cases passed
              rfl
          | cons bracket stack => exact ih.next passed
      | key =>
          rw [skipRounds.eq_6] at passed
          split at passed
          · cases passed
          · next s' hkey =>
              obtain ⟨before, key, between, hbefore, hbetween, rfl⟩ := exists_key_of_skipKey hkey
              exact ⟨before, key, between, s', hbefore, hbetween, rfl, ih _ _ _ passed⟩

end Rounds

/-- What is passed over as a value spells one. -/
theorem beginsWithValue_of_skipValue (h : skipValue s = .ok rest) : BeginsWithValue s rest := by
  obtain ⟨t, s', leads, rfl⟩ := roundsLead _ rest .value [] s h
  exact ⟨t, leads⟩

end PulseBridge.Json
