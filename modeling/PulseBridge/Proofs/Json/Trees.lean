import PulseBridge.Proofs.Json.Numerals

/-!
# The grammar of documents

A document is spelled by octets, with blanks wherever they may stand between the tokens. A `Tree`
says what is spelled but for the blanks: it keeps how each text and each number is spelled, and
trees nest to any depth. Whatever spells a tree is passed over as one value.

## Main definitions

* `Tree`, `Tree.Spells`: values as they are spelled, and the octets that spell them.

## Main statements

* `Tree.isValue`, `Tree.skipValue_spells`: what spells a tree is passed over.

## Implementation notes

Passing over takes a round for each token and so never more rounds than there are octets. How many
are left afterwards is not said, only that no more of the clock is gone than what was passed over.
-/

namespace PulseBridge.Json

open Ascii

/-! ## Blanks -/

/-- Whether all octets are blanks. -/
def Blanks (s : Octets) : Prop := ∀ b ∈ s, isBlank b = true

variable {before after s rest : Octets}

instance : Decidable (Blanks s) := List.decidableBAll (fun b => isBlank b = true) s

theorem blanks_nil : Blanks [] := fun _ h => absurd h List.not_mem_nil

theorem Blanks.append (h : Blanks before) (h' : Blanks after) : Blanks (before ++ after) :=
  List.forall_mem_append.mpr ⟨h, h'⟩

theorem skipBlanks_append (h : Blanks before) (s : Octets) :
    skipBlanks (before ++ s) = skipBlanks s :=
  List.dropWhile_append_of_pos h

/-- Blanks in front of a value are skipped. -/
theorem skipBlanks_begun {b : UInt8} (h : Blanks before) (notBlank : isBlank b = false)
    (tail rest : Octets) : skipBlanks (before ++ (b :: tail ++ rest)) = b :: (tail ++ rest) := by
  rw [skipBlanks_append h, List.cons_append, skipBlanks_cons notBlank]

/-- Blanks may stand in front of what follows a value. -/
theorem Follows.after_blanks (h : Follows rest) (blanks : Blanks after) :
    Follows (after ++ rest) := by
  cases after with
  | nil => exact h
  | cons b after =>
      rintro c ⟨⟩
      exact .inr (.inr (.inr (blanks b List.mem_cons_self)))

/-- Whether octets are such as `P` says, with blanks around them. -/
def Padded (P : Octets → Prop) (part : Octets) : Prop :=
  ∃ before core after, Blanks before ∧ P core ∧ Blanks after ∧ part = before ++ (core ++ after)

theorem Padded.imp {P Q : Octets → Prop} {part : Octets} (h : Padded P part)
    (imp : ∀ core, P core → Q core) : Padded Q part := by
  obtain ⟨before, core, after, hbefore, hcore, hafter, rfl⟩ := h
  exact ⟨before, core, after, hbefore, imp core hcore, hafter, rfl⟩

/-! ## Trees -/

/-- A text as it is spelled between its quotes. -/
structure Quotable where
  octets : Octets
  isQuotable : IsQuotable octets

/-- The text with its quotes. -/
def Quotable.inQuotes (t : Quotable) : Octets := quote :: (t.octets ++ [quote])

/-- Whether it is this text that is spelled. -/
def Quotable.Means (t : Quotable) (text : String) : Prop :=
  SpellsOctets t.octets (Octets.ofText text)

/-- The spelling of a text as it is written. -/
def Quotable.written (text : String) : Quotable :=
  ⟨(Octets.ofText text).flatMap escapeOctet, (spells_written _).isQuotable⟩

theorem Quotable.means_written (text : String) : (Quotable.written text).Means text :=
  spells_written _

/-- What is spelled is one text only. -/
theorem Quotable.Means.unique {key : Quotable} {name name' : String} (h : key.Means name)
    (h' : key.Means name') : name = name' :=
  SpellsOctets.unique h h'

/-- A number as it is spelled. -/
structure Numeral where
  octets : Octets
  isNumber : IsNumber octets

/-- A value as it is spelled, but for blanks. -/
inductive Tree where
  | null
  | boolean (value : Bool)
  | number (numeral : Numeral)
  | text (literal : Quotable)
  | list (elements : List Tree)
  | object (members : List (Quotable × Tree))

/-- What holds of a tree if it holds of the trees in it holds of every tree. -/
@[induction_eliminator]
theorem Tree.induction {P : Tree → Prop} (null : P .null) (boolean : ∀ value, P (.boolean value))
    (number : ∀ numeral, P (.number numeral)) (text : ∀ literal, P (.text literal))
    (list : ∀ elements, (∀ t ∈ elements, P t) → P (.list elements))
    (object : ∀ members, (∀ m ∈ members, P m.2) → P (.object members)) (t : Tree) : P t :=
  @Tree.rec P (fun ts => ∀ t ∈ ts, P t) (fun members => ∀ m ∈ members, P m.2) (fun m => P m.2)
    null boolean number text list object
    (fun _ h => absurd h List.not_mem_nil) (fun _ _ first further =>
      List.forall_mem_cons.mpr ⟨first, further⟩)
    (fun _ h => absurd h List.not_mem_nil) (fun _ _ first further =>
      List.forall_mem_cons.mpr ⟨first, further⟩)
    (fun _ _ value => value) t

/-- Whether octets are a member of an object: its key and a value such as `P` says, with blanks
around them. -/
def SpellsMember (key : Quotable) (P : Octets → Prop) (part : Octets) : Prop :=
  ∃ before between value, Blanks before ∧ Blanks between ∧ Padded P value ∧
    part = before ++ (key.inQuotes ++ (between ++ colon :: value))

theorem spellsMember_of {P : Octets → Prop} (key : Quotable) {core : Octets} (spells : P core)
    (before between inner after : Octets) (hbefore : Blanks before) (hbetween : Blanks between)
    (hinner : Blanks inner) (hafter : Blanks after) :
    SpellsMember key P
      (before ++ (key.inQuotes ++ (between ++ colon :: (inner ++ (core ++ after))))) :=
  ⟨before, between, _, hbefore, hbetween, ⟨inner, core, after, hinner, spells, hafter, rfl⟩, rfl⟩

mutual

/-- Whether octets spell a tree. -/
def Tree.Spells : Tree → Octets → Prop
  | .null, s => s = lowerN :: nullLetters
  | .boolean true, s => s = lowerT :: trueLetters
  | .boolean false, s => s = lowerF :: falseLetters
  | .number numeral, s => s = numeral.octets
  | .text literal, s => s = literal.inQuotes
  | .list elements, s =>
      ∃ blanks parts, Blanks blanks ∧ SpellsEach elements parts ∧
        s = openBracket :: (blanks ++ (joinWithCommas parts ++ [closeBracket]))
  | .object members, s =>
      ∃ blanks parts, Blanks blanks ∧ SpellsMembers members parts ∧
        s = openBrace :: (blanks ++ (joinWithCommas parts ++ [closeBrace]))

/-- Whether octets spell the elements of a list, one after the other. -/
def SpellsEach : List Tree → List Octets → Prop
  | [], parts => parts = []
  | t :: ts, parts =>
      ∃ part more, Padded t.Spells part ∧ SpellsEach ts more ∧ parts = part :: more

/-- Whether octets spell the members of an object, one after the other. -/
def SpellsMembers : List (Quotable × Tree) → List Octets → Prop
  | [], parts => parts = []
  | (key, t) :: members, parts =>
      ∃ part more, SpellsMember key t.Spells part ∧ SpellsMembers members more ∧
        parts = part :: more

end

theorem Numeral.spells (numeral : Numeral) : (Tree.number numeral).Spells numeral.octets := rfl

theorem Quotable.spells (literal : Quotable) : (Tree.text literal).Spells literal.inQuotes := rfl

theorem exists_spellsEach {ts : List Tree} (h : ∀ t ∈ ts, ∃ s, t.Spells s) :
    ∃ parts, SpellsEach ts parts := by
  induction ts with
  | nil => exact ⟨[], rfl⟩
  | cons t ts ih =>
      obtain ⟨⟨s, spells⟩, h⟩ := List.forall_mem_cons.mp h
      obtain ⟨parts, each⟩ := ih h
      exact ⟨_, _, _, ⟨[], s, [], blanks_nil, spells, blanks_nil, rfl⟩, each, rfl⟩

theorem exists_spellsMembers {ms : List (Quotable × Tree)} (h : ∀ m ∈ ms, ∃ s, m.2.Spells s) :
    ∃ parts, SpellsMembers ms parts := by
  induction ms with
  | nil => exact ⟨[], rfl⟩
  | cons m ms ih =>
      obtain ⟨key, t⟩ := m
      obtain ⟨⟨s, spells⟩, h⟩ := List.forall_mem_cons.mp h
      obtain ⟨parts, each⟩ := ih h
      have member := spellsMember_of key spells [] [] [] [] blanks_nil blanks_nil blanks_nil
        blanks_nil
      exact ⟨_, _, _, member, each, rfl⟩

/-- Every tree can be spelled. -/
theorem Tree.exists_spells (t : Tree) : ∃ s, t.Spells s := by
  induction t with
  | null => exact ⟨_, rfl⟩
  | boolean value => cases value <;> exact ⟨_, rfl⟩
  | number numeral => exact ⟨_, rfl⟩
  | text literal => exact ⟨_, rfl⟩
  | list elements ih =>
      obtain ⟨parts, each⟩ := exists_spellsEach ih
      exact ⟨_, [], parts, blanks_nil, each, rfl⟩
  | object members ih =>
      obtain ⟨parts, each⟩ := exists_spellsMembers ih
      exact ⟨_, [], parts, blanks_nil, each, rfl⟩

/-! ## Passing over -/

/-- The octet that opens a bracket. -/
def Bracket.opener : Bracket → UInt8
  | .list => openBracket
  | .object => openBrace

/-- What comes after a value: the end, if no bracket is open, or what follows in the innermost. -/
def resume (clock : Octets) (stack : List Bracket) (rest : Octets) : Except Fault Octets :=
  if stack.isEmpty then .ok rest else skipRounds clock .next stack rest

theorem skipRounds_open (bracket : Bracket) (tick : UInt8) (clock : Octets) (stack : List Bracket)
    (s : Octets) :
    skipRounds (tick :: clock) .value stack (bracket.opener :: s) =
      match skipBlanks s with
      | [] => .error ⟨bracket.ending, .peeked []⟩
      | b :: rest =>
          if b != bracket.closer then
            skipRounds clock bracket.entry (bracket :: stack) (b :: rest)
          else resume clock stack rest := by
  cases bracket <;> rfl

/-- Octets that are passed over as one value, whatever brackets are open. -/
structure IsValue (core : Octets) : Prop where
  begins : ∃ b tail, core = b :: tail ∧ isBlank b = false ∧ b ≠ closeBracket
  passes : ∀ stack clock rest, Follows rest → core.length ≤ clock.length →
    ∃ clock', clock.length ≤ clock'.length + core.length ∧
      skipRounds clock .value stack (core ++ rest) = resume clock' stack rest

/-- Octets that are passed over as one entry of an open bracket. -/
structure IsEntry (bracket : Bracket) (part : Octets) : Prop where
  begins : ∃ before b tail, part = before ++ b :: tail ∧ Blanks before ∧ isBlank b = false ∧
    b ≠ bracket.closer
  passes : ∀ stack clock rest, Follows rest → part.length ≤ clock.length →
    ∃ clock', clock.length ≤ clock'.length + part.length ∧
      skipRounds clock bracket.entry (bracket :: stack) (part ++ rest) =
        skipRounds clock' .next (bracket :: stack) rest

/-- Blanks in front of a value are passed over with it. -/
theorem skipRounds_value_blanks (h : Blanks before) (clock : Octets) (stack : List Bracket)
    (s : Octets) :
    skipRounds clock .value stack (before ++ s) = skipRounds clock .value stack s := by
  cases clock with
  | nil => cases stack <;> rfl
  | cons tick clock => rw [skipRounds.eq_3, skipRounds.eq_3, skipBlanks_append h]

/-- Blanks in front of an entry are passed over with it. -/
theorem skipRounds_entry_blanks (bracket : Bracket) (h : Blanks before) (clock : Octets)
    (stack : List Bracket) (s : Octets) :
    skipRounds clock bracket.entry stack (before ++ s) =
      skipRounds clock bracket.entry stack s := by
  cases bracket with
  | list => exact skipRounds_value_blanks h clock stack s
  | object =>
      have key : skipKey (before ++ s) = skipKey s := by
        rw [skipKey, skipKey, skipBlanks_append h]
      cases clock with
      | nil => cases stack <;> rfl
      | cons tick clock =>
          change skipRounds (tick :: clock) .key _ _ = skipRounds (tick :: clock) .key _ _
          rw [skipRounds.eq_6, skipRounds.eq_6, key]

/-- Blanks after an entry are passed over with what follows it. -/
theorem skipRounds_next_blanks (bracket : Bracket) (h : Blanks before) (clock : Octets)
    (stack : List Bracket) (s : Octets) :
    skipRounds clock .next (bracket :: stack) (before ++ s) =
      skipRounds clock .next (bracket :: stack) s := by
  cases clock with
  | nil => rfl
  | cons tick clock => rw [skipRounds.eq_5, skipRounds.eq_5, skipBlanks_append h]

/-- A value without brackets of its own takes one round. -/
theorem IsLeaf.isValue {core : Octets} (leaf : IsLeaf core) : IsValue core where
  begins := by
    obtain ⟨b, tail, rfl, notBlank, noBracket, -⟩ := leaf
    exact ⟨b, tail, rfl, notBlank, fun same => noBracket (by simp [same])⟩
  passes := by
    intro stack clock rest follows enough
    cases clock with
    | nil =>
        obtain ⟨b, tail, rfl, -⟩ := leaf
        cases enough
    | cons tick clock =>
        refine ⟨clock, ?_, skipRounds_leaf leaf tick clock stack follows⟩
        obtain ⟨b, tail, rfl, -⟩ := leaf
        simp only [List.length_cons]
        omega

/-- A value with blanks around it is an entry of a list. -/
theorem isEntry_of_padded {part : Octets} (h : Padded IsValue part) : IsEntry .list part := by
  obtain ⟨before, core, after, hbefore, value, hafter, rfl⟩ := h
  constructor
  · obtain ⟨b, tail, rfl, notBlank, notEnd⟩ := value.begins
    exact ⟨before, b, tail ++ after, rfl, hbefore, notBlank, notEnd⟩
  · intro stack clock rest follows enough
    simp only [List.length_append] at enough ⊢
    obtain ⟨clock', left, passed⟩ :=
      value.passes (.list :: stack) clock (after ++ rest) (follows.after_blanks hafter) (by omega)
    refine ⟨clock', by omega, ?_⟩
    rw [List.append_assoc, List.append_assoc, skipRounds_entry_blanks .list hbefore]
    exact passed.trans (skipRounds_next_blanks .list hafter clock' stack rest)

/-- A key is passed over with its colon. -/
theorem skipKey_inQuotes (key : Quotable) {between : Octets} (hbefore : Blanks before)
    (hbetween : Blanks between) (s : Octets) :
    skipKey (before ++ (key.inQuotes ++ (between ++ colon :: s))) = .ok s := by
  have colon : readColon (between ++ colon :: s) = .ok s := by
    rw [readColon, skipBlanks_append hbetween]
    rfl
  rw [skipKey, skipBlanks_append hbefore, Quotable.inQuotes, List.cons_append, List.append_assoc,
    List.singleton_append, skipBlanks_cons rfl]
  change (skipText (key.octets ++ quote :: (between ++ Ascii.colon :: s)) >>= readColon) = _
  rw [key.isQuotable.skipText]
  exact colon

/-- A key and a value, with blanks around them, are an entry of an object. -/
theorem isEntry_of_member {key : Quotable} {part : Octets} (h : SpellsMember key IsValue part) :
    IsEntry .object part := by
  obtain ⟨before, between, _, hbefore, hbetween, ⟨inner, core, after, hinner, value, hafter, rfl⟩,
    rfl⟩ := h
  constructor
  · exact ⟨before, quote, _, rfl, hbefore, rfl, by decide⟩
  · intro stack clock rest follows enough
    simp only [List.length_append, List.length_cons] at enough ⊢
    cases clock with
    | nil => cases enough
    | cons tick clock =>
        obtain ⟨clock', left, passed⟩ := value.passes (.object :: stack) clock (after ++ rest)
          (follows.after_blanks hafter) (by simp only [List.length_cons] at enough; omega)
        refine ⟨clock', by simp only [List.length_cons]; omega, ?_⟩
        calc skipRounds (tick :: clock) .key (.object :: stack)
              (before ++ (key.inQuotes ++ (between ++ colon :: (inner ++ (core ++ after)))) ++ rest)
            = skipRounds (tick :: clock) .key (.object :: stack)
              (before ++ (key.inQuotes ++ (between ++ colon ::
                (inner ++ (core ++ (after ++ rest)))))) := by
              simp only [List.append_assoc, List.cons_append]
          _ = skipRounds clock .value (.object :: stack) (inner ++ (core ++ (after ++ rest))) := by
              rw [skipRounds.eq_6, skipKey_inQuotes key hbefore hbetween]
          _ = skipRounds clock .value (.object :: stack) (core ++ (after ++ rest)) :=
              skipRounds_value_blanks hinner ..
          _ = skipRounds clock' .next (.object :: stack) (after ++ rest) := passed
          _ = skipRounds clock' .next (.object :: stack) rest :=
              skipRounds_next_blanks .object hafter clock' stack rest

section Entries

variable {bracket : Bracket} {parts : List Octets}

/-- What follows an entry: further entries, each after a comma, and the closing bracket. -/
theorem follows_entries (bracket : Bracket) (parts : List Octets) (rest : Octets) :
    Follows (parts.flatMap (comma :: ·) ++ bracket.closer :: rest) := by
  cases parts with
  | nil => cases bracket <;> simp [Follows, Bracket.closer]
  | cons part parts => simp [Follows]

/-- The entries that follow the first one are passed over, and the closing bracket. -/
theorem skipRounds_entries (entries : ∀ part ∈ parts, IsEntry bracket part) (stack : List Bracket)
    (rest : Octets) {clock : Octets} (enough : (parts.flatMap (comma :: ·)).length < clock.length) :
    ∃ clock', clock.length ≤ clock'.length + (parts.flatMap (comma :: ·)).length + 1 ∧
      skipRounds clock .next (bracket :: stack)
          (parts.flatMap (comma :: ·) ++ bracket.closer :: rest) = resume clock' stack rest := by
  induction parts generalizing clock with
  | nil =>
      cases clock with
      | nil => cases enough
      | cons tick clock =>
          refine ⟨clock, Nat.le_refl _, ?_⟩
          cases bracket <;> rfl
  | cons part parts ih =>
      obtain ⟨entry, entries⟩ := List.forall_mem_cons.mp entries
      simp only [List.flatMap_cons, List.length_append, List.length_cons] at enough ⊢
      cases clock with
      | nil => cases enough
      | cons tick clock =>
          simp only [List.length_cons] at enough ⊢
          obtain ⟨clock', left, passed⟩ :=
            entry.passes stack clock _ (follows_entries bracket parts rest) (by omega)
          have enough' : (parts.flatMap (comma :: ·)).length < clock'.length := by omega
          obtain ⟨clock'', left', ended⟩ := ih entries enough'
          refine ⟨clock'', by omega, ?_⟩
          have next : skipRounds (tick :: clock) .next (bracket :: stack)
              (comma :: (part ++ (parts.flatMap (comma :: ·) ++ bracket.closer :: rest))) =
              skipRounds clock bracket.entry (bracket :: stack)
                (part ++ (parts.flatMap (comma :: ·) ++ bracket.closer :: rest)) := rfl
          rw [List.cons_append, List.cons_append, List.append_assoc, next, passed, ended]

/-- A bracket that does not close at once is entered. -/
theorem skipRounds_enter {part : Octets} (entry : IsEntry bracket part) (blanks : Blanks before)
    (tick : UInt8) (clock : Octets) (stack : List Bracket) (rest : Octets) :
    skipRounds (tick :: clock) .value stack (bracket.opener :: (before ++ (part ++ rest))) =
      skipRounds clock bracket.entry (bracket :: stack) (part ++ rest) := by
  obtain ⟨inner, b, tail, rfl, hinner, notBlank, notEnd⟩ := entry.begins
  rw [List.append_assoc, List.cons_append, skipRounds_open, skipBlanks_append blanks,
    skipBlanks_append hinner, skipBlanks_cons notBlank, skipRounds_entry_blanks bracket hinner]
  exact if_pos (bne_iff_ne.mpr notEnd)

/-- A bracket with its entries is passed over as one value. -/
theorem isValue_bracket (bracket : Bracket) (entries : ∀ part ∈ parts, IsEntry bracket part)
    (blanks : Blanks before) :
    IsValue (bracket.opener :: (before ++ (joinWithCommas parts ++ [bracket.closer]))) where
  begins := by
    refine ⟨bracket.opener, _, rfl, ?_⟩
    cases bracket <;> decide
  passes := by
    intro stack clock rest _ enough
    have shape : bracket.opener :: (before ++ (joinWithCommas parts ++ [bracket.closer])) ++ rest =
        bracket.opener :: (before ++ (joinWithCommas parts ++ bracket.closer :: rest)) := by
      simp only [List.append_assoc, List.cons_append, List.nil_append]
    rw [shape]
    simp only [List.length_append, List.length_cons, List.length_nil] at enough ⊢
    cases clock with
    | nil => cases enough
    | cons tick clock =>
        simp only [List.length_cons] at enough ⊢
        cases parts with
        | nil =>
            refine ⟨clock, by omega, ?_⟩
            rw [skipRounds_open, skipBlanks_append blanks]
            cases bracket <;> rfl
        | cons part parts =>
            obtain ⟨entry, further⟩ := List.forall_mem_cons.mp entries
            simp only [joinWithCommas_cons, List.length_append] at enough ⊢
            obtain ⟨clock', left, passed⟩ :=
              entry.passes stack clock _ (follows_entries bracket parts rest) (by omega)
            have enough' : (parts.flatMap (comma :: ·)).length < clock'.length := by omega
            obtain ⟨clock'', left', ended⟩ := skipRounds_entries further stack rest enough'
            refine ⟨clock'', by omega, ?_⟩
            rw [List.append_assoc, skipRounds_enter entry blanks, passed, ended]

end Entries

/-! ## Trees -/

theorem isLeaf_word {b : UInt8} {letters : Octets} (notBlank : isBlank b = false)
    (noBracket : b ∉ [openBracket, openBrace, closeBracket])
    (skip : ∀ rest, skipLeaf b (letters ++ rest) = .ok rest) : IsLeaf (b :: letters) :=
  ⟨b, letters, rfl, notBlank, noBracket, fun rest _ => skip rest⟩

theorem Quotable.isLeaf (t : Quotable) : IsLeaf t.inQuotes := by
  refine ⟨quote, t.octets ++ [quote], rfl, rfl, by decide, ?_⟩
  intro rest _
  rw [List.append_assoc, List.singleton_append]
  exact t.isQuotable.skipText rest

/-- The elements of a list are entries if they are spelled by values. -/
theorem isEntry_of_spellsEach {ts : List Tree} {parts : List Octets} (h : SpellsEach ts parts)
    (values : ∀ t ∈ ts, ∀ s, t.Spells s → IsValue s) : ∀ part ∈ parts, IsEntry .list part := by
  induction ts generalizing parts with
  | nil =>
      obtain rfl : parts = [] := h
      exact fun _ none => absurd none List.not_mem_nil
  | cons t ts ih =>
      obtain ⟨part, more, spelled, further, rfl⟩ := h
      obtain ⟨value, values⟩ := List.forall_mem_cons.mp values
      exact List.forall_mem_cons.mpr ⟨isEntry_of_padded (spelled.imp value), ih further values⟩

/-- The members of an object are entries if their values are spelled by values. -/
theorem isEntry_of_spellsMembers {ms : List (Quotable × Tree)} {parts : List Octets}
    (h : SpellsMembers ms parts) (values : ∀ m ∈ ms, ∀ s, m.2.Spells s → IsValue s) :
    ∀ part ∈ parts, IsEntry .object part := by
  induction ms generalizing parts with
  | nil =>
      obtain rfl : parts = [] := h
      exact fun _ none => absurd none List.not_mem_nil
  | cons m ms ih =>
      obtain ⟨key, t⟩ := m
      obtain ⟨part, more, ⟨before, between, value, hbefore, hbetween, padded, rfl⟩, further, rfl⟩ :=
        h
      obtain ⟨first, values⟩ := List.forall_mem_cons.mp values
      exact List.forall_mem_cons.mpr
        ⟨isEntry_of_member ⟨before, between, value, hbefore, hbetween, padded.imp first, rfl⟩,
          ih further values⟩

/-- Whatever spells a tree is passed over as one value. -/
theorem Tree.isValue (t : Tree) {s : Octets} (h : t.Spells s) : IsValue s := by
  induction t generalizing s with
  | null =>
      obtain rfl : s = lowerN :: nullLetters := h
      exact (isLeaf_word rfl (by decide) fun _ => rfl).isValue
  | boolean value =>
      cases value with
      | true =>
          obtain rfl : s = lowerT :: trueLetters := h
          exact (isLeaf_word rfl (by decide) fun _ => rfl).isValue
      | false =>
          obtain rfl : s = lowerF :: falseLetters := h
          exact (isLeaf_word rfl (by decide) fun _ => rfl).isValue
  | number numeral =>
      obtain rfl : s = numeral.octets := h
      exact numeral.isNumber.isLeaf.isValue
  | text literal =>
      obtain rfl : s = literal.inQuotes := h
      exact literal.isLeaf.isValue
  | list elements ih =>
      obtain ⟨blanks, parts, hblanks, each, rfl⟩ := h
      exact isValue_bracket .list (isEntry_of_spellsEach each fun t ht s => ih t ht) hblanks
  | object members ih =>
      obtain ⟨blanks, parts, hblanks, each, rfl⟩ := h
      exact isValue_bracket .object (isEntry_of_spellsMembers each fun m hm s => ih m hm) hblanks

/-- A value is passed over with the blanks in front of it. -/
theorem IsValue.skipValue {core : Octets} (h : IsValue core) (blanks : Blanks before)
    (follows : Follows rest) : skipValue (before ++ (core ++ rest)) = .ok rest := by
  have enough : core.length ≤ (comma :: (before ++ (core ++ rest))).length := by
    simp only [List.length_append, List.length_cons]
    omega
  obtain ⟨clock', -, passed⟩ := h.passes [] _ rest follows enough
  rw [Json.skipValue, skipRounds_value_blanks blanks, passed]
  rfl

theorem IsValue.toPasses {core : Octets} (h : IsValue core) : Passes core where
  begins := by
    obtain ⟨b, tail, rfl, notBlank, -⟩ := h.begins
    exact ⟨b, tail, rfl, notBlank⟩
  skip := fun _ follows => h.skipValue blanks_nil follows

/-- Whatever spells a tree is passed over, with the blanks in front of it. -/
theorem Tree.skipValue_spells (t : Tree) {s : Octets} (h : t.Spells s) (blanks : Blanks before)
    (follows : Follows rest) : skipValue (before ++ (s ++ rest)) = .ok rest :=
  (t.isValue h).skipValue blanks follows

/-! ## Written values -/

/-- A written text is the spelling of a text. -/
theorem spells_writeText (text : String) :
    (Tree.text (.written text)).Spells (writeText text) := rfl

/-- Elements that are written one after the other spell a list. -/
theorem spells_writeList {written : List Octets} {ts : List Tree}
    (h : List.Forall₂ (fun w t => Tree.Spells t w) written ts) :
    (Tree.list ts).Spells (writeList written) := by
  have each : SpellsEach ts written := by
    induction h with
    | nil => rfl
    | @cons w t _ _ one _ ih =>
        exact ⟨w, _, ⟨[], w, [], blanks_nil, one, blanks_nil, (List.append_nil w).symm⟩, ih, rfl⟩
  exact ⟨[], written, blanks_nil, each, rfl⟩

/-- Members that are written one after the other spell an object. -/
theorem spells_writeMembers {written : List (String × Octets)} {ms : List (Quotable × Tree)}
    (h : List.Forall₂ (fun w m => m.1 = .written w.1 ∧ Tree.Spells m.2 w.2) written ms) :
    (Tree.object ms).Spells (writeMembers written) := by
  have members : SpellsMembers ms (written.map writeMember) := by
    induction h with
    | nil => rfl
    | @cons w m _ _ one _ ih =>
        obtain ⟨name, octets⟩ := w
        obtain ⟨_, t⟩ := m
        obtain ⟨rfl, spells⟩ := one
        have member := spellsMember_of (.written name) spells [] [] [] [] blanks_nil blanks_nil
          blanks_nil blanks_nil
        rw [List.append_nil] at member
        exact ⟨_, _, member, ih, rfl⟩
  exact ⟨[], _, blanks_nil, members, writeMembers_eq written⟩

/-- A written list of texts is passed over. -/
theorem passes_writeTexts (texts : List String) : Passes (writeList (texts.map writeText)) := by
  have spells : (Tree.list (texts.map fun s => .text (.written s))).Spells
      (writeList (texts.map writeText)) := by
    apply spells_writeList
    rw [List.forall₂_map_left_iff, List.forall₂_map_right_iff, List.forall₂_same]
    exact fun s _ => spells_writeText s
  exact (Tree.isValue _ spells).toPasses

end PulseBridge.Json
