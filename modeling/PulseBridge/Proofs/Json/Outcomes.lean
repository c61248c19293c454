import PulseBridge.Proofs.Json.Trees

/-!
# What readers make of a tree

A tree may be spelled in many ways, with blanks here and there. Readers of texts, of numbers, of
lists and of values that may be `null` make the same of each of them: the same value, and what
follows is left, or a fault every time.

## Main definitions

* `Makes`, `Uniform`: what a reader makes of every spelling of a tree.

## Main statements

* `uniform_text`, `uniform_number`, `Uniform.nullable`, `Uniform.list`: readers that make the same
  of every spelling.
* `toOption_decode`: what a reader makes of a tree is decoded from a document that spells it.

## Implementation notes

Which fault is reported, and where, does depend on the blanks, so faults are not told apart here.
-/

namespace PulseBridge.Json

open Ascii

variable {α β : Type} {rest : Octets}

/-! ## Results without their faults -/

theorem toOption_map (read : Except Fault α) (f : α → β) :
    (read.map f).toOption = read.toOption.map f := by
  cases read <;> rfl

theorem toOption_mapError (read : Except Fault α) (f : Fault → Fault) :
    (read.mapError f).toOption = read.toOption := by
  cases read <;> rfl

theorem exists_error {ε : Type} {read : Except ε α} (h : read.toOption = none) :
    ∃ e, read = .error e := by
  cases read with
  | error e => exact ⟨e, rfl⟩
  | ok a => cases h

theorem eq_ok {ε : Type} {read : Except ε α} {a : α} (h : read.toOption = some a) :
    read = .ok a := by
  cases read with
  | error e => cases h
  | ok b => exact congrArg Except.ok (Option.some.inj h)

/-- What leaves the same rest whenever there is a value either fails or leaves that rest. -/
theorem read_cases {read : Except Fault (α × Octets)} {outcome : Option α}
    (h : read.toOption = outcome.map (·, rest)) :
    (outcome = none ∧ ∃ fault, read = .error fault) ∨
      ∃ a, outcome = some a ∧ read = .ok (a, rest) := by
  cases outcome with
  | none => exact .inl ⟨rfl, exists_error h⟩
  | some a => exact .inr ⟨a, rfl, eq_ok h⟩

/-! ## How values begin -/

/-- What a value may be, as its first octet tells. -/
inductive Beginning where
  | null
  | boolean
  | number
  | text
  | list
  | object
  deriving DecidableEq

/-- What the value may be that begins with an octet. -/
def Beginning.of? (b : UInt8) : Option Beginning :=
  if b == lowerN then some .null
  else if b == lowerT || b == lowerF then some .boolean
  else if b == minus || Octets.isDigit b then some .number
  else if b == quote then some .text
  else if b == openBracket then some .list
  else if b == openBrace then some .object
  else none

/-- What a tree is. -/
def Tree.beginning : Tree → Beginning
  | .null => .null
  | .boolean _ => .boolean
  | .number _ => .number
  | .text _ => .text
  | .list _ => .list
  | .object _ => .object

theorem Beginning.of?_of_isDigit {b : UInt8} (h : Octets.isDigit b = true) :
    of? b = some .number := by
  have other (c : UInt8) (hc : Octets.isDigit c = false) : (b == c) = false :=
    beq_eq_false_iff_ne.mpr (ne_of_isDigit h hc)
  simp [of?, h, other lowerN rfl, other lowerT rfl, other lowerF rfl]

theorem IsNumber.begins {s : Octets} (h : IsNumber s) :
    ∃ b tail, s = b :: tail ∧ Beginning.of? b = some .number := by
  cases h with
  | unsigned h =>
      obtain ⟨b, tail, rfl, first, -⟩ := h.skip
      exact ⟨b, tail, rfl, Beginning.of?_of_isDigit first⟩
  | @negative s h => exact ⟨minus, s, rfl, rfl⟩

theorem Tree.beginning_eq {t : Tree} {s : Octets} (h : t.Spells s) :
    ∃ b tail, s = b :: tail ∧ Beginning.of? b = some t.beginning := by
  cases t with
  | null => exact ⟨_, _, h, rfl⟩
  | boolean value => cases value <;> exact ⟨_, _, h, rfl⟩
  | number numeral =>
      obtain rfl : s = numeral.octets := h
      exact numeral.isNumber.begins
  | text literal => exact ⟨_, _, h, rfl⟩
  | list elements =>
      obtain ⟨_, _, _, _, rfl⟩ := h
      exact ⟨_, _, rfl, rfl⟩
  | object members =>
      obtain ⟨_, _, _, _, rfl⟩ := h
      exact ⟨_, _, rfl, rfl⟩

/-- Blanks in front of a value are skipped up to its first octet, which tells what it is. -/
theorem Tree.skipBlanks_spells {t : Tree} {before s : Octets} (blanks : Blanks before)
    (h : t.Spells s) (rest : Octets) :
    ∃ b tail, skipBlanks (before ++ (s ++ rest)) = b :: tail ∧
      Beginning.of? b = some t.beginning := by
  obtain ⟨b, tail, rfl, first⟩ := Tree.beginning_eq h
  obtain ⟨_, _, same, notBlank, -⟩ := (t.isValue h).begins
  obtain ⟨rfl, -⟩ := List.cons.inj same
  exact ⟨b, tail ++ rest, skipBlanks_begun blanks notBlank tail rest, first⟩

/-! ## Readers -/

/-- Whether this is what a reader makes of a tree, however it is spelled and whatever blanks stand
around it: a value, or none if it reports a fault. -/
def Makes (r : Reader α) (room : Nat) (t : Tree) (outcome : Option α) : Prop :=
  ∀ before s rest, Blanks before → t.Spells s → Follows rest →
    (r room (before ++ (s ++ rest))).toOption = outcome.map (·, rest)

/-- Whether a reader makes the same of every spelling of a tree. -/
def Uniform (r : Reader α) : Prop := ∀ room t, ∃ outcome, Makes r room t outcome

/-- What is made of a tree is one outcome only. -/
theorem Makes.unique {r : Reader α} {room : Nat} {t : Tree} {outcome outcome' : Option α}
    (h : Makes r room t outcome) (h' : Makes r room t outcome') : outcome = outcome' := by
  obtain ⟨s, spells⟩ := t.exists_spells
  have same := (h [] s [] blanks_nil spells follows_nil).symm.trans
    (h' [] s [] blanks_nil spells follows_nil)
  cases outcome <;> cases outcome' <;> simp_all

/-- What is made of the only value of a document is decoded. -/
theorem toOption_decode {r : Reader α} {t : Tree} {outcome : Option α}
    (h : Makes r depthLimit t outcome) {document : Octets} (spells : Padded t.Spells document) :
    (decode r document).toOption = outcome := by
  obtain ⟨before, s, after, hbefore, spells, hafter, rfl⟩ := spells
  have follows : Follows after := by
    rw [← List.append_nil after]
    exact follows_nil.after_blanks hafter
  have ended : skipBlanks after = [] := by
    rw [← List.append_nil after]
    exact skipBlanks_append hafter []
  rw [decode]
  rcases read_cases (h before s after hbefore spells follows) with
    ⟨rfl, fault, failed⟩ | ⟨a, rfl, read⟩
  · rw [failed]
    rfl
  · rw [read]
    simp only [ended]
    rfl

theorem Makes.map {r : Reader α} {room : Nat} {t : Tree} {outcome : Option α}
    (h : Makes r room t outcome) (f : α → β) : Makes (r.map f) room t (outcome.map f) := by
  intro before s rest blanks spells follows
  rw [Reader.map]
  rcases read_cases (h before s rest blanks spells follows) with
    ⟨rfl, fault, failed⟩ | ⟨a, rfl, read⟩
  · rw [failed]
    rfl
  · rw [read]
    rfl

theorem Uniform.map {r : Reader α} (h : Uniform r) (f : α → β) : Uniform (r.map f) := by
  intro room t
  obtain ⟨outcome, makes⟩ := h room t
  exact ⟨outcome.map f, makes.map f⟩

/-- What is read between quotes is settled by the spelling. -/
theorem Quotable.settled (literal : Quotable) :
    Settled fun rest => readText (literal.octets ++ quote :: rest) := by
  rcases readText_cases literal.isQuotable with ⟨text, means⟩ | unreadable
  · exact ⟨some text, fun rest _ => congrArg Except.toOption (means.readText rest)⟩
  · exact ⟨none, fun rest _ => unreadable rest⟩

theorem skipBlanks_inQuotes {before : Octets} (blanks : Blanks before) (literal : Quotable)
    (rest : Octets) :
    skipBlanks (before ++ (literal.inQuotes ++ rest)) =
      quote :: (literal.octets ++ quote :: rest) := by
  rw [Quotable.inQuotes, skipBlanks_begun blanks rfl, List.append_assoc, List.singleton_append]

/-- Only a text is read as one. -/
theorem makes_none_of_ne_text {t : Tree} (other : t.beginning ≠ .text) (room : Nat) :
    Makes Reader.text room t none := by
  intro before s rest blanks spells _
  obtain ⟨b, tail, skipped, first⟩ := Tree.skipBlanks_spells blanks spells rest
  have noQuote : b ≠ quote := by
    rintro rfl
    exact other (Option.some.inj first).symm
  rw [Reader.text, skipped]
  simp [noQuote, Except.toOption]

theorem uniform_text : Uniform Reader.text := by
  intro room t
  cases t with
  | text literal =>
      obtain ⟨outcome, settled⟩ := literal.settled
      refine ⟨outcome, ?_⟩
      rintro before s rest blanks rfl follows
      rw [Reader.text, skipBlanks_inQuotes blanks]
      exact settled rest follows
  | _ => exact ⟨none, makes_none_of_ne_text (by simp [Tree.beginning]) room⟩

section Numbers

variable {wanted : Shape} {accept : Number → Except Cause α} {room : Nat} {s tail : Octets}

/-- What is made of a number that has been read. -/
def accepted (accept : Number → Except Cause α) (read : Option (Number × Octets)) :
    Option (α × Octets) :=
  read.bind fun (n, rest) => (accept n).toOption.map (·, rest)

theorem accepted_map (number : Option Number) (rest : Octets) :
    accepted accept (number.map (·, rest)) =
      (number.bind fun n => (accept n).toOption).map (·, rest) := by
  cases number <;> rfl

theorem Reader.number_unsigned {b : UInt8} (digit : Octets.isDigit b = true)
    (skipped : skipBlanks s = b :: tail) :
    (number wanted accept room s).toOption =
      accepted accept (readNumber false (b :: tail)).toOption := by
  have notMinus : b ≠ minus := ne_of_isDigit digit rfl
  rw [number, skipped]
  simp only [beq_iff_eq, notMinus, digit, if_false, if_true]
  cases readNumber false (b :: tail) with
  | error fault => rfl
  | ok read =>
      dsimp only
      cases h : accept read.1 <;> simp [accepted, Except.toOption, h]

theorem Reader.number_negative (skipped : skipBlanks s = minus :: tail) :
    (number wanted accept room s).toOption = accepted accept (readNumber true tail).toOption := by
  rw [number, skipped]
  simp only [beq_self_eq_true, if_true]
  cases readNumber true tail with
  | error fault => rfl
  | ok read =>
      dsimp only
      cases h : accept read.1 <;> simp [accepted, Except.toOption, h]

end Numbers

/-- Only a number is read as one. -/
theorem makes_none_of_ne_number {t : Tree} (other : t.beginning ≠ .number) (wanted : Shape)
    (accept : Number → Except Cause α) (room : Nat) :
    Makes (Reader.number wanted accept) room t none := by
  intro before s rest blanks spells _
  obtain ⟨b, tail, skipped, first⟩ := Tree.skipBlanks_spells blanks spells rest
  have noMinus : b ≠ minus := by
    rintro rfl
    exact other (Option.some.inj first).symm
  have noDigit : Octets.isDigit b = false := by
    rw [Bool.eq_false_iff]
    intro digit
    rw [Beginning.of?_of_isDigit digit] at first
    exact other (Option.some.inj first).symm
  rw [Reader.number, skipped]
  simp [noMinus, noDigit, Except.toOption]

theorem uniform_number (wanted : Shape) (accept : Number → Except Cause α) :
    Uniform (Reader.number wanted accept) := by
  intro room t
  cases t with
  | number numeral =>
      obtain ⟨octets, isNumber⟩ := numeral
      cases isNumber with
      | unsigned h =>
          obtain ⟨number, settled⟩ := h.settled false
          refine ⟨number.bind fun n => (accept n).toOption, ?_⟩
          rintro before s rest blanks rfl follows
          obtain ⟨b, tail, rfl, digit, -⟩ := h.skip
          have skipped := skipBlanks_begun blanks (isBlank_of_isDigit digit) tail rest
          rw [Reader.number_unsigned digit skipped, ← accepted_map, ← settled rest follows]
          rfl
      | @negative digits h =>
          obtain ⟨number, settled⟩ := h.settled true
          refine ⟨number.bind fun n => (accept n).toOption, ?_⟩
          rintro before s rest blanks rfl follows
          rw [Reader.number_negative (skipBlanks_begun blanks rfl digits rest), ← accepted_map,
            ← settled rest follows]
  | _ => exact ⟨none, makes_none_of_ne_number (by simp [Tree.beginning]) wanted accept room⟩

theorem makes_nullable_null (r : Reader α) (room : Nat) :
    Makes (Reader.nullable r) room .null (some none) := by
  rintro before s rest blanks rfl _
  rw [Reader.nullable, skipBlanks_begun blanks rfl]
  rfl

theorem Makes.nullable {r : Reader α} {room : Nat} {t : Tree} {outcome : Option α}
    (h : Makes r room t outcome) (other : t.beginning ≠ .null) :
    Makes (Reader.nullable r) room t (outcome.map some) := by
  intro before s rest blanks spells follows
  obtain ⟨b, tail, skipped, first⟩ := Tree.skipBlanks_spells blanks spells rest
  rw [← h.map some before s rest blanks spells follows, Reader.nullable, skipped]
  split
  · next same =>
      obtain ⟨rfl, -⟩ := List.cons.inj same
      exact absurd (Option.some.inj first).symm other
  · rfl

theorem Uniform.nullable {r : Reader α} (h : Uniform r) : Uniform (Reader.nullable r) := by
  intro room t
  by_cases null : t.beginning = .null
  · cases t with
    | null => exact ⟨_, makes_nullable_null r room⟩
    | _ => simp [Tree.beginning] at null
  · obtain ⟨outcome, makes⟩ := h room t
    exact ⟨_, makes.nullable null⟩

/-! ## Values of any shape -/

section Values

variable {room : Nat} {b : UInt8} {s tail : Octets}

theorem readValue_scalar (skipped : skipBlanks s = b :: tail) (noList : b ≠ openBracket)
    (noObject : b ≠ openBrace) : readValue room s = readScalar b tail := by
  rw [readValue, skipped]
  split
  · next same => cases same
  · next same => exact absurd (List.cons.inj same).1 noList
  · next same => exact absurd (List.cons.inj same).1 noObject
  · next same =>
      obtain ⟨rfl, rfl⟩ := List.cons.inj same
      rfl

theorem readScalar_digit (digit : Octets.isDigit b = true) (tail : Octets) :
    readScalar b tail =
      (readNumber false (b :: tail)).map fun read => (.number read.1, read.2) := by
  have other (c : UInt8) (hc : Octets.isDigit c = false) : (b == c) = false :=
    beq_eq_false_iff_ne.mpr (ne_of_isDigit digit hc)
  simp [readScalar, digit, other lowerN rfl, other lowerT rfl, other lowerF rfl, other minus rfl]

theorem makes_text (room : Nat) (literal : Quotable) :
    ∃ outcome, Makes readValue room (.text literal) outcome := by
  obtain ⟨outcome, settled⟩ := literal.settled
  refine ⟨outcome.map .text, ?_⟩
  rintro before s rest blanks rfl follows
  have scalar : readScalar quote (literal.octets ++ quote :: rest) =
      (readText (literal.octets ++ quote :: rest)).map fun read => (.text read.1, read.2) := rfl
  have skipped := skipBlanks_inQuotes blanks literal rest
  rw [readValue_scalar skipped (by decide) (by decide), scalar, toOption_map, settled rest follows]
  cases outcome <;> rfl

/-- A number is read alike wherever it stands. -/
theorem exists_number (numeral : Numeral) :
    ∃ number : Option Number, ∀ room, Makes readValue room (.number numeral)
      (number.map .number) := by
  obtain ⟨octets, isNumber⟩ := numeral
  cases isNumber with
  | unsigned h =>
      obtain ⟨number, settled⟩ := h.settled false
      refine ⟨number, ?_⟩
      rintro room before s rest blanks rfl follows
      obtain ⟨b, tail, rfl, digit, -⟩ := h.skip
      have skipped := skipBlanks_begun blanks (isBlank_of_isDigit digit) tail rest
      have read : (readNumber false (b :: (tail ++ rest))).toOption = number.map (·, rest) :=
        settled rest follows
      rw [readValue_scalar skipped (ne_of_isDigit digit rfl) (ne_of_isDigit digit rfl),
        readScalar_digit digit, toOption_map, read]
      cases number <;> rfl
  | @negative digits h =>
      obtain ⟨number, settled⟩ := h.settled true
      refine ⟨number, ?_⟩
      rintro room before s rest blanks rfl follows
      have skipped := skipBlanks_begun blanks (show isBlank minus = false from rfl) digits rest
      have scalar : readScalar minus (digits ++ rest) =
          (readNumber true (digits ++ rest)).map fun read => (.number read.1, read.2) := rfl
      rw [readValue_scalar skipped (by decide) (by decide), scalar, toOption_map,
        settled rest follows]
      cases number <;> rfl

theorem makes_number (room : Nat) (numeral : Numeral) :
    ∃ outcome, Makes readValue room (.number numeral) outcome := by
  obtain ⟨number, makes⟩ := exists_number numeral
  exact ⟨_, makes room⟩

end Values

/-! ## Lists -/

/-- The entries of a bracket, beginning with the first one or with the comma before the next one. -/
def entries (first : Bool) (parts : List Octets) : Octets :=
  if first then joinWithCommas parts else parts.flatMap (comma :: ·)

theorem entries_nil (first : Bool) : entries first [] = [] := by
  cases first <;> rfl

theorem entries_true_cons (part : Octets) (parts : List Octets) :
    entries true (part :: parts) = part ++ entries false parts :=
  joinWithCommas_cons part parts

theorem entries_false_cons (part : Octets) (parts : List Octets) :
    entries false (part :: parts) = comma :: (part ++ entries false parts) := rfl

theorem follows_further_entries (bracket : Bracket) (parts : List Octets) (rest : Octets) :
    Follows (entries false parts ++ bracket.closer :: rest) :=
  follows_entries bracket parts rest

/-- A bracket has an octet for each of its entries, and more. -/
theorem length_lt_bracket (parts : List Octets) (before rest : Octets) (opener closer : UInt8) :
    parts.length < (opener :: (before ++ (entries true parts ++ closer :: rest))).length := by
  cases parts with
  | nil => exact Nat.succ_pos _
  | cons part parts =>
      have enough := length_le_flatMap_comma parts
      rw [entries_true_cons, entries, if_neg Bool.false_ne_true]
      simp only [List.length_append, List.length_cons]
      omega

section Lists

variable {r : Reader α} {room : Nat} {gathered : List α} {before inner core : Octets}

theorem nextElement_blanks (first : Bool) (blanks : Blanks before) (s : Octets) :
    Reader.nextElement first (before ++ s) = Reader.nextElement first s := by
  rw [Reader.nextElement, Reader.nextElement, skipBlanks_append blanks]

theorem nextElement_comma_blanks (blanks : Blanks before) (s : Octets) :
    Reader.nextElement false (comma :: (before ++ s)) = Reader.nextElement false (comma :: s) := by
  rw [Reader.nextElement, skipBlanks_cons rfl]
  change (if false = true then _ else if (comma == comma) = true then _ else _) = _
  rw [skipBlanks_append blanks]
  rfl

/-- The next element is found behind the blanks in front of it. -/
theorem nextElement_entries (first : Bool) (blanks : Blanks before) (hinner : Blanks inner)
    (begins : BeginsElement core) (after : Octets) (more : List Octets) (rest : Octets) :
    Reader.nextElement first
        (before ++ (entries first ((inner ++ (core ++ after)) :: more) ++ closeBracket :: rest)) =
      .ok (some (core ++ (after ++ (entries false more ++ closeBracket :: rest)))) := by
  rw [nextElement_blanks first blanks]
  cases first with
  | true =>
      rw [entries_true_cons, List.append_assoc, List.append_assoc, nextElement_blanks true hinner,
        List.append_assoc, nextElement_first begins]
  | false =>
      rw [entries_false_cons, List.cons_append, List.append_assoc, List.append_assoc,
        nextElement_comma_blanks hinner, List.append_assoc, nextElement_further begins]

theorem nextElement_end (first : Bool) (blanks : Blanks before) (rest : Octets) :
    Reader.nextElement first (before ++ closeBracket :: rest) = .ok none := by
  rw [nextElement_blanks first blanks]
  cases first <;> rfl

theorem endList_blanks (blanks : Blanks before) (rest : Octets) :
    Reader.endList (before ++ closeBracket :: rest) = .ok rest := by
  rw [Reader.endList, skipBlanks_append blanks]
  rfl

theorem Tree.beginsElement {t : Tree} {s : Octets} (h : t.Spells s) : BeginsElement s :=
  (t.isValue h).begins

/-- An element is gathered, or the list is refused. -/
theorem toOption_elements {t : Tree} {outcome : Option α} (makes : Makes r room t outcome)
    {s : Octets} (spells : t.Spells core) {first : Bool} (follows : Follows rest) (tick : UInt8)
    (clock : Octets) (next : Reader.nextElement first s = .ok (some (core ++ rest))) :
    (Reader.elements r room (tick :: clock) first gathered s).toOption =
      outcome.bind fun a => (Reader.elements r room clock false (a :: gathered) rest).toOption := by
  rw [Reader.elements, next]
  rcases read_cases (makes [] core rest blanks_nil spells follows) with
    ⟨rfl, fault, failed⟩ | ⟨a, rfl, read⟩
  · rw [List.nil_append] at failed
    simp only [failed]
    rfl
  · rw [List.nil_append] at read
    simp only [read]
    rfl

/-- Elements are gathered up to the end of the list, or one of them is refused. -/
theorem toOption_elements_each {ts : List Tree} {outcomes : List (Option α)}
    {parts : List Octets} (makes : List.Forall₂ (Makes r room) ts outcomes)
    (each : SpellsEach ts parts) (first : Bool) (blanks : Blanks before) {clock : Octets}
    (long : parts.length < clock.length) (gathered : List α) (rest : Octets) :
    (Reader.elements r room clock first gathered
        (before ++ (entries first parts ++ closeBracket :: rest))).toOption =
      (outcomes.mapM id).map fun values => (gathered.reverse ++ values, rest) := by
  induction makes generalizing parts clock first gathered before with
  | nil =>
      obtain rfl : parts = [] := each
      cases clock with
      | nil => cases long
      | cons tick clock =>
          rw [entries_nil, List.nil_append, Reader.elements, nextElement_end first blanks]
          simp [endList_blanks blanks, Except.toOption]
  | @cons t outcome ts outcomes one _ ih =>
      obtain ⟨_, more, ⟨inner, core, after, hinner, spells, hafter, rfl⟩, further, rfl⟩ := each
      cases clock with
      | nil => cases long
      | cons tick clock =>
          have follows := (follows_further_entries .list more rest).after_blanks hafter
          have next := nextElement_entries first blanks hinner (Tree.beginsElement spells) after
            more rest
          rw [toOption_elements one spells follows tick clock next]
          cases outcome with
          | none => rfl
          | some a =>
              have read := ih further false hafter (Nat.lt_of_succ_lt_succ long) (a :: gathered)
              simp only [Option.bind_some, Bracket.closer, read, List.mapM_cons]
              cases outcomes.mapM id <;> simp

/-- What a reader makes of some trees, one after the other. -/
theorem Uniform.each (h : Uniform r) (room : Nat) (ts : List Tree) :
    ∃ outcomes, List.Forall₂ (Makes r room) ts outcomes := by
  induction ts with
  | nil => exact ⟨[], .nil⟩
  | cons t ts ih =>
      obtain ⟨outcome, makes⟩ := h room t
      obtain ⟨outcomes, further⟩ := ih
      exact ⟨outcome :: outcomes, .cons makes further⟩

/-- What is made of a list is made of its elements. -/
theorem makes_list {ts : List Tree} {outcomes : List (Option α)}
    (makes : List.Forall₂ (Makes r room) ts outcomes) :
    Makes (Reader.list r) (room + 1) (.list ts) (outcomes.mapM id) := by
  rintro before s rest blanks ⟨inner, parts, hinner, each, rfl⟩ _
  have entered : Reader.list r (room + 1) (before ++
      (openBracket :: (inner ++ (joinWithCommas parts ++ [closeBracket])) ++ rest)) =
      Reader.elements r room
        (openBracket :: (inner ++ (entries true parts ++ closeBracket :: rest))) true []
        (inner ++ (entries true parts ++ closeBracket :: rest)) := by
    rw [Reader.list, skipBlanks_begun blanks rfl,
      List.append_assoc, List.append_assoc]
    rfl
  rw [entered, toOption_elements_each makes each true hinner (length_lt_bracket ..)]
  rfl

/-- A list is refused where no bracket may be opened any more. -/
theorem makes_list_zero (r : Reader α) (ts : List Tree) :
    Makes (Reader.list r) 0 (.list ts) none := by
  rintro before s rest blanks ⟨inner, parts, -, -, rfl⟩ _
  rw [Reader.list, skipBlanks_begun blanks rfl]
  rfl

theorem mapM_refused {t : Tree} (refused : Makes r room t none) {ts : List Tree}
    {outcomes : List (Option α)} (makes : List.Forall₂ (Makes r room) ts outcomes) (mem : t ∈ ts) :
    outcomes.mapM id = none := by
  induction makes with
  | nil => cases mem
  | @cons _ outcome _ outcomes first _ ih =>
      rw [List.mapM_cons]
      rcases List.mem_cons.mp mem with rfl | further
      · obtain rfl := refused.unique first
        rfl
      · rw [ih further]
        cases outcome <;> rfl

/-- A list is refused if one of its elements is. -/
theorem makes_list_refused (h : Uniform r) {t : Tree} (refused : ∀ room, Makes r room t none)
    {ts : List Tree} (mem : t ∈ ts) (room : Nat) : Makes (Reader.list r) room (.list ts) none := by
  cases room with
  | zero => exact makes_list_zero r ts
  | succ room =>
      obtain ⟨outcomes, makes⟩ := h.each room ts
      exact mapM_refused (refused room) makes mem ▸ makes_list makes

theorem Uniform.list (h : Uniform r) : Uniform (Reader.list r) := by
  intro room t
  cases t with
  | list elements =>
      cases room with
      | zero => exact ⟨none, makes_list_zero r elements⟩
      | succ room =>
          obtain ⟨outcomes, makes⟩ := h.each room elements
          exact ⟨outcomes.mapM id, makes_list makes⟩
  | _ =>
      refine ⟨none, fun before s rest blanks spells _ => ?_⟩
      obtain ⟨b, tail, skipped, first⟩ := Tree.skipBlanks_spells blanks spells rest
      rw [Reader.list, skipped]
      split
      · rfl
      · next same =>
          obtain ⟨rfl, -⟩ := List.cons.inj same
          cases first
      · rfl

end Lists

end PulseBridge.Json
