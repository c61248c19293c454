import PulseBridge.ChatCommand
import PulseBridge.Proofs.Trimming

/-!
# Votes as they are written

A vote is written as the address, a text in quotes of one kind, and a sign before a one, with blanks
before, between and behind them, or none. No text is written as a vote in two ways, so it does not
matter how a reader searches for one. A text is a vote exactly if it is written as one and what
stands in its quotes is not blank; every other text asks for help.

## Main definitions

* `ChatCommand.Ballot`: a vote as it is written.
* `ChatCommand.IsVote`: which text is a vote on which target.

## Main statements

* `ChatCommand.Ballot.chars_injective`: a vote is written in one way only.
* `ChatCommand.ballot?_eq_some_iff`: whatever is written as a vote is taken apart.
* `ChatCommand.command_of_text`: which command a text is, and how it is answered.
-/

namespace PulseBridge

theorem Verdict.magnitude_inj {v w : Verdict} : v.magnitude = w.magnitude ↔ v = w := by
  cases v <;> cases w <;> decide

namespace ChatCommand

open Text (Blanks IsTrim Trims isBlank)

/-- A vote as it is written. -/
@[ext]
structure Ballot where
  /-- The blanks before the address. -/
  front : List Char
  /-- The blanks before the quoted text. -/
  beforeQuote : List Char
  quote : Char
  body : List Char
  /-- The blanks before the sign. -/
  beforeSign : List Char
  sign : Char
  /-- The blanks at the end. -/
  back : List Char
  isQuote : quote = '\'' ∨ quote = '"'
  isSign : sign = '+' ∨ sign = '-'
  body_ne_nil : body ≠ []
  quote_not_mem : quote ∉ body
  blank_front : Blanks front
  blank_beforeQuote : Blanks beforeQuote
  blank_beforeSign : Blanks beforeSign
  blank_back : Blanks back

namespace Ballot

/-- The characters of a vote. -/
def chars (b : Ballot) : List Char :=
  b.front ++ (address ++ (b.beforeQuote ++
    b.quote :: (b.body ++ b.quote :: (b.beforeSign ++ b.sign :: '1' :: b.back))))

/-- The vote as a number. -/
def magnitude (b : Ballot) : Int := if b.sign = '+' then 1 else -1

/-- What the voter thinks. -/
def verdict (b : Ballot) : Verdict := if b.sign = '+' then .useful else .noise

theorem magnitude_verdict (b : Ballot) : b.verdict.magnitude = b.magnitude := by
  unfold verdict magnitude
  split <;> rfl

theorem isBlank_quote (b : Ballot) : isBlank b.quote = false := by
  rcases b.isQuote with h | h <;> rw [h] <;> decide

theorem isBlank_sign (b : Ballot) : isBlank b.sign = false := by
  rcases b.isSign with h | h <;> rw [h] <;> decide

end Ballot

/-- Whether a text is a vote of some magnitude on a target: it is written as one, and the target is
what its quotes hold, without the blanks at either end. -/
def IsVote (text target : String) (magnitude : Int) : Prop :=
  ∃ b : Ballot, text.toList = b.chars ∧ Trims b.body target.toList ∧ target ≠ "" ∧
    b.magnitude = magnitude

/-! ## One way only -/

section Scanning

variable {p : Char → Bool} {c c' : Char} {cs front front' rest rest' : List Char}

/-- A run of characters of one kind ends at the first character of another. -/
theorem until_iff :
    cs.takeWhile p = front ∧ cs.dropWhile p = c :: rest ↔
      (∀ d ∈ front, p d = true) ∧ p c = false ∧ cs = front ++ c :: rest := by
  constructor
  · rintro ⟨rfl, left⟩
    have first := List.head?_dropWhile_not p cs
    have whole := List.takeWhile_append_dropWhile (p := p) (l := cs)
    rw [left] at first whole
    exact ⟨fun _ => List.mem_takeWhile_imp, first, whole.symm⟩
  · rintro ⟨run, ends, rfl⟩
    have notThen : ¬ p c = true := by simp [ends]
    rw [List.takeWhile_append_of_pos run, List.dropWhile_append_of_pos run,
      List.takeWhile_cons_of_neg notThen, List.dropWhile_cons_of_neg notThen, List.append_nil]
    exact ⟨rfl, rfl⟩

/-- Where a run ends is settled by the text. -/
theorem eq_of_until (run : ∀ d ∈ front, p d = true) (ends : p c = false)
    (run' : ∀ d ∈ front', p d = true) (ends' : p c' = false)
    (same : front ++ c :: rest = front' ++ c' :: rest') :
    front = front' ∧ c = c' ∧ rest = rest' := by
  obtain ⟨taken, left⟩ := until_iff.mpr ⟨run, ends, rfl⟩
  obtain ⟨taken', left'⟩ := until_iff.mpr ⟨run', ends', same⟩
  obtain ⟨rfl, rfl⟩ := List.cons.inj (left.symm.trans left')
  exact ⟨taken.symm.trans taken', rfl, rfl⟩

/-- What has no quote in it is a run of other characters. -/
theorem ne_of_not_mem {quote : Char} {body : List Char} (h : quote ∉ body) :
    ∀ d ∈ body, (d != quote) = true := by
  intro d mem
  rw [bne_iff_ne]
  rintro rfl
  exact h mem

end Scanning

theorem address_eq : ∃ more, address = 'r' :: more := ⟨"adalert:".toList, rfl⟩

/-- A text is written as a vote in one way only. -/
theorem Ballot.chars_injective : Function.Injective chars := by
  intro b b' same
  obtain ⟨more, begins⟩ := address_eq
  have notBlank : isBlank 'r' = false := by decide
  unfold chars at same
  simp only [begins, List.cons_append] at same
  obtain ⟨front, -, same⟩ :=
    eq_of_until b.blank_front notBlank b'.blank_front notBlank same
  have same := List.append_cancel_left same
  obtain ⟨beforeQuote, quote, same⟩ := eq_of_until b.blank_beforeQuote b.isBlank_quote
    b'.blank_beforeQuote b'.isBlank_quote same
  have inside' := ne_of_not_mem b'.quote_not_mem
  rw [← quote] at same inside'
  obtain ⟨body, -, same⟩ := eq_of_until (ne_of_not_mem b.quote_not_mem) (bne_self_eq_false _)
    inside' (bne_self_eq_false _) same
  obtain ⟨beforeSign, sign, same⟩ := eq_of_until b.blank_beforeSign b.isBlank_sign
    b'.blank_beforeSign b'.isBlank_sign same
  exact Ballot.ext front beforeQuote quote body beforeSign sign (List.cons.inj same).2

/-! ## Taking votes apart -/

section Parts

variable {cs rest body : List Char} {verdict : Verdict}

theorem skipBlanks_until {front : List Char} {c : Char} (h : Blanks front)
    (notBlank : isBlank c = false) (rest : List Char) :
    skipBlanks (front ++ c :: rest) = c :: rest :=
  (until_iff.mpr ⟨h, notBlank, rfl⟩).2

theorem exists_blanks (cs : List Char) : ∃ front, Blanks front ∧ cs = front ++ skipBlanks cs :=
  Text.exists_blanks cs

theorem after?_eq_some_iff {expected : List Char} :
    after? expected cs = some rest ↔ cs = expected ++ rest := by
  unfold after?
  split
  · next begins =>
      obtain ⟨more, rfl⟩ := List.isPrefixOf_iff_prefix.mp begins
      simp
  · next other =>
      refine ⟨nofun, ?_⟩
      rintro rfl
      simp at other

/-- A quoted text runs up to the next quote of its kind. -/
theorem quoted?_eq_some_iff :
    quoted? cs = some (body, rest) ↔
      ∃ quote, (quote = '\'' ∨ quote = '"') ∧ body ≠ [] ∧ quote ∉ body ∧
        cs = quote :: (body ++ quote :: rest) := by
  constructor
  · intro h
    unfold quoted? at h
    split at h
    · cases h
    · next quote cs =>
        split at h
        · cases h
        · next known =>
            split at h
            · next c inside closing rest' taken left =>
                cases h
                obtain ⟨run, ends, rfl⟩ := until_iff.mp ⟨taken, left⟩
                obtain rfl : closing = quote := by simpa using ends
                refine ⟨closing, ?_, List.cons_ne_nil _ _, fun mem => ?_, rfl⟩
                · simpa [or_iff_not_imp_left] using known
                · simpa using run closing mem
            · cases h
  · rintro ⟨quote, isQuote, ne_nil, notMem, rfl⟩
    have known : (quote != '\'' && quote != '"') = false := by
      rcases isQuote with rfl | rfl <;> rfl
    obtain ⟨taken, left⟩ := until_iff.mpr
      ⟨ne_of_not_mem notMem, bne_self_eq_false quote, rfl⟩
    obtain ⟨c, body, rfl⟩ := List.exists_cons_of_ne_nil ne_nil
    rw [quoted?, known, taken, left]
    rfl

theorem verdict?_eq_some_iff :
    verdict? cs = some (verdict, rest) ↔
      ∃ sign, (sign = '+' ∧ verdict = .useful ∨ sign = '-' ∧ verdict = .noise) ∧
        cs = sign :: '1' :: rest := by
  constructor
  · intro h
    unfold verdict? at h
    split at h <;> cases h
    · exact ⟨'+', .inl ⟨rfl, rfl⟩, rfl⟩
    · exact ⟨'-', .inr ⟨rfl, rfl⟩, rfl⟩
  · rintro ⟨sign, ⟨rfl, rfl⟩ | ⟨rfl, rfl⟩, rfl⟩ <;> rfl

end Parts

/-- What is written as a vote is taken apart. -/
theorem ballot?_chars (b : Ballot) : ballot? b.chars = some (b.body, b.verdict) := by
  obtain ⟨more, begins⟩ := address_eq
  have found (rest : List Char) : skipBlanks (b.front ++ (address ++ rest)) = address ++ rest := by
    rw [begins, List.cons_append, skipBlanks_until b.blank_front (by decide)]
  have addressed (rest : List Char) : after? address (address ++ rest) = some rest :=
    after?_eq_some_iff.mpr rfl
  have quoted (rest : List Char) :
      quoted? (b.quote :: (b.body ++ b.quote :: rest)) = some (b.body, rest) :=
    quoted?_eq_some_iff.mpr ⟨b.quote, b.isQuote, b.body_ne_nil, b.quote_not_mem, rfl⟩
  have signed : verdict? (b.sign :: '1' :: b.back) = some (b.verdict, b.back) := by
    refine verdict?_eq_some_iff.mpr ⟨b.sign, ?_, rfl⟩
    unfold Ballot.verdict
    exact b.isSign.imp (fun plus => ⟨plus, if_pos plus⟩)
      fun minus => ⟨minus, if_neg (by simp [minus])⟩
  have ended : skipBlanks b.back = [] := List.dropWhile_eq_nil_iff.mpr b.blank_back
  simp only [ballot?, Ballot.chars, found, addressed, Option.bind_eq_bind, Option.bind_some,
    skipBlanks_until b.blank_beforeQuote b.isBlank_quote, quoted,
    skipBlanks_until b.blank_beforeSign b.isBlank_sign, signed, ended]
  rfl

/-- The quoted text and the verdict of a vote are those that it is written with. -/
theorem ballot?_eq_some_iff {cs body : List Char} {verdict : Verdict} :
    ballot? cs = some (body, verdict) ↔
      ∃ b : Ballot, cs = b.chars ∧ b.body = body ∧ b.verdict = verdict := by
  constructor
  · intro h
    simp only [ballot?, bind, Option.bind_eq_some_iff, Prod.exists,
      Option.ite_none_right_eq_some, List.isEmpty_iff, Option.some.injEq, Prod.mk.injEq] at h
    obtain ⟨addressed, hafter, _, quoted, hquoted, _, signed, hverdict, ended, rfl, rfl⟩ := h
    obtain ⟨front, blankFront, hcs⟩ := exists_blanks cs
    obtain ⟨beforeQuote, blankQuote, haddressed⟩ := exists_blanks addressed
    obtain ⟨beforeSign, blankSign, hquotes⟩ := exists_blanks quoted
    obtain ⟨back, blankBack, hsigned⟩ := exists_blanks signed
    obtain ⟨quote, isQuote, ne_nil, notMem, hquote⟩ := quoted?_eq_some_iff.mp hquoted
    obtain ⟨sign, isSign, hsign⟩ := verdict?_eq_some_iff.mp hverdict
    rw [after?_eq_some_iff.mp hafter, haddressed, hquote, hquotes, hsign, hsigned, ended,
      List.append_nil] at hcs
    refine ⟨⟨front, beforeQuote, quote, _, beforeSign, sign, back, isQuote, ?_, ne_nil, notMem,
      blankFront, blankQuote, blankSign, blankBack⟩, hcs, rfl, ?_⟩
    · exact isSign.imp And.left And.left
    · rcases isSign with ⟨rfl, rfl⟩ | ⟨rfl, rfl⟩ <;> rfl
  · rintro ⟨b, rfl, rfl, rfl⟩
    exact ballot?_chars b

/-! ## Commands -/

section Commands

variable {text target : String} {verdict : Verdict}

/-- A text that is written as a vote is one on what its quotes hold. -/
theorem ofText_of_chars {b : Ballot} (written : text.toList = b.chars)
    (trims : Trims b.body target.toList) (notEmpty : target ≠ "") :
    ofText text = .vote target b.verdict := by
  rw [ofText, written, ballot?_chars]
  dsimp only
  rw [Text.trims_iff.mp trims]
  split
  · next none => exact absurd (String.toList_eq_nil_iff.mp none) notEmpty
  · rw [String.ofList_toList]

/-- A text is a vote on a target exactly if it is written as one. -/
theorem ofText_eq_vote_iff :
    ofText text = .vote target verdict ↔ IsVote text target verdict.magnitude := by
  constructor
  · intro h
    unfold ofText at h
    split at h
    · next body verdict' found =>
        obtain ⟨b, written, rfl, rfl⟩ := ballot?_eq_some_iff.mp found
        split at h
        · cases h
        · next notBlank =>
            cases h
            refine ⟨b, written, ?_, ?_, b.magnitude_verdict.symm⟩
            · rw [Text.trims_iff, String.toList_ofList]
            · rw [Ne, String.ofList_eq_empty_iff]
              exact notBlank
    · cases h
  · rintro ⟨b, written, trims, notEmpty, magnitude⟩
    rw [← b.magnitude_verdict, Verdict.magnitude_inj] at magnitude
    rw [ofText_of_chars written trims notEmpty, magnitude]

/-- Every other text asks for help. -/
theorem ofText_eq_help_iff :
    ofText text = .help ↔ ∀ target magnitude, ¬ IsVote text target magnitude := by
  constructor
  · rintro h target magnitude ⟨b, written, trims, notEmpty, -⟩
    rw [ofText_of_chars written trims notEmpty] at h
    cases h
  · intro h
    cases command : ofText text with
    | vote target verdict => exact absurd (ofText_eq_vote_iff.mp command) (h target _)
    | help => rfl

/-- A vote is answered with its sign and its target, anything else with the help text. -/
theorem reply_cases (text : String) :
    (∃ target, IsVote text target 1 ∧
        reply (ofText text) = "You voted +1 on '" ++ target ++ "'") ∨
      (∃ target, IsVote text target (-1) ∧
        reply (ofText text) = "You voted -1 on '" ++ target ++ "'") ∨
      (∀ target magnitude, ¬ IsVote text target magnitude) ∧ reply (ofText text) = helpText := by
  cases command : ofText text with
  | help => exact .inr (.inr ⟨ofText_eq_help_iff.mp command, rfl⟩)
  | vote target verdict =>
      have vote := ofText_eq_vote_iff.mp command
      cases verdict with
      | useful => exact .inl ⟨target, vote, rfl⟩
      | noise => exact .inr (.inl ⟨target, vote, rfl⟩)

end Commands

/-- A text is a vote exactly if it is written as one: blanks, the address, blanks, a text in quotes
that has none of them in it, blanks, a sign, a one, and blanks. Its target is what the quotes hold,
without the blanks at either end, and must not be empty. No text is written as a vote in two ways,
and every other text asks for help. The answer to a vote gives its sign and its target, the answer
to anything else is the help text. On every target that is trim and lacks one kind of quotes one can
vote either way, with that kind around it. -/
theorem command_of_text :
    (∀ text target verdict,
      ofText text = .vote target verdict ↔ IsVote text target verdict.magnitude) ∧
    (∀ b b' : Ballot, b.chars = b'.chars → b = b') ∧
    (∀ text, ofText text = .help ↔ ∀ target magnitude, ¬ IsVote text target magnitude) ∧
    (∀ text,
      (∃ target, IsVote text target 1 ∧
          reply (ofText text) = "You voted +1 on '" ++ target ++ "'") ∨
        (∃ target, IsVote text target (-1) ∧
          reply (ofText text) = "You voted -1 on '" ++ target ++ "'") ∨
        (∀ target magnitude, ¬ IsVote text target magnitude) ∧
          reply (ofText text) = helpText) ∧
    ∀ (target : String) quote front beforeQuote beforeSign back, target ≠ "" →
      IsTrim target.toList → (quote = '\'' ∨ quote = '"') → quote ∉ target.toList →
      Blanks front → Blanks beforeQuote → Blanks beforeSign → Blanks back →
      let written (sign : Char) := String.ofList (front ++ (address ++ (beforeQuote ++
        quote :: (target.toList ++ quote :: (beforeSign ++ sign :: '1' :: back)))))
      ofText (written '+') = .vote target .useful ∧ ofText (written '-') = .vote target .noise := by
  refine ⟨fun _ _ _ => ofText_eq_vote_iff, fun _ _ same => Ballot.chars_injective same,
    fun _ => ofText_eq_help_iff, reply_cases, ?_⟩
  intro target quote front beforeQuote beforeSign back notEmpty trim isQuote notMem hfront
    hbeforeQuote hbeforeSign hback
  have ne_nil : target.toList ≠ [] := fun none => notEmpty (String.toList_eq_nil_iff.mp none)
  let ballot (sign : Char) (isSign : sign = '+' ∨ sign = '-') : Ballot :=
    ⟨front, beforeQuote, quote, target.toList, beforeSign, sign, back, isQuote, isSign, ne_nil,
      notMem, hfront, hbeforeQuote, hbeforeSign, hback⟩
  constructor
  · exact @ofText_of_chars _ target (ballot '+' (.inl rfl)) String.toList_ofList trim.trims notEmpty
  · exact @ofText_of_chars _ target (ballot '-' (.inr rfl)) String.toList_ofList trim.trims notEmpty

namespace Multiline

/-- A name with a quote in it, a space and a line break. -/
def target : String := "spoons\nof d'oom"

/-- A vote on it, in the other quotes. -/
def upvote : String := "\u00a0radalert:\"spoons\nof d'oom\"\n+1 "

/-- What stands in the quotes may have line breaks in it and the other kind of quotes, but it must
not be blank, and nothing may follow the vote. -/
theorem command_of_multiline :
    ofText upvote = .vote target .useful ∧ IsVote upvote target 1 ∧
      reply (ofText upvote) = "You voted +1 on 'spoons\nof d'oom'" ∧
      (∀ name magnitude, ¬ IsVote "radalert: ' ' +1" name magnitude) ∧
      ∀ name magnitude, ¬ IsVote "radalert: 'x' +1." name magnitude := by
  obtain ⟨isVote, -, isHelp, -, quoted⟩ := command_of_text
  have trim : IsTrim target.toList := by
    constructor <;> simp [target, isBlank]
  have voted : ofText upvote = .vote target .useful :=
    (quoted target '"' ['\u00a0'] [] ['\n'] [' '] (by decide) trim (.inr rfl)
      (by decide) (by decide) (by decide) (by decide) (by decide)).1
  refine ⟨voted, (isVote _ _ _).mp voted, by rw [voted]; rfl, ?_, ?_⟩
  · exact (isHelp _).mp (by decide)
  · exact (isHelp _).mp (by decide)

end Multiline

end ChatCommand

end PulseBridge
