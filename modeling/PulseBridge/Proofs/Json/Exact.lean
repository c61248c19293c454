import PulseBridge.Proofs.Json.Integers

/-!
# What values mean

A reader of one kind of values reads exactly those trees that mean something to it, and as what they
mean. A text means what it spells. An unsigned integer is spelled by its decimal digits and by
nothing else: a number with a sign, a point or an exponent is none, even if it is as great as one.

## Main definitions

* `Tree.IsText`, `Tree.IsCount`, `OrNull`: what trees mean as texts, as unsigned integers of 64
  bits, and where `null` may stand.
* `Exact`: a reader that goes by a meaning.

## Main statements

* `exact_text`, `exact_textAs`, `exact_count`, `Exact.nullable`: readers and their meanings.
-/

namespace PulseBridge.Json

open Ascii

variable {α β : Type} {s rest : Octets}

/-! ## Meanings -/

/-- Whether a tree is a text, and which. -/
def Tree.IsText (t : Tree) (text : String) : Prop :=
  ∃ literal : Quotable, t = .text literal ∧ literal.Means text

/-- Whether a tree is an unsigned integer of 64 bits, and which: a number that is spelled by the
decimal digits of the integer. -/
def Tree.IsCount (t : Tree) (n : UInt64) : Prop :=
  ∃ numeral : Numeral, t = .number numeral ∧
    numeral.octets = Octets.ofText (toString n.toNat)

/-- What a tree means where it may be `null`, which means nothing. -/
inductive OrNull (Means : Tree → α → Prop) : Tree → Option α → Prop
  | null : OrNull Means .null none
  | value {t : Tree} {a : α} (means : Means t a) : OrNull Means t (some a)

/-- Whether a reader reads exactly the trees that mean something, as what they mean. -/
structure Exact (r : Reader α) (Means : Tree → α → Prop) : Prop where
  uniform : Uniform r
  sound : Sound r
  makes_iff : ∀ room t a, Makes r room t (some a) ↔ Means t a

theorem Exact.congr {r : Reader α} {Means Means' : Tree → α → Prop} (exact : Exact r Means)
    (same : ∀ t a, Means t a ↔ Means' t a) : Exact r Means' :=
  ⟨exact.uniform, exact.sound, fun room t a => (exact.makes_iff room t a).trans (same t a)⟩

/-- A field that is filled by such a reader. -/
theorem Exact.field {r : Reader α} {Means : Tree → α → Prop} (exact : Exact r Means) {f : α → β} :
    Uniform (r.map f) ∧ Sound (r.map f) :=
  ⟨exact.uniform.map f, exact.sound.map f⟩

/-- What is read of one spelling is made of the tree. -/
theorem Makes.of_reads {r : Reader α} {room : Nat} {t : Tree} {a : α} (uniform : Uniform r)
    (spells : t.Spells s) (reads : Reads r room s a) : Makes r room t (some a) := by
  obtain ⟨outcome, makes⟩ := uniform room t
  have read := makes [] s [] blanks_nil spells follows_nil
  rw [List.nil_append, reads [] follows_nil] at read
  cases outcome with
  | none => cases read
  | some b =>
      cases read
      exact makes

/-- What is made of what a reader has read. -/
theorem makes_map_iff {r : Reader α} (uniform : Uniform r) {f : α → β} {room : Nat} {t : Tree}
    {b : β} : Makes (r.map f) room t (some b) ↔ ∃ a, Makes r room t (some a) ∧ f a = b := by
  constructor
  · intro h
    obtain ⟨outcome, makes⟩ := uniform room t
    obtain ⟨a, rfl, same⟩ := Option.map_eq_some_iff.mp (h.unique (makes.map f)).symm
    exact ⟨a, makes, same⟩
  · rintro ⟨a, makes, rfl⟩
    exact makes.map f

/-! ## Texts -/

theorem makes_text_of_means (room : Nat) {literal : Quotable} {text : String}
    (means : literal.Means text) : Makes Reader.text room (.text literal) (some text) := by
  rintro before s rest blanks rfl _
  rw [Reader.text, skipBlanks_inQuotes blanks]
  exact congrArg Except.toOption (means.readText rest)

theorem exact_text : Exact Reader.text Tree.IsText where
  uniform := uniform_text
  sound := sound_text
  makes_iff := by
    intro room t text
    constructor
    · intro h
      cases t with
      | text literal =>
          rcases readText_cases literal.isQuotable with ⟨text', means⟩ | unreadable
          · cases h.unique (makes_text_of_means room means)
            exact ⟨literal, rfl, means⟩
          · have read := h [] literal.inQuotes [] blanks_nil rfl follows_nil
            rw [Reader.text, skipBlanks_inQuotes blanks_nil] at read
            exact absurd ((unreadable []).symm.trans read) (by simp)
      | _ => cases h.unique (makes_none_of_ne_text (by simp [Tree.beginning]) room)
    · rintro ⟨literal, rfl, means⟩
      exact makes_text_of_means room means

section TextAs

variable {wanted : Shape} {accept : String → Except Cause α}

theorem toOption_textAs (room : Nat) (s : Octets) :
    (Reader.textAs wanted accept room s).toOption =
      (Reader.text room s).toOption.bind fun (t, rest) => (accept t).toOption.map (·, rest) := by
  rw [Reader.textAs, Reader.text]
  split
  · rfl
  · split
    · cases readText _ with
      | error fault => rfl
      | ok read =>
          dsimp only
          cases h : accept read.1 <;> simp [Except.toOption, h]
    · rfl

theorem makes_textAs {room : Nat} {t : Tree} {outcome : Option String}
    (h : Makes Reader.text room t outcome) :
    Makes (Reader.textAs wanted accept) room t
      (outcome.bind fun text => (accept text).toOption) := by
  intro before s rest blanks spells follows
  rw [toOption_textAs, h before s rest blanks spells follows]
  cases outcome <;> rfl

/-- A text that must be understood. -/
theorem exact_textAs :
    Exact (Reader.textAs wanted accept) fun t a => ∃ text, t.IsText text ∧ accept text = .ok a where
  uniform := by
    intro room t
    obtain ⟨outcome, makes⟩ := uniform_text room t
    exact ⟨_, makes_textAs makes⟩
  sound := by
    intro room s a rest read
    have understood : (Reader.textAs wanted accept room s).toOption = _ := toOption_textAs room s
    rw [read] at understood
    obtain ⟨⟨text, rest'⟩, first, further⟩ := Option.bind_eq_some_iff.mp understood.symm
    obtain ⟨a', -, same⟩ := Option.map_eq_some_iff.mp further
    cases same
    exact sound_text room s text rest (eq_ok first)
  makes_iff := by
    intro room t a
    constructor
    · intro h
      obtain ⟨outcome, makes⟩ := uniform_text room t
      obtain ⟨text, rfl, understood⟩ :=
        Option.bind_eq_some_iff.mp (h.unique (makes_textAs makes)).symm
      exact ⟨text, (exact_text.makes_iff room t text).mp makes, eq_ok understood⟩
    · rintro ⟨text, isText, understood⟩
      have makes : Makes (Reader.textAs wanted accept) room t _ :=
        makes_textAs ((exact_text.makes_iff room t text).mpr isText)
      rw [Option.bind_some, understood] at makes
      exact makes

end TextAs

/-! ## Unsigned integers -/

theorem acceptInteger_ok {wanted : Shape} {low high k : Int} {n : Number}
    (h : Reader.acceptInteger wanted low high n = .ok k) :
    n = .integer k ∧ low ≤ k ∧ k ≤ high := by
  cases n with
  | float x => cases h
  | integer m =>
      rw [Reader.acceptInteger] at h
      split_ifs at h with range
      cases h
      simpa using range

theorem of_accepted {accept : Number → Except Cause α} {read : Except Fault (Number × Octets)}
    {a : α} (h : accepted accept read.toOption = some (a, rest)) :
    ∃ n, read = .ok (n, rest) ∧ accept n = .ok a := by
  obtain ⟨⟨n, rest'⟩, first, further⟩ := Option.bind_eq_some_iff.mp h
  obtain ⟨a', understood, same⟩ := Option.map_eq_some_iff.mp further
  cases same
  exact ⟨n, eq_ok first, eq_ok understood⟩

/-- What is read as a number is one that is accepted. -/
theorem gives_of_makes {wanted : Shape} {accept : Number → Except Cause α} {room : Nat} {t : Tree}
    {a : α} (h : Makes (Reader.number wanted accept) room t (some a)) :
    ∃ numeral n, t = .number numeral ∧ numeral.Gives n ∧ accept n = .ok a := by
  cases t with
  | number numeral =>
      obtain ⟨octets, isNumber⟩ := numeral
      have read := h [] octets [] blanks_nil rfl follows_nil
      rw [List.nil_append, List.append_nil] at read
      cases isNumber with
      | unsigned isUnsigned =>
          obtain ⟨b, tail, rfl, digit, -⟩ := isUnsigned.skip
          have begins := skipBlanks_cons (isBlank_of_isDigit digit) tail
          rw [Reader.number_unsigned digit begins] at read
          obtain ⟨n, read, understood⟩ := of_accepted read
          exact ⟨_, n, rfl, (gives_unsigned_iff isUnsigned n).mpr read, understood⟩
      | @negative digits isUnsigned =>
          rw [Reader.number_negative (skipBlanks_cons rfl digits)] at read
          obtain ⟨n, read, understood⟩ := of_accepted read
          exact ⟨_, n, rfl, (gives_negative_iff isUnsigned n).mpr read, understood⟩
  | _ => cases h.unique (makes_none_of_ne_number (by simp [Tree.beginning]) _ _ room)

/-- An unsigned integer, whatever it is called. -/
theorem exact_count (wanted : Shape) :
    Exact ((Reader.number wanted (Reader.acceptInteger wanted 0 0xFFFFFFFFFFFFFFFF)).map
      fun k => UInt64.ofNat k.toNat) Tree.IsCount where
  uniform := (uniform_number _ _).map _
  sound := (sound_number _ _).map _
  makes_iff := by
    intro room t n
    constructor
    · intro h
      obtain ⟨k, makes, rfl⟩ := (makes_map_iff (uniform_number _ _)).mp h
      obtain ⟨numeral, number, rfl, gives, understood⟩ := gives_of_makes makes
      obtain ⟨rfl, nonneg, bound⟩ := acceptInteger_ok understood
      obtain ⟨k, rfl⟩ := Int.eq_ofNat_of_zero_le nonneg
      have small : k < 2 ^ 64 := by omega
      refine ⟨numeral, rfl, ?_⟩
      rw [Int.toNat_natCast, UInt64.toNat_ofNat_of_lt' small]
      exact (Numeral.names_iff.mp (gives_integer_iff.mp gives)).1
    · rintro ⟨numeral, rfl, digits⟩
      exact .of_reads ((uniform_number _ _).map _) (show (Tree.number numeral).Spells _ from
        digits.symm) (reads_count wanted room n)

theorem exact_u64 : Exact Reader.u64 Tree.IsCount := exact_count .u64

theorem exact_usize : Exact Reader.usize Tree.IsCount := exact_count .usize

/-! ## Values that may be `null` -/

/-- Where `null` may stand, it means nothing. -/
theorem Exact.nullable {r : Reader α} {Means : Tree → α → Prop} (exact : Exact r Means)
    (noNull : ∀ a, ¬ Means .null a) : Exact (Reader.nullable r) (OrNull Means) where
  uniform := exact.uniform.nullable
  sound := exact.sound.nullable
  makes_iff := by
    intro room t v
    constructor
    · intro h
      by_cases null : t.beginning = .null
      · cases t with
        | null =>
            cases h.unique (makes_nullable_null r room)
            exact .null
        | _ => simp [Tree.beginning] at null
      · obtain ⟨outcome, makes⟩ := exact.uniform room t
        obtain ⟨a, rfl, rfl⟩ := Option.map_eq_some_iff.mp (h.unique (makes.nullable null)).symm
        exact .value ((exact.makes_iff room t a).mp makes)
    · intro h
      cases h with
      | null => exact makes_nullable_null r room
      | @value _ a means =>
          have other : t.beginning ≠ .null := by
            cases t with
            | null => exact absurd means (noNull a)
            | _ => simp [Tree.beginning]
          exact ((exact.makes_iff room t a).mpr means).nullable other

theorem not_isText_null (text : String) : ¬ Tree.null.IsText text := nofun

theorem not_isCount_null (n : UInt64) : ¬ Tree.null.IsCount n := nofun

end PulseBridge.Json
