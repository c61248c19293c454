import Mathlib.Data.List.Pairwise
import Mathlib.Data.List.Perm.Basic
import Mathlib.Logic.Function.Conjugate
import PulseBridge.Proofs.Json.Gathered

/-!
# Members in another order

The members of an object may be put in another order, those of a field may be called by another of
its names, and members that nobody knows may be put among them: the same record is read, or none.
An object that gives a field twice is refused, whatever it is called either time.

## Main definitions

* `Record.Rearranged`: the same members in another order, with others among them.
* `Record.GivesTwice`: the members of an object that give a field twice.
* `Record.Independent`: the fields of a record are filled independently of each other.

## Main statements

* `Record.makes_rearranged`: the same is made of members in any order.
* `Record.makes_twice`: nothing is made of members that give a field twice.
-/

namespace PulseBridge.Json

open Ascii

variable {σ : Type}

/-! ## Fields -/

/-- Whether the field is ever filled so. -/
def Field.Fills (f : Field σ) (fill : σ → σ) : Prop :=
  ∃ room s rest, f.read room s = .ok (fill, rest)

/-- Whether it makes no difference which of two fields is filled first. -/
def Field.Commutes (f g : Field σ) : Prop :=
  ∀ fill fill', f.Fills fill → g.Fills fill' → Function.Commute fill fill'

theorem Field.Commutes.symm {f g : Field σ} (h : f.Commutes g) : g.Commutes f :=
  fun fill fill' fills fills' => (h fill' fill fills' fills).symm

instance : Std.Symm (@Field.Commutes σ) := ⟨fun _ _ => Field.Commutes.symm⟩

/-- A field that is set is filled by setting it to something. -/
theorem Field.Fills.of {α : Type} {name : String} {aliases : List String} {needed : Bool}
    {r : Reader α} {set : α → σ → σ} {fill : σ → σ}
    (h : (Field.of name aliases needed r set).Fills fill) : ∃ a, fill = set a := by
  obtain ⟨room, s, rest, read⟩ := h
  simp only [Field.of, Reader.map] at read
  cases hread : r room s with
  | error fault =>
      rw [hread] at read
      cases read
  | ok a =>
      rw [hread] at read
      cases read
      exact ⟨a.1, rfl⟩

/-- Fields of which neither setting touches the other may be filled in any order. -/
theorem Field.commutes_of {α β : Type} {name name' : String} {aliases aliases' : List String}
    {needed needed' : Bool} {r : Reader α} {r' : Reader β} {set : α → σ → σ} {set' : β → σ → σ}
    (h : ∀ a b x, set a (set' b x) = set' b (set a x)) :
    (Field.of name aliases needed r set).Commutes (Field.of name' aliases' needed' r' set') := by
  intro fill fill' fills fills' x
  obtain ⟨a, rfl⟩ := fills.of
  obtain ⟨b, rfl⟩ := fills'.of
  exact h a b x

/-- What is made of a tree is read from its spellings. -/
theorem Field.fills_of_makes {f : Field σ} {room : Nat} {t : Tree} {fill : σ → σ}
    (h : Makes f.read room t (some fill)) : f.Fills fill := by
  obtain ⟨s, spells⟩ := t.exists_spells
  exact ⟨room, _, [], eq_ok (h [] s [] blanks_nil spells follows_nil)⟩

namespace Record

variable {r : Record σ} {room : Nat} {effects : List (Effect σ)}

/-- Whether it makes no difference in which order the fields of a record are filled. -/
def Independent (r : Record σ) : Prop := r.fields.Pairwise Field.Commutes

/-- A member that fills a field fills one of the record's. -/
theorem HasEffect.field {m : Quotable × Tree} {name : String} {fill : σ → σ}
    (h : r.HasEffect room m (.fills name fill)) : ∃ f ∈ r.fields, f.name = name ∧ f.Fills fill := by
  cases h with
  | @fills _ _ _ f _ _ known makes =>
      exact ⟨f, List.mem_of_find?_eq_some known, rfl, Field.fills_of_makes makes⟩

/-- Whether effects on fields of different names may be exchanged. -/
def Exchangeable (effects : List (Effect σ)) : Prop :=
  ∀ name fill name' fill', .fills name fill ∈ effects → .fills name' fill' ∈ effects →
    name ≠ name' → Function.Commute fill fill'

theorem exists_hasEffect {ms : List (Quotable × Tree)}
    (has : List.Forall₂ (r.HasEffect room) ms effects) {effect : Effect σ} (h : effect ∈ effects) :
    ∃ m, r.HasEffect room m effect := by
  induction has with
  | nil => cases h
  | cons first _ ih =>
      rcases List.mem_cons.mp h with rfl | further
      · exact ⟨_, first⟩
      · exact ih further

/-- Members fill fields independently if the fields are filled so. -/
theorem Independent.exchangeable (h : r.Independent) {ms : List (Quotable × Tree)}
    (has : List.Forall₂ (r.HasEffect room) ms effects) : Exchangeable effects := by
  intro name fill name' fill' mem mem' different
  obtain ⟨m, effect⟩ := exists_hasEffect has mem
  obtain ⟨m', effect'⟩ := exists_hasEffect has mem'
  obtain ⟨f, hf, rfl, fills⟩ := effect.field
  obtain ⟨g, hg, rfl, fills'⟩ := effect'.field
  have apart : f ≠ g := fun same => different (congrArg Field.name same)
  exact List.Pairwise.forall h hf hg apart fill fill' fills fills'

/-! ## Gathering -/

variable {effects' : List (Effect σ)} {seen seen' : List String} {value : σ}

theorem contains_congr (same : ∀ name, name ∈ seen ↔ name ∈ seen') (name : String) :
    seen.contains name = seen'.contains name := by
  rw [Bool.eq_iff_iff, List.contains_iff_mem, List.contains_iff_mem, same]

/-- Only which fields have been seen counts, not in which order. -/
theorem gather_congr (same : ∀ name, name ∈ seen ↔ name ∈ seen') :
    r.gather effects seen value = r.gather effects seen' value := by
  induction effects generalizing seen seen' value with
  | nil =>
      have absent : r.absent? seen = r.absent? seen' := by
        rw [absent?, absent?]
        congr 1
        funext f
        rw [contains_congr same]
      rw [gather, gather, absent]
  | cons effect effects ih =>
      cases effect with
      | refused => rfl
      | passed => exact ih same
      | fills name fill =>
          rw [gather, gather, Effect.andThen, Effect.andThen, contains_congr same]
          split
          · rfl
          · exact ih fun other => by simp only [List.mem_cons, same]

theorem andThen_none {α : Type} (effect : Effect σ) (seen : List String) (value : σ) :
    effect.andThen seen value (fun _ _ => (none : Option α)) = none := by
  cases effect with
  | refused => rfl
  | passed => rfl
  | fills name fill => exact ite_self none

/-- Two members next to each other may be exchanged. -/
theorem gather_swap {effect effect' : Effect σ} (h : Exchangeable (effect :: effect' :: effects)) :
    r.gather (effect :: effect' :: effects) seen value =
      r.gather (effect' :: effect :: effects) seen value := by
  simp only [gather]
  cases effect with
  | refused => exact (andThen_none effect' seen value).symm
  | passed => cases effect' <;> rfl
  | fills name fill =>
      cases effect' with
      | refused => exact andThen_none (.fills name fill) seen value
      | passed => rfl
      | fills name' fill' =>
          simp only [Effect.andThen, List.contains_cons, Bool.or_eq_true, beq_iff_eq]
          by_cases same : name = name'
          · subst same
            simp
          · have commute : Function.Commute fill fill' :=
              h name fill name' fill' (by simp) (by simp) same
            have order : r.gather effects (name' :: name :: seen) (fill' (fill value)) =
                r.gather effects (name :: name' :: seen) (fill (fill' value)) := by
              rw [commute.eq]
              exact gather_congr fun other => by simp only [List.mem_cons, or_left_comm]
            have same' : name' ≠ name := Ne.symm same
            simp only [same, same', false_or, order]
            split_ifs <;> rfl

theorem Exchangeable.of_subset (h : Exchangeable effects)
    (subset : ∀ effect ∈ effects', effect ∈ effects) : Exchangeable effects' :=
  fun name fill name' fill' mem mem' => h name fill name' fill' (subset _ mem) (subset _ mem')

/-- The order of the members makes no difference. -/
theorem gather_perm (h : effects.Perm effects') (exchangeable : Exchangeable effects) :
    r.gather effects seen value = r.gather effects' seen value := by
  induction h generalizing seen value with
  | nil => rfl
  | cons effect _ ih =>
      have further := exchangeable.of_subset fun _ => List.mem_cons_of_mem effect
      rw [gather, gather]
      congr 1
      funext seen value
      exact ih further
  | swap effect effect' effects => exact gather_swap exchangeable
  | trans first _ ih ih' =>
      exact (ih exchangeable).trans (ih' (exchangeable.of_subset fun _ => first.mem_iff.mpr))

/-- Members that are passed over make no difference. -/
theorem gather_passed {passed : List (Effect σ)} (h : ∀ effect ∈ passed, effect = .passed) :
    r.gather (passed ++ effects) seen value = r.gather effects seen value := by
  induction passed with
  | nil => rfl
  | cons effect passed ih =>
      obtain ⟨rfl, further⟩ := List.forall_mem_cons.mp h
      exact ih further

/-! ## Rearranging -/

/-- Whether a member has the same value as another one and a name that stands for the same field, or
for none. -/
def SameMember (r : Record σ) (m m' : Quotable × Tree) : Prop :=
  m' = m ∨ m'.2 = m.2 ∧
    ∃ name name', m.1.Means name ∧ m'.1.Means name' ∧ r.field? name' = r.field? name

/-- Whether nobody knows the name of a member. -/
def Unknown (r : Record σ) (m : Quotable × Tree) : Prop :=
  ∃ name, m.1.Means name ∧ r.field? name = none

/-- Whether the members of an object are those of another one in any order, each under any name of
its field, with members among them that nobody knows. -/
def Rearranged (r : Record σ) (ms ms' : List (Quotable × Tree)) : Prop :=
  ∃ further renamed, (∀ m ∈ further, r.Unknown m) ∧ List.Forall₂ r.SameMember ms renamed ∧
    ms'.Perm (further ++ renamed)

theorem SameMember.hasEffect {m m' : Quotable × Tree} {effect : Effect σ} (h : r.SameMember m m')
    (has : r.HasEffect room m effect) : r.HasEffect room m' effect := by
  rcases h with rfl | ⟨sameValue, name, name', means, means', sameField⟩
  · exact has
  · obtain ⟨key', t'⟩ := m'
    cases has with
    | unreadable fails =>
        have read := fails []
        rw [means.readText] at read
        cases read
    | passed means₁ unknown =>
        obtain rfl := means.unique means₁
        exact .passed means' (sameField.trans unknown)
    | refused means₁ known makes =>
        obtain rfl := means.unique means₁
        subst sameValue
        exact .refused means' (sameField.trans known) makes
    | fills means₁ known makes =>
        obtain rfl := means.unique means₁
        subst sameValue
        exact .fills means' (sameField.trans known) makes

theorem hasEffect_renamed {ms renamed : List (Quotable × Tree)}
    (same : List.Forall₂ r.SameMember ms renamed)
    (has : List.Forall₂ (r.HasEffect room) ms effects) :
    List.Forall₂ (r.HasEffect room) renamed effects := by
  induction same generalizing effects with
  | nil => exact has
  | cons one _ ih =>
      cases has with
      | cons first further => exact .cons (one.hasEffect first) (ih further)

theorem hasEffect_unknown {further : List (Quotable × Tree)}
    (unknown : ∀ m ∈ further, r.Unknown m) :
    List.Forall₂ (r.HasEffect room) further (further.map fun _ => .passed) := by
  rw [List.forall₂_map_right_iff, List.forall₂_same]
  rintro ⟨key, t⟩ mem
  obtain ⟨name, means, none⟩ := unknown (key, t) mem
  exact .passed means none

/-- The same is made of the members in any order, under any of their names, and with unknown ones
among them. -/
theorem makes_rearranged (uniform : ∀ f ∈ r.fields, Uniform f.read) (independent : r.Independent)
    {ms ms' : List (Quotable × Tree)} (h : r.Rearranged ms ms') (room : Nat) :
    ∃ outcome, Makes r.reader room (.object ms) outcome ∧
      Makes r.reader room (.object ms') outcome := by
  cases room with
  | zero => exact ⟨none, makes_object_zero ms, makes_object_zero ms'⟩
  | succ room =>
      obtain ⟨further, renamed, unknown, same, perm⟩ := h
      obtain ⟨effects, has⟩ := exists_effects uniform room ms
      have hasAll : List.Forall₂ (r.HasEffect room) (further ++ renamed)
          ((further.map fun _ => .passed) ++ effects) :=
        List.rel_append (hasEffect_unknown unknown) (hasEffect_renamed same has)
      obtain ⟨effects', has', perm'⟩ := List.perm_comp_forall₂ perm hasAll
      have sameOutcome : r.gather effects' [] r.blank = r.gather effects [] r.blank :=
        (gather_perm perm' (independent.exchangeable has')).trans (gather_passed (by simp))
      exact ⟨_, makes_object has, sameOutcome ▸ makes_object has'⟩

/-- Whether a tree is another one, but for how the members of an object are arranged. -/
inductive Resembles (r : Record σ) : Tree → Tree → Prop
  | refl (t : Tree) : Resembles r t t
  | object {ms ms' : List (Quotable × Tree)} (h : r.Rearranged ms ms') :
      Resembles r (.object ms) (.object ms')

theorem makes_resembling (uniform : ∀ f ∈ r.fields, Uniform f.read) (independent : r.Independent)
    {t t' : Tree} (h : r.Resembles t t') (room : Nat) :
    ∃ outcome, Makes r.reader room t outcome ∧ Makes r.reader room t' outcome := by
  cases h with
  | refl =>
      obtain ⟨outcome, makes⟩ := uniform_reader uniform room t
      exact ⟨outcome, makes, makes⟩
  | object h => exact makes_rearranged uniform independent h room

theorem makes_resembling_each (uniform : ∀ f ∈ r.fields, Uniform f.read)
    (independent : r.Independent) {ts ts' : List Tree} (h : List.Forall₂ r.Resembles ts ts')
    (room : Nat) :
    ∃ outcomes, List.Forall₂ (Makes r.reader room) ts outcomes ∧
      List.Forall₂ (Makes r.reader room) ts' outcomes := by
  induction h with
  | nil => exact ⟨[], .nil, .nil⟩
  | cons one _ ih =>
      obtain ⟨outcome, makes, makes'⟩ := makes_resembling uniform independent one room
      obtain ⟨outcomes, further, further'⟩ := ih
      exact ⟨outcome :: outcomes, .cons makes further, .cons makes' further'⟩

/-- The same is made of lists whose elements are the same but for how their members are arranged. -/
theorem makes_list_resembling (uniform : ∀ f ∈ r.fields, Uniform f.read)
    (independent : r.Independent) {ts ts' : List Tree} (h : List.Forall₂ r.Resembles ts ts')
    (room : Nat) :
    ∃ outcome, Makes (Reader.list r.reader) room (.list ts) outcome ∧
      Makes (Reader.list r.reader) room (.list ts') outcome := by
  cases room with
  | zero => exact ⟨none, makes_list_zero _ ts, makes_list_zero _ ts'⟩
  | succ room =>
      obtain ⟨outcomes, makes, makes'⟩ := makes_resembling_each uniform independent h room
      exact ⟨_, makes_list makes, makes_list makes'⟩

/-! ## Fields given twice -/

/-- Whether a member has a name of a field. -/
def Gives (r : Record σ) (f : Field σ) (m : Quotable × Tree) : Prop :=
  ∃ name, m.1.Means name ∧ r.field? name = some f

/-- Whether a field is given twice among the members of an object, under the same name or under two
of its names. -/
def GivesTwice (r : Record σ) (ms : List (Quotable × Tree)) : Prop :=
  ∃ f m m', r.Gives f m ∧ r.Gives f m' ∧ [m, m'].Sublist ms

/-- A member that gives a field fills it, or the record is refused for it. -/
theorem Gives.effect {f : Field σ} {m : Quotable × Tree} {effect : Effect σ} (h : r.Gives f m)
    (has : r.HasEffect room m effect) :
    effect = .refused ∨ ∃ fill, effect = .fills f.name fill := by
  obtain ⟨name, means, known⟩ := h
  cases has with
  | unreadable fails => exact .inl rfl
  | passed means₁ unknown =>
      obtain rfl := means.unique means₁
      rw [known] at unknown
      cases unknown
  | refused means₁ known₁ makes => exact .inl rfl
  | @fills _ _ _ g fill means₁ known₁ makes =>
      obtain rfl := means.unique means₁
      obtain rfl : f = g := Option.some.inj (known.symm.trans known₁)
      exact .inr ⟨fill, rfl⟩

/-- A record is refused for a member further on, if it is refused for it whatever has been seen. -/
theorem andThen_eq_none {α : Type} {effect : Effect σ} {further : List String → σ → Option α}
    (h : ∀ seen' value', (∀ name ∈ seen, name ∈ seen') → further seen' value' = none) :
    effect.andThen seen value further = none := by
  cases effect with
  | refused => rfl
  | passed => exact h seen value fun _ => id
  | fills name fill =>
      rw [Effect.andThen, h _ _ fun _ => List.mem_cons_of_mem name]
      exact ite_self none

/-- A record is refused if a field is given that has been seen. -/
theorem gather_of_seen {f : Field σ} {m : Quotable × Tree} {ms : List (Quotable × Tree)}
    (has : List.Forall₂ (r.HasEffect room) ms effects) (gives : r.Gives f m) (mem : m ∈ ms)
    (again : f.name ∈ seen) : r.gather effects seen value = none := by
  induction has generalizing seen value with
  | nil => cases mem
  | cons first _ ih =>
      rcases List.mem_cons.mp mem with rfl | mem
      · rcases gives.effect first with rfl | ⟨fill, rfl⟩
        · rfl
        · exact if_pos (List.contains_iff_mem.mpr again)
      · exact andThen_eq_none fun seen' value' more => ih mem (more f.name again)

/-- A record is refused if a field is given twice. -/
theorem gather_of_twice {f : Field σ} {m m' : Quotable × Tree} {ms : List (Quotable × Tree)}
    (has : List.Forall₂ (r.HasEffect room) ms effects) (gives : r.Gives f m)
    (gives' : r.Gives f m') (twice : [m, m'].Sublist ms) :
    r.gather effects seen value = none := by
  induction has generalizing seen value with
  | nil => cases twice
  | cons first further ih =>
      cases twice with
      | cons _ twice => exact andThen_eq_none fun seen' value' _ => ih twice
      | cons_cons _ again =>
          rcases gives.effect first with rfl | ⟨fill, rfl⟩
          · rfl
          · rw [gather, Effect.andThen, gather_of_seen further gives'
              (List.singleton_sublist.mp again) List.mem_cons_self]
            exact ite_self none

/-- Nothing is made of members that give a field twice. -/
theorem makes_twice (uniform : ∀ f ∈ r.fields, Uniform f.read) {ms : List (Quotable × Tree)}
    (h : r.GivesTwice ms) (room : Nat) : Makes r.reader room (.object ms) none := by
  cases room with
  | zero => exact makes_object_zero ms
  | succ room =>
      obtain ⟨f, m, m', gives, gives', twice⟩ := h
      obtain ⟨effects, has⟩ := exists_effects uniform room ms
      exact gather_of_twice has gives gives' twice ▸ makes_object has

/-! ## Documents -/

section Documents

variable {document document' : Octets} {t t' : Tree} {ts ts' : List Tree}
  {ms : List (Quotable × Tree)}

theorem ok_iff_ok {ε α : Type} {read read' : Except ε α} (h : read.toOption = read'.toOption)
    (a : α) : read = .ok a ↔ read' = .ok a := by
  cases read <;> cases read' <;> simp_all [Except.toOption]

/-- A record is decoded from a document as from one in which its members are arranged otherwise. -/
theorem decode_resembling (uniform : ∀ f ∈ r.fields, Uniform f.read) (independent : r.Independent)
    (h : r.Resembles t t') (spells : Padded t.Spells document)
    (spells' : Padded t'.Spells document') (x : σ) :
    decode r.reader document = .ok x ↔ decode r.reader document' = .ok x := by
  obtain ⟨outcome, makes, makes'⟩ := makes_resembling uniform independent h depthLimit
  exact ok_iff_ok ((toOption_decode makes spells).trans (toOption_decode makes' spells').symm) x

/-- A list of records is decoded as one in which the members are arranged otherwise. -/
theorem decode_list_resembling (uniform : ∀ f ∈ r.fields, Uniform f.read)
    (independent : r.Independent) (h : List.Forall₂ r.Resembles ts ts')
    (spells : Padded (Tree.list ts).Spells document)
    (spells' : Padded (Tree.list ts').Spells document') (xs : List σ) :
    decode (.list r.reader) document = .ok xs ↔ decode (.list r.reader) document' = .ok xs := by
  obtain ⟨outcome, makes, makes'⟩ := makes_list_resembling uniform independent h depthLimit
  exact ok_iff_ok ((toOption_decode makes spells).trans (toOption_decode makes' spells').symm) xs

/-- A document is refused whose object gives a field twice. -/
theorem decode_twice (uniform : ∀ f ∈ r.fields, Uniform f.read) (h : r.GivesTwice ms)
    (spells : Padded (Tree.object ms).Spells document) : ∃ e, decode r.reader document = .error e :=
  exists_error (toOption_decode (makes_twice uniform h depthLimit) spells)

/-- A list is refused among whose elements there is an object that gives a field twice. -/
theorem decode_list_twice (uniform : ∀ f ∈ r.fields, Uniform f.read) (h : r.GivesTwice ms)
    (mem : .object ms ∈ ts) (spells : Padded (Tree.list ts).Spells document) :
    ∃ e, decode (.list r.reader) document = .error e := by
  have refused := makes_list_refused (uniform_reader uniform) (makes_twice uniform h) mem depthLimit
  exact exists_error (toOption_decode refused spells)

end Documents

end Record

end PulseBridge.Json
