import Mathlib.Data.List.Nodup
import Mathlib.Tactic.SplitIfs
import PulseBridge.Json.Pick

/-!
# What is taken out of a tree

A record is taken out of an object, or out of a list in the place of one. Each slot is filled with
what is taken out of its own member, a slot without a member keeps what it has, unless the member is
needed, and members of other names do not count. A member that is given twice leaves nothing to be
taken.

## Main definitions

* `Value.HasMembers`: the members of an object, or of a list in the place of an object.
* `Given`, `GivenOr`: what a member means, or what stands for it where it is left out.

## Main statements

* `Pick.record_eq_some_iff`: a record is filled slot by slot.
* `fillEach_needed`, `fillEach_optional`: what a slot is filled with.
-/

namespace PulseBridge.Json

variable {α σ : Type}

/-- Whether these are the members of a value, for a record with slots of some names: those of an
object, with none of these names given twice, or the elements of a list under these names in their
order. -/
inductive Value.HasMembers (names : List String) : Value → List (String × Value) → Prop
  | object {ms : List (String × Value)}
      (once : ∀ name ∈ names, (ms.map Prod.fst).count name ≤ 1) : HasMembers names (.object ms) ms
  | list {vs : List Value} (few : vs.length ≤ names.length) :
      HasMembers names (.list vs) (names.zip vs)

/-- Fill slots one after the other, each from its own member. Slots that have been seen are not
needed any more. -/
def fillEach (members : List (String × Value)) (seen : List String) :
    List (Slot σ) → σ → Option σ
  | [], x => some x
  | slot :: slots, x =>
      match members.lookup slot.name with
      | none =>
          if slot.needed && !seen.contains slot.name then none else fillEach members seen slots x
      | some v => (slot.pick v).bind fun fill => fillEach members seen slots (fill x)

/-- Whether it makes no difference which of two slots is filled first. -/
def Slot.Commutes (slot slot' : Slot σ) : Prop :=
  ∀ v v' fill fill', slot.pick v = some fill → slot'.pick v' = some fill' →
    ∀ x, fill (fill' x) = fill' (fill x)

variable {members : List (String × Value)} {seen : List String} {slots : List (Slot σ)}
variable {slot : Slot σ} {name : String} {v : Value} {x y : σ}

theorem fillEach_cons_none (slot : Slot σ) (h : members.lookup slot.name = none) :
    fillEach members seen (slot :: slots) x =
      if slot.needed && !seen.contains slot.name then none else fillEach members seen slots x := by
  rw [fillEach, h]

theorem fillEach_cons_some (slot : Slot σ) (h : members.lookup slot.name = some v) :
    fillEach members seen (slot :: slots) x =
      (slot.pick v).bind fun fill => fillEach members seen slots (fill x) := by
  rw [fillEach, h]

/-- Without members there is a record if nothing is needed any more. -/
theorem fillEach_nil : fillEach [] seen slots x =
    if slots.all fun slot => !slot.needed || seen.contains slot.name then some x else none := by
  induction slots with
  | nil => rfl
  | cons slot slots ih =>
      rw [fillEach_cons_none _ rfl, ih, List.all_cons]
      cases slot.needed <;> cases seen.contains slot.name <;> rfl

/-! ## One more member -/

/-- Only the members of the slots count, and whether they have been seen. -/
theorem fillEach_congr {members' : List (String × Value)} {seen' : List String}
    (same : ∀ slot ∈ slots, members.lookup slot.name = members'.lookup slot.name)
    (seen_same : ∀ slot ∈ slots, seen.contains slot.name = seen'.contains slot.name) :
    fillEach members seen slots x = fillEach members' seen' slots x := by
  induction slots generalizing x with
  | nil => rfl
  | cons slot slots ih =>
      obtain ⟨first, same⟩ := List.forall_mem_cons.mp same
      obtain ⟨first_seen, seen_same⟩ := List.forall_mem_cons.mp seen_same
      simp only [fillEach, first, first_seen, ih same seen_same]

theorem lookup_cons_ne {key : String} (other : key ≠ name) :
    List.lookup key ((name, v) :: members) = members.lookup key := by
  rw [List.lookup_cons, beq_eq_false_iff_ne.mpr other]

theorem contains_cons_ne {key : String} (other : key ≠ name) :
    (name :: seen).contains key = seen.contains key := by
  rw [List.contains_cons, beq_eq_false_iff_ne.mpr other, Bool.false_or]

/-- A member of none of the slots does not count. -/
theorem fillEach_cons_other (other : ∀ slot ∈ slots, slot.name ≠ name) :
    fillEach ((name, v) :: members) seen slots x = fillEach members seen slots x :=
  fillEach_congr (fun slot mem => lookup_cons_ne (other slot mem)) fun _ _ => rfl

theorem fillEach_seen_other (other : ∀ slot ∈ slots, slot.name ≠ name) :
    fillEach members (name :: seen) slots x = fillEach members seen slots x :=
  fillEach_congr (fun _ _ => rfl) fun slot mem => contains_cons_ne (other slot mem)

theorem ne_of_distinct (distinct : ((slot :: slots).map Slot.name).Nodup) :
    ∀ other ∈ slots, other.name ≠ slot.name := by
  intro other mem same
  exact (List.nodup_cons.mp distinct).1 (same ▸ List.mem_map_of_mem mem)

/-- One more member may be put to use at its turn or at once: no other slot is touched by it. -/
theorem fillEach_cons_member (commute : slots.Pairwise Slot.Commutes)
    (distinct : (slots.map Slot.name).Nodup) (mem : slot ∈ slots)
    (fresh : members.lookup slot.name = none) :
    fillEach ((slot.name, v) :: members) seen slots x =
      (slot.pick v).bind fun fill => fillEach members (slot.name :: seen) slots (fill x) := by
  induction slots generalizing x with
  | nil => cases mem
  | cons head slots ih =>
      obtain ⟨commutes, commute⟩ := List.pairwise_cons.mp commute
      have others := ne_of_distinct distinct
      have distinct' := (List.nodup_cons.mp distinct).2
      rcases List.mem_cons.mp mem with rfl | mem
      · rw [fillEach_cons_some _ List.lookup_cons_self]
        congr 1
        funext fill
        rw [fillEach_cons_other others, fillEach_cons_none _ fresh, fillEach_seen_other others]
        simp
      · have other := (others slot mem).symm
        cases found : members.lookup head.name with
        | none =>
            rw [fillEach_cons_none _ ((lookup_cons_ne other).trans found), ih commute distinct' mem]
            simp only [fillEach_cons_none _ found, contains_cons_ne other]
            split_ifs
            · simp
            · rfl
        | some w =>
            rw [fillEach_cons_some _ ((lookup_cons_ne other).trans found)]
            simp only [fillEach_cons_some _ found, ih commute distinct' mem]
            cases hfill : slot.pick v with
            | none => simp
            | some fill =>
                cases hfill' : head.pick w with
                | none => simp
                | some fill' =>
                    simp only [Option.bind_some]
                    rw [commutes slot mem w v fill' fill hfill' hfill]

/-! ## Objects and lists -/

theorem lookup_eq_none (h : name ∉ members.map Prod.fst) : members.lookup name = none := by
  rw [List.lookup_eq_none_iff]
  intro member mem
  rw [bne_iff_ne]
  rintro rfl
  exact h (List.mem_map_of_mem mem)

/-- One member has a name if it is given once, and that is the member that is found. -/
theorem filter_eq_singleton_iff :
    members.filter (·.1 == name) = [(name, v)] ↔
      (members.map Prod.fst).count name ≤ 1 ∧ members.lookup name = some v := by
  induction members with
  | nil => simp
  | cons member members ih =>
      obtain ⟨key, w⟩ := member
      by_cases same : key = name
      · subst same
        have none : members.filter (·.1 == key) = [] ↔ (members.map Prod.fst).count key = 0 := by
          rw [List.count_eq_zero, List.filter_eq_nil_iff]
          constructor
          · rintro none given
            obtain ⟨member, mem, rfl⟩ := List.mem_map.mp given
            exact none member mem (beq_self_eq_true _)
          · intro none member mem named
            exact none (List.mem_map.mpr ⟨member, mem, beq_iff_eq.mp named⟩)
        simp only [List.filter_cons, beq_self_eq_true, if_true, List.cons.injEq, Prod.mk.injEq,
          true_and, none, List.map_cons, List.count_cons_self, List.lookup_cons_self,
          Option.some_inj]
        rw [and_comm]
        exact and_congr_left fun _ => by omega
      · have other : (key == name) = false := beq_eq_false_iff_ne.mpr same
        rw [List.map_cons, List.count_cons_of_ne same, lookup_cons_ne (Ne.symm same), ← ih]
        simp only [List.filter_cons, other, Bool.false_eq_true, if_false]

/-- Fill slots one after the other if none is given twice, with those that have been seen. -/
def fillOnce (slots : List (Slot σ)) (members : List (String × Value)) (seen : List String)
    (x : σ) : Option σ :=
  if ∀ slot ∈ slots, (seen ++ members.map Prod.fst).count slot.name ≤ 1
  then fillEach members seen slots x else none

theorem fillOnce_nil (fresh : seen.Nodup) :
    fillOnce slots [] seen x = fillEach [] seen slots x := by
  rw [fillOnce, if_pos]
  intro slot _
  rw [List.map_nil, List.append_nil]
  exact List.nodup_iff_count_le_one.mp fresh slot.name

/-- A member of none of the slots does not count. -/
theorem fillOnce_cons_other (other : ∀ slot ∈ slots, slot.name ≠ name) :
    fillOnce slots ((name, v) :: members) seen x = fillOnce slots members seen x := by
  have counted : ∀ slot ∈ slots, (seen ++ name :: members.map Prod.fst).count slot.name ≤ 1 ↔
      (seen ++ members.map Prod.fst).count slot.name ≤ 1 := by
    intro slot mem
    rw [List.count_append, List.count_append, List.count_cons_of_ne (other slot mem).symm]
  rw [fillOnce, fillEach_cons_other other]
  exact if_congr (forall₂_congr counted) rfl rfl

theorem fillOnce_cons_seen (mem : slot ∈ slots) (again : slot.name ∈ seen) :
    fillOnce slots ((slot.name, v) :: members) seen x = none := by
  rw [fillOnce, if_neg]
  intro once
  have twice := once slot mem
  have before := List.count_pos_iff.mpr again
  rw [List.map_cons, List.count_append, List.count_cons_self] at twice
  omega

/-- The first member of a slot may be put to use at once. -/
theorem fillOnce_cons_member (commute : slots.Pairwise Slot.Commutes)
    (distinct : (slots.map Slot.name).Nodup) (mem : slot ∈ slots) :
    fillOnce slots ((slot.name, v) :: members) seen x =
      (slot.pick v).bind fun fill => fillOnce slots members (slot.name :: seen) (fill x) := by
  have counted (name : String) : (slot.name :: seen ++ members.map Prod.fst).count name =
      (seen ++ slot.name :: members.map Prod.fst).count name :=
    (List.perm_middle.count_eq name).symm
  simp only [fillOnce, counted, List.map_cons]
  split_ifs with once
  · have alone : slot.name ∉ members.map Prod.fst := by
      have count := once slot mem
      rw [List.count_append, List.count_cons_self] at count
      exact List.count_eq_zero.mp (by omega)
    rw [fillEach_cons_member commute distinct mem (lookup_eq_none alone)]
  · simp

/-- What is filled from members in their order is filled slot by slot, unless one of the slots is
given twice. The induction is on the members: each of them may be put to use at once. -/
theorem fillFromMembers_eq (commute : slots.Pairwise Slot.Commutes)
    (distinct : (slots.map Slot.name).Nodup) (fresh : seen.Nodup) :
    fillFromMembers slots members seen x = fillOnce slots members seen x := by
  induction members generalizing seen x with
  | nil =>
      rw [fillOnce_nil fresh, fillEach_nil]
      rfl
  | cons member members ih =>
      obtain ⟨key, v⟩ := member
      rw [fillFromMembers]
      cases found : slots.find? (·.name == key) with
      | none =>
          have other : ∀ slot ∈ slots, slot.name ≠ key := fun slot mem same =>
            List.find?_eq_none.mp found slot mem (beq_iff_eq.mpr same)
          rw [fillOnce_cons_other other, ← ih fresh]
      | some slot =>
          have mem := List.mem_of_find?_eq_some found
          have named := List.find?_some found
          obtain rfl : slot.name = key := beq_iff_eq.mp named
          dsimp only
          by_cases again : slot.name ∈ seen
          · rw [if_pos (List.contains_iff_mem.mpr again), fillOnce_cons_seen mem again]
          · rw [if_neg (mt List.contains_iff_mem.mp again),
              fillOnce_cons_member commute distinct mem]
            simp only [ih (List.nodup_cons.mpr ⟨again, fresh⟩)]

theorem fillFromElements_eq (distinct : (slots.map Slot.name).Nodup) (vs : List Value) :
    fillFromElements slots vs x =
      if vs.length ≤ slots.length then fillEach ((slots.map Slot.name).zip vs) [] slots x
      else none := by
  induction slots generalizing vs x with
  | nil => cases vs <;> rfl
  | cons slot slots ih =>
      cases vs with
      | nil =>
          rw [List.zip_nil_right, fillEach_nil, List.length_nil, if_pos (Nat.zero_le _)]
          simp [fillFromElements]
      | cons v vs =>
          have others := ne_of_distinct distinct
          have same (fill : σ → σ) :
              fillEach ((slot.name, v) :: (slots.map Slot.name).zip vs) [] slots (fill x) =
                fillEach ((slots.map Slot.name).zip vs) [] slots (fill x) :=
            fillEach_cons_other others
          rw [fillFromElements, List.map_cons, List.zip_cons_cons,
            fillEach_cons_some _ List.lookup_cons_self]
          simp only [ih (List.nodup_cons.mp distinct).2, same, List.length_cons,
            Nat.add_le_add_iff_right]
          split_ifs
          · rfl
          · simp

namespace Pick

/-- A record is taken out of the members of an object. -/
theorem members_object (commute : slots.Pairwise Slot.Commutes)
    (distinct : (slots.map Slot.name).Nodup) (blank : σ) :
    Pick.members slots blank (.object members) = some x ↔
      (∀ name ∈ slots.map Slot.name, (members.map Prod.fst).count name ≤ 1) ∧
        fillEach members [] slots blank = some x := by
  rw [Pick.members, fillFromMembers_eq commute distinct List.nodup_nil, List.forall_mem_map,
    fillOnce]
  simp only [List.nil_append]
  split_ifs with once
  · exact (and_iff_right once).symm
  · exact iff_of_false nofun fun h => once h.1

/-- A record is taken out of a value by filling its slots, each from its own member. -/
theorem record_eq_some_iff (commute : slots.Pairwise Slot.Commutes)
    (distinct : (slots.map Slot.name).Nodup) (blank : σ) :
    Pick.record slots blank v = some x ↔
      ∃ members, v.HasMembers (slots.map Slot.name) members ∧
        fillEach members [] slots blank = some x := by
  cases v with
  | object ms =>
      rw [record, members_object commute distinct]
      · constructor
        · rintro ⟨once, filled⟩
          exact ⟨ms, .object once, filled⟩
        · rintro ⟨members, has, filled⟩
          cases has with
          | object once => exact ⟨once, filled⟩
      · nofun
  | list vs =>
      rw [record, fillFromElements_eq distinct]
      constructor
      · intro filled
        split_ifs at filled with few
        exact ⟨_, .list (by rwa [List.length_map]), filled⟩
      · rintro ⟨members, has, filled⟩
        cases has with
        | list few =>
            rw [List.length_map] at few
            rw [if_pos few]
            exact filled
  | _ => exact ⟨nofun, fun ⟨_, has, _⟩ => nomatch has⟩

/-- Whether exactly the values that mean something are taken, as what they mean. -/
def Takes (p : Pick α) (Means : Value → α → Prop) : Prop := ∀ v a, p v = some a ↔ Means v a

end Pick

/-! ## Slots -/

/-- Whether there is a member of this name, and it means this. -/
def Given (members : List (String × Value)) (name : String) (Means : Value → α → Prop) (a : α) :
    Prop :=
  ∃ v, members.lookup name = some v ∧ Means v a

/-- Whether there is a member of this name and it means this, or there is none and this stands for
it. -/
def GivenOr (members : List (String × Value)) (name : String) (Means : Value → α → Prop)
    (default a : α) : Prop :=
  (members.lookup name = none ∧ a = default) ∨ Given members name Means a

theorem Slot.commutes_of {β : Type} {name name' : String} {needed needed' : Bool} {p : Pick α}
    {p' : Pick β} {set : α → σ → σ} {set' : β → σ → σ}
    (h : ∀ a b x, set a (set' b x) = set' b (set a x)) :
    (Slot.of name needed p set).Commutes (.of name' needed' p' set') := by
  intro v v' fill fill' taken taken' x
  obtain ⟨a, -, rfl⟩ := Option.map_eq_some_iff.mp taken
  obtain ⟨b, -, rfl⟩ := Option.map_eq_some_iff.mp taken'
  exact h a b x

section Slots

variable {p : Pick α} {Means : Value → α → Prop} {set : α → σ → σ}

/-- A needed slot is filled with what its member means. -/
theorem fillEach_needed (takes : p.Takes Means) :
    fillEach members [] (.of name true p set :: slots) x = some y ↔
      ∃ a, Given members name Means a ∧ fillEach members [] slots (set a x) = some y := by
  cases found : members.lookup name with
  | none =>
      rw [fillEach_cons_none (.of name true p set) found]
      simp [Slot.of, Given, found]
  | some v =>
      rw [fillEach_cons_some (.of name true p set) found]
      simp only [Slot.of, Given, found, Option.bind_eq_some_iff, Option.map_eq_some_iff]
      constructor
      · rintro ⟨_, ⟨a, taken, rfl⟩, filled⟩
        exact ⟨a, ⟨v, rfl, (takes v a).mp taken⟩, filled⟩
      · rintro ⟨a, ⟨_, ⟨⟩, means⟩, filled⟩
        exact ⟨_, ⟨a, (takes v a).mpr means, rfl⟩, filled⟩

/-- A slot that is not needed keeps what it has where its member is left out. -/
theorem fillEach_optional (takes : p.Takes Means) {default : α} (kept : set default x = x) :
    fillEach members [] (.of name false p set :: slots) x = some y ↔
      ∃ a, GivenOr members name Means default a ∧
        fillEach members [] slots (set a x) = some y := by
  cases found : members.lookup name with
  | none =>
      rw [fillEach_cons_none (.of name false p set) found]
      simp [Slot.of, GivenOr, Given, found, kept]
  | some v =>
      rw [fillEach_cons_some (.of name false p set) found]
      simp only [Slot.of, GivenOr, Given, found, Option.bind_eq_some_iff, Option.map_eq_some_iff]
      constructor
      · rintro ⟨_, ⟨a, taken, rfl⟩, filled⟩
        exact ⟨a, .inr ⟨v, rfl, (takes v a).mp taken⟩, filled⟩
      · rintro ⟨a, ⟨⟨⟩, -⟩ | ⟨_, ⟨⟩, means⟩, filled⟩
        exact ⟨_, ⟨a, (takes v a).mpr means, rfl⟩, filled⟩

end Slots

/-! ## Single values -/

namespace Value

/-- Whether a value is a number, and which double. -/
def IsNumber (v : Value) (x : Float) : Prop := ∃ n, v = .number n ∧ x = n.toFloat

/-- Whether a value is an integer that is not negative, and which. -/
def IsCount (v : Value) (n : UInt64) : Prop :=
  ∃ k : Nat, v = .number (.integer k) ∧ n = UInt64.ofNat k

/-- Whether a value is a text, and which. -/
def IsText (v : Value) (s : String) : Prop := v = .text s

/-- Whether a value is a truth value, and which. -/
def IsBoolean (v : Value) (b : Bool) : Prop := v = .boolean b

/-- What a value means where it may be `null`, which means nothing. -/
inductive OrNull (Means : Value → α → Prop) : Value → Option α → Prop
  | null : OrNull Means .null none
  | given {v : Value} {a : α} (means : Means v a) : OrNull Means v (some a)

end Value

namespace Pick

theorem takes_f64 : f64.Takes Value.IsNumber := by
  intro v x
  cases v <;> simp [f64, Value.IsNumber, eq_comm]

theorem takes_text : text.Takes Value.IsText := by
  intro v s
  cases v <;> simp [text, Value.IsText]

theorem takes_boolean : boolean.Takes Value.IsBoolean := by
  intro v b
  cases v <;> simp [boolean, Value.IsBoolean]

theorem takes_u64 : u64.Takes Value.IsCount := by
  intro v n
  cases v with
  | number number =>
      cases number with
      | integer k =>
          constructor
          · intro taken
            rw [u64] at taken
            split_ifs at taken with nonneg
            obtain ⟨k, rfl⟩ := Int.eq_ofNat_of_zero_le nonneg
            cases taken
            exact ⟨k, rfl, rfl⟩
          · rintro ⟨k, ⟨⟩, rfl⟩
            simp [u64]
      | float x => exact ⟨nofun, nofun⟩
  | _ => exact ⟨nofun, nofun⟩

theorem Takes.nullable {p : Pick α} {Means : Value → α → Prop} (takes : p.Takes Means)
    (noNull : ∀ a, ¬ Means .null a) : (Pick.nullable p).Takes (Value.OrNull Means) := by
  intro v given
  constructor
  · intro taken
    unfold Pick.nullable at taken
    split at taken
    · cases taken
      exact .null
    · obtain ⟨a, picked, rfl⟩ := Option.map_eq_some_iff.mp taken
      exact .given ((takes v a).mp picked)
  · rintro (_ | @⟨_, a, means⟩)
    · rfl
    · have other : v ≠ .null := by
        rintro rfl
        exact noNull a means
      rw [Pick.nullable, (takes v a).mpr means]
      · rfl
      · exact other

end Pick

end PulseBridge.Json
