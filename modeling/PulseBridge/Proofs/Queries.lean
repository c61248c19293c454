import Mathlib.Data.List.TakeWhile
import PulseBridge.Net.Url

/-!
# URLs without a query

A query begins at the first question mark, unless the fragment begins before it. So a text in which
every question mark comes after a number sign stands for a URL without a query. Whatever is taken
off the front of such a text while it is read holds no number sign, and what remains is again of
that kind.

## Main statements

* `Url.query_of_ofText`: a text without a query of its own stands for a URL without one.
-/

namespace PulseBridge.Net

/-- Whether every question mark comes after a number sign. -/
def HasNoQuery (cs : List Char) : Prop := ∀ before after, cs = before ++ '?' :: after → '#' ∈ before

/-- Whether `part` is what remains of `whole` after something without a number sign. -/
def Remains (part whole : List Char) : Prop := ∃ front, whole = front ++ part ∧ '#' ∉ front

theorem Remains.trans {as bs cs : List Char} (h : Remains as bs) (h' : Remains bs cs) :
    Remains as cs := by
  obtain ⟨front, rfl, hfront⟩ := h
  obtain ⟨more, rfl, hmore⟩ := h'
  refine ⟨more ++ front, (List.append_assoc ..).symm, ?_⟩
  rw [List.mem_append, not_or]
  exact ⟨hmore, hfront⟩

theorem remains_cons {c : Char} (h : c ≠ '#') (cs : List Char) : Remains cs (c :: cs) :=
  ⟨[c], rfl, by simpa using h.symm⟩

theorem not_mem_takeWhile {p : Char → Bool} {c : Char} (h : p c = false) (cs : List Char) :
    c ∉ cs.takeWhile p := by
  intro hc
  rw [List.mem_takeWhile_imp hc] at h
  cases h

theorem remains_dropWhile {p : Char → Bool} (h : p '#' = false) (cs : List Char) :
    Remains (cs.dropWhile p) cs :=
  ⟨cs.takeWhile p, List.takeWhile_append_dropWhile.symm, not_mem_takeWhile h cs⟩

theorem drop_length_takeWhile (p : Char → Bool) (cs : List Char) :
    cs.drop (cs.takeWhile p).length = cs.dropWhile p := by
  induction cs with
  | nil => rfl
  | cons c cs ih =>
      cases h : p c with
      | true =>
          rw [List.takeWhile_cons_of_pos h, List.dropWhile_cons_of_pos h]
          exact ih
      | false =>
          rw [List.takeWhile_cons_of_neg (by simp [h]), List.dropWhile_cons_of_neg (by simp [h])]
          rfl

namespace HasNoQuery

variable {cs ds : List Char}

theorem of_not_mem (plain : '?' ∉ cs) : HasNoQuery cs := by
  rintro before after rfl
  exact absurd (List.mem_append_right before List.mem_cons_self) plain

theorem of_remains (h : HasNoQuery ds) (remains : Remains cs ds) : HasNoQuery cs := by
  obtain ⟨front, rfl, hfront⟩ := remains
  intro before after hcs
  have mark := h (front ++ before) after (by rw [hcs, List.append_assoc])
  exact (List.mem_append.mp mark).resolve_left hfront

theorem of_initial (h : HasNoQuery ds) (first : cs <+: ds) : HasNoQuery cs := by
  obtain ⟨rest, rfl⟩ := first
  intro before after hcs
  exact h before (after ++ rest) (by rw [hcs, List.append_assoc]; rfl)

/-- What holds no question mark brings no query, wherever it is put. -/
theorem append_of_not_mem (h : HasNoQuery cs) (plain : '?' ∉ ds) : HasNoQuery (cs ++ ds) := by
  intro before after hcs
  rcases List.append_eq_append_iff.mp hcs with ⟨more, rfl, hds⟩ | ⟨more, hbefore, hmore⟩
  · exact absurd (by simp [hds]) plain
  · cases more with
    | nil =>
        have first : '?' :: after = ds := hmore
        exact absurd (first ▸ List.mem_cons_self) plain
    | cons c more =>
        obtain ⟨rfl, -⟩ := List.cons.inj hmore
        exact h before more hbefore

theorem of_append_of_not_mem (h : HasNoQuery ds) (plain : '?' ∉ cs) : HasNoQuery (cs ++ ds) := by
  intro before after hcs
  rcases List.append_eq_append_iff.mp hcs with ⟨more, rfl, hds⟩ | ⟨more, rfl, hmore⟩
  · exact List.mem_append_right cs (h more after hds)
  · cases more with
    | nil => exact absurd (h [] after hmore.symm) List.not_mem_nil
    | cons c more =>
        obtain ⟨rfl, -⟩ := List.cons.inj hmore
        exact absurd (by simp) plain

/-- Dropping characters makes no difference, as long as the number signs stay. -/
theorem filter (h : HasNoQuery cs) {p : Char → Bool} (number : p '#' = true) :
    HasNoQuery (cs.filter p) := by
  intro before after hcs
  obtain ⟨front, rest, rfl, rfl, hrest⟩ := List.filter_eq_append_iff.mp hcs
  obtain ⟨skipped, further, rfl, hskipped, -, -⟩ := List.filter_eq_cons_iff.mp hrest
  have mark : '#' ∈ front ++ skipped := h (front ++ skipped) further (List.append_assoc ..).symm
  rcases List.mem_append.mp mark with kept | dropped
  · exact List.mem_filter.mpr ⟨kept, number⟩
  · exact absurd number (hskipped '#' dropped)

/-- The part before the fragment has no question mark. -/
theorem not_mem_front (h : HasNoQuery cs) : '?' ∉ cs.takeWhile (· != '#') := by
  intro mark
  obtain ⟨before, after, hfront⟩ := List.append_of_mem mark
  have number := h before (after ++ cs.dropWhile (· != '#')) (by
    rw [← List.cons_append, ← List.append_assoc, ← hfront, List.takeWhile_append_dropWhile])
  have inside : '#' ∈ cs.takeWhile (· != '#') := hfront ▸ List.mem_append_left _ number
  exact not_mem_takeWhile rfl cs inside

/-- A text of this kind is split without finding a query. -/
theorem query_tailOf (h : HasNoQuery cs) : (tailOf cs).query = none := by
  have none : (cs.takeWhile (· != '#')).dropWhile (· != '?') = [] := by
    rw [List.dropWhile_eq_nil_iff]
    intro c hc
    rw [bne_iff_ne]
    rintro rfl
    exact h.not_mem_front hc
  unfold tailOf
  dsimp only
  rw [none]

end HasNoQuery

/-! ## Reading a URL -/

/-- Credentials are no part of the query. -/
theorem Url.query_takeCredentials (url : Url) : url.takeCredentials.2.query = url.query := by
  unfold takeCredentials
  split
  · rfl
  · split
    · rfl
    · dsimp only
      split <;> rfl

/-- The query of a URL is that of the text it goes on with. -/
@[simp] theorem query_withTail (scheme : String) (authority : Option Authority)
    (gathered : List String) (tail : Tail) :
    (Url.withTail scheme authority gathered tail).query =
      tail.query.map (escape (escapedInQuery (schemeKind scheme).isSpecial)) := rfl

@[simp] theorem query_atFile (host : Option Host) (tail : Tail) :
    (Url.atFile host tail).query = tail.query.map (escape (escapedInQuery true)) := rfl

/-- What follows the host of an authority is part of it. -/
theorem mem_of_mem_splitHost {inBrackets : Bool} {cs : List Char} {c : Char}
    (h : c ∈ (splitHost inBrackets cs).2) : c ∈ cs := by
  induction cs generalizing inBrackets with
  | nil => exact h
  | cons d cs ih =>
      unfold splitHost at h
      split at h
      · exact h
      · exact List.mem_cons_of_mem d (ih h)

theorem mem_of_mem_splitCredentials {cs : List Char} {c : Char}
    (h : c ∈ ((splitCredentials cs).getD ([], cs)).2) : c ∈ cs := by
  unfold splitCredentials at h
  split at h
  · exact h
  · exact List.mem_reverse.mp ((List.takeWhile_subset _) (List.mem_reverse.mp h))

theorem mem_of_mem_portOf {usual port : Option UInt16} {cs rest : List Char} {c : Char}
    (hport : portOf usual cs = .ok (port, rest)) (h : c ∈ rest) : c ∈ cs := by
  cases cs with
  | nil =>
      cases hport
      exact h
  | cons d cs =>
      unfold portOf at hport
      dsimp only at hport
      split at hport
      · cases hport
      · split at hport
        · cases hport
          exact List.mem_cons_of_mem d (List.mem_of_mem_drop h)
        · cases hport
          exact List.mem_cons_of_mem d (List.mem_of_mem_drop h)

/-- What follows an authority has been part of it. -/
theorem mem_of_mem_authorityOf {kind : SchemeKind} {cs rest : List Char} {authority : Authority}
    (hauthority : authorityOf kind cs = .ok (authority, rest)) {c : Char} (h : c ∈ rest) :
    c ∈ cs := by
  simp only [authorityOf, bind, Except.bind, pure, Except.pure] at hauthority
  split at hauthority
  · cases hauthority
  · split at hauthority
    · cases hauthority
    · next port hport =>
        split at hauthority
        · cases hauthority
        · cases hauthority
          exact mem_of_mem_splitCredentials (mem_of_mem_splitHost (mem_of_mem_portOf hport h))

variable {cs : List Char} {url : Url}

/-- What stands before the end of an authority holds neither mark. -/
theorem not_mem_front (special : Bool) {c : Char} (h : endsAuthority special c = true) :
    c ∉ cs.takeWhile fun c => !endsAuthority special c :=
  not_mem_takeWhile (by rw [h]; rfl) cs

theorem remains_authority (special : Bool) (cs : List Char) :
    Remains (cs.drop (cs.takeWhile fun c => !endsAuthority special c).length) cs := by
  rw [drop_length_takeWhile]
  exact remains_dropWhile (by cases special <;> rfl) cs

/-- After the two slashes of its authority a text of this kind brings no query. -/
theorem query_of_afterSlashes {scheme : String} (h : HasNoQuery cs)
    (read : Url.afterSlashes scheme cs = .ok url) : url.query = none := by
  simp only [Url.afterSlashes, bind, Except.bind, pure, Except.pure] at read
  split at read
  · cases read
  · split at read
    · cases read
    · next split =>
        have mark : endsAuthority (schemeKind scheme).isSpecial '?' = true := by
          cases (schemeKind scheme).isSpecial <;> rfl
        have left := h.of_remains (remains_authority (schemeKind scheme).isSpecial cs)
        have tail := (left.of_append_of_not_mem fun inside =>
          not_mem_front _ mark (mem_of_mem_authorityOf split inside)).query_tailOf
        split at read
        · cases read
          simp [tail]
        · cases read
          simp [tail]

theorem query_of_ofFile (h : HasNoQuery cs) (read : Url.ofFile cs = .ok url) :
    url.query = none := by
  unfold Url.ofFile at read
  dsimp only at read
  split at read
  · next a b rest =>
      split at read
      · next slashes =>
          -- Two slashes begin a host, which ends before the query or the fragment at the latest.
          simp only [Bool.and_eq_true, isSlash, Bool.or_eq_true, beq_iff_eq] at slashes
          have rest : HasNoQuery rest := by
            apply h.of_remains
            apply (remains_cons _ rest).trans (remains_cons _ _)
            · rintro rfl
              exact absurd slashes.2 (by decide)
            · rintro rfl
              exact absurd slashes.1 (by decide)
          have after := (rest.of_remains (remains_authority true _)).query_tailOf
          split at read
          · cases read
            simp [after]
          · split at read
            · cases read
              simp [rest.query_tailOf]
            · simp only [Except.map] at read
              split at read
              · cases read
              · cases read
                split <;> simp [after]
      · cases read
        simp [h.query_tailOf]
  · cases read
    simp [h.query_tailOf]

theorem query_of_ofForeign {scheme : String} (h : HasNoQuery cs)
    (read : Url.ofForeign scheme cs = .ok url) : url.query = none := by
  unfold Url.ofForeign at read
  split at read
  · next rest =>
      have remains : Remains rest ('/' :: '/' :: rest) :=
        (remains_cons (by decide) rest).trans (remains_cons (by decide) _)
      exact query_of_afterSlashes (h.of_remains remains) read
  · next rest _ =>
      cases read
      rw [query_withTail, (h.of_remains (remains_cons (by decide) rest)).query_tailOf]
      rfl
  · cases read
    dsimp only
    rw [query_withTail, h.query_tailOf]
    rfl

theorem query_of_afterScheme {scheme : String} (h : HasNoQuery cs)
    (read : Url.afterScheme none scheme cs = .ok url) : url.query = none := by
  unfold Url.afterScheme at read
  split at read
  · exact query_of_ofFile h read
  · exact query_of_ofForeign h read
  · exact query_of_afterSlashes (h.of_remains (remains_dropWhile rfl cs)) read

/-- What follows the scheme remains after something without a number sign. -/
theorem remains_of_schemeOf {scheme : String} {rest : List Char}
    (h : schemeOf? cs = some (scheme, rest)) : Remains rest cs := by
  unfold schemeOf? at h
  dsimp only at h
  split at h
  · next first rest' _ hrest =>
      split at h
      · cases h
        rw [drop_length_takeWhile] at hrest
        have colon : Remains (':' :: rest) cs := hrest ▸ remains_dropWhile (by decide) cs
        exact (remains_cons (by decide) rest).trans colon
      · cases h
  · cases h

/-- The characters that count bring no query if the text has none. -/
theorem hasNoQuery_urlChars {text : String} (h : HasNoQuery text.toList) :
    HasNoQuery (urlChars text) := by
  unfold urlChars
  dsimp only
  apply HasNoQuery.filter _ (by decide)
  have first : (((text.toList.dropWhile isEdgeBlank).reverse.dropWhile isEdgeBlank).reverse) <+:
      text.toList.dropWhile isEdgeBlank := by
    rw [← List.reverse_suffix, List.reverse_reverse]
    exact List.dropWhile_suffix _
  exact (h.of_remains (remains_dropWhile (by decide) _)).of_initial first

/-- A text without a query of its own stands for a URL without one. -/
theorem Url.query_of_ofText {text : String} (h : HasNoQuery text.toList)
    (read : Url.ofText text = .ok url) : url.query = none := by
  unfold Url.ofText at read
  split at read
  · next scheme rest split =>
      have rest := (hasNoQuery_urlChars h).of_remains (remains_of_schemeOf split)
      exact query_of_afterScheme rest read
  · cases read

end PulseBridge.Net
