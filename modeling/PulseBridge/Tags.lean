/-!
# Tags

The tags of a check form a set. It is kept as a list in strictly increasing order, so that equal
sets are equal lists.
-/

namespace PulseBridge

/-- A set of texts, in increasing order. -/
structure Tags where
  toList : List String
  increasing : toList.Pairwise (· < ·)
  deriving DecidableEq, Repr

namespace Tags

/-- Put a text at its place; one that is there already is not repeated. -/
def insertInto (tag : String) : List String → List String
  | [] => [tag]
  | t :: ts =>
      if tag < t then tag :: t :: ts
      else if tag = t then t :: ts
      else t :: insertInto tag ts

theorem mem_insertInto {x tag : String} {ts : List String} :
    x ∈ insertInto tag ts ↔ x = tag ∨ x ∈ ts := by
  induction ts with
  | nil => simp [insertInto]
  | cons t ts ih =>
      simp only [insertInto]
      split
      · simp
      · split
        · next same => simp [same]
        · simp only [List.mem_cons, ih]
          constructor
          · rintro (h | h | h) <;> simp [h]
          · rintro (h | h | h) <;> simp [h]

theorem pairwise_insertInto {tag : String} {ts : List String} (h : ts.Pairwise (· < ·)) :
    (insertInto tag ts).Pairwise (· < ·) := by
  induction ts with
  | nil => simp [insertInto]
  | cons t ts ih =>
      obtain ⟨below, rest⟩ := List.pairwise_cons.1 h
      simp only [insertInto]
      split
      · next less =>
          refine List.pairwise_cons.2 ⟨fun x hx => ?_, h⟩
          rcases List.mem_cons.1 hx with rfl | hx
          · exact less
          · exact String.lt_trans less (below x hx)
      · next notLess =>
          split
          · exact h
          · next different =>
              refine List.pairwise_cons.2 ⟨fun x hx => ?_, ih rest⟩
              rcases mem_insertInto.1 hx with rfl | hx
              · exact Decidable.byContradiction fun notGreater =>
                  different (String.le_antisymm (String.not_lt.1 notGreater)
                    (String.not_lt.1 notLess))
              · exact below x hx

/-- The empty set. -/
def empty : Tags := ⟨[], .nil⟩

/-- The set with one more text. -/
def insert (tag : String) (tags : Tags) : Tags :=
  ⟨insertInto tag tags.toList, pairwise_insertInto tags.increasing⟩

/-- The set of the texts of a list. -/
def ofList (ts : List String) : Tags := ts.foldl (fun tags t => tags.insert t) empty

end Tags

end PulseBridge
