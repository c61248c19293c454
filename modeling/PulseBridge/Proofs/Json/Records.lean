import Mathlib.Data.List.Forall2
import PulseBridge.Json.Record

/-!
# Records that are read alike

Two records with the same fields, of which one keeps more of what it reads than the other, read the
same documents and refuse the same ones, with the same faults. What the one reads is the image of
what the other reads.
-/

namespace PulseBridge.Json

variable {σ τ : Type} {f : σ → τ}

/-- How two results of filling a field agree: the same fault, or fillings that the map carries into
each other and the same rest. -/
inductive FillsAlike (f : σ → τ) :
    Except Fault ((σ → σ) × Octets) → Except Fault ((τ → τ) × Octets) → Prop
  | error (fault : Fault) : FillsAlike f (.error fault) (.error fault)
  | ok {fill fill'} (alike : ∀ x, f (fill x) = fill' (f x)) (rest : Octets) :
      FillsAlike f (.ok (fill, rest)) (.ok (fill', rest))

/-- Whether two fields are read alike. -/
structure Field.Alike (f : σ → τ) (a : Field σ) (b : Field τ) : Prop where
  name : b.name = a.name
  aliases : b.aliases = a.aliases
  needed : b.needed = a.needed
  read : ∀ room s, FillsAlike f (a.read room s) (b.read room s)

/-- Fields that are set to what one reader reads are read alike if the map carries one setting into
the other. -/
theorem Field.alike_of {α : Type} (name : String) (aliases : List String) (needed : Bool)
    (r : Reader α) {set : α → σ → σ} {set' : α → τ → τ}
    (alike : ∀ a x, f (set a x) = set' a (f x)) :
    Field.Alike f (.of name aliases needed r set) (.of name aliases needed r set') where
  name := rfl
  aliases := rfl
  needed := rfl
  read := by
    intro room s
    simp only [Field.of, Reader.map]
    cases r room s with
    | error fault => exact .error fault
    | ok read => exact .ok (alike read.1) read.2

/-- Whether two records are read alike. -/
structure Record.Alike (f : σ → τ) (r : Record σ) (q : Record τ) : Prop where
  title : q.title = r.title
  blank : q.blank = f r.blank
  fields : List.Forall₂ (Field.Alike f) r.fields q.fields

/-- The image of what was read. -/
def image (f : σ → τ) (read : Except Fault (σ × Octets)) : Except Fault (τ × Octets) :=
  read.map fun (x, rest) => (f x, rest)

@[simp] theorem image_error (fault : Fault) : image f (.error fault) = .error fault := rfl

@[simp] theorem image_ok (x : σ) (rest : Octets) : image f (.ok (x, rest)) = .ok (f x, rest) := rfl

namespace Record.Alike

variable {r : Record σ} {q : Record τ}

/-- What is found among fields by their names and needs is found at the same place. -/
theorem find? (p : Field σ → Bool) (p' : Field τ → Bool) {as : List (Field σ)}
    {bs : List (Field τ)} (h : List.Forall₂ (Field.Alike f) as bs)
    (same : ∀ a b, Field.Alike f a b → p' b = p a) :
    Option.Rel (Field.Alike f) (as.find? p) (bs.find? p') := by
  induction h with
  | nil => exact .none
  | @cons a b as bs first _ ih =>
      rw [List.find?_cons, List.find?_cons, same a b first]
      cases p a with
      | true => exact .some first
      | false => exact ih

theorem field? (h : Alike f r q) (key : String) :
    Option.Rel (Field.Alike f) (r.field? key) (q.field? key) := by
  apply find? _ _ h.fields
  intro a b alike
  rw [Field.answersTo, Field.answersTo, alike.name, alike.aliases]

theorem absent? (h : Alike f r q) (seen : List String) :
    Option.Rel (Field.Alike f) (r.absent? seen) (q.absent? seen) := by
  apply find? _ _ h.fields
  intro a b alike
  rw [alike.needed, alike.name]

theorem members (h : Alike f r q) (room : Nat) (clock : Octets) (first : Bool)
    (seen : List String) (value : σ) (s : Octets) :
    q.members room clock first seen (f value) s =
      image f (r.members room clock first seen value s) := by
  induction clock generalizing first seen value s with
  | nil => rfl
  | cons _ clock ih =>
      unfold Record.members
      cases Reader.nextMember first s with
      | error fault => rfl
      | ok next =>
          cases next with
          | none =>
              have same := h.absent? seen
              generalize r.absent? seen = missing at same ⊢
              generalize q.absent? seen = missing' at same ⊢
              cases same with
              | none => cases Reader.endObject s <;> rfl
              | some alike => simp only [alike.name, image_error]
          | some rest =>
              dsimp only
              cases readText rest with
              | error fault => rfl
              | ok read =>
                  have same := h.field? read.1
                  dsimp only
                  generalize r.field? read.1 = field at same ⊢
                  generalize q.field? read.1 = field' at same ⊢
                  cases same with
                  | none =>
                      dsimp only
                      cases readColon read.2 >>= skipValue with
                      | error fault => rfl
                      | ok rest => exact ih ..
                  | @some a b alike =>
                      dsimp only
                      rw [alike.name]
                      split
                      · rfl
                      · cases readColon read.2 with
                        | error fault => rfl
                        | ok rest =>
                            have fills := alike.read room rest
                            dsimp only
                            generalize a.read room rest = filled at fills ⊢
                            generalize b.read room rest = filled' at fills ⊢
                            cases fills with
                            | error fault => rfl
                            | ok carried rest =>
                                dsimp only
                                rw [← carried]
                                exact ih ..

theorem findIdx? {as : List (Field σ)} {bs : List (Field τ)}
    (h : List.Forall₂ (Field.Alike f) as bs) :
    bs.findIdx? (·.needed) = as.findIdx? (·.needed) := by
  induction h with
  | nil => rfl
  | @cons a b as bs first _ ih =>
      rw [List.findIdx?_cons, List.findIdx?_cons, first.needed, ih]

theorem positions (h : Alike f r q) (room : Nat) {as : List (Field σ)} {bs : List (Field τ)}
    (fields : List.Forall₂ (Field.Alike f) as bs) (length : Nat) (first : Bool) (value : σ)
    (s : Octets) :
    q.positions room bs length first (f value) s =
      image f (r.positions room as length first value s) := by
  induction fields generalizing length first value s with
  | nil =>
      unfold Record.positions
      cases Reader.endList s <;> rfl
  | @cons a b as bs alike rest ih =>
      unfold Record.positions
      cases Reader.nextElement first s with
      | error fault => rfl
      | ok next =>
          cases next with
          | none =>
              dsimp only
              rw [findIdx? (.cons alike rest), h.title, ← h.fields.length_eq]
              cases (a :: as).findIdx? (·.needed) with
              | none => cases Reader.endList s <;> rfl
              | some further => rfl
          | some rest =>
              have fills := alike.read room rest
              dsimp only
              generalize a.read room rest = filled at fills ⊢
              generalize b.read room rest = filled' at fills ⊢
              cases fills with
              | error fault => rfl
              | ok carried rest =>
                  dsimp only
                  rw [← carried]
                  exact ih ..

theorem image_mapError (read : Except Fault (σ × Octets)) (g : Fault → Fault) :
    (image f read).mapError g = image f (read.mapError g) := by
  cases read <;> rfl

/-- Records that are read alike read the same documents. -/
theorem reader (h : Alike f r q) (room : Nat) (s : Octets) :
    q.reader room s = image f (r.reader room s) := by
  unfold Record.reader
  split
  · rfl
  · cases room with
    | zero => rfl
    | succ room =>
        dsimp only
        rw [h.blank, h.positions room h.fields, image_mapError]
  · cases room with
    | zero => rfl
    | succ room =>
        dsimp only
        rw [h.blank, h.members, image_mapError]
  · rw [h.title, image_error]

end Record.Alike

/-! ## Lists and documents -/

section Lists

variable {r : Reader σ} {q : Reader τ}

theorem elements_image (h : ∀ room s, q room s = image f (r room s)) (room : Nat) (clock : Octets)
    (first : Bool) (gathered : List σ) (s : Octets) :
    Reader.elements q room clock first (gathered.map f) s =
      image (List.map f) (Reader.elements r room clock first gathered s) := by
  induction clock generalizing first gathered s with
  | nil => rfl
  | cons _ clock ih =>
      unfold Reader.elements
      cases Reader.nextElement first s with
      | error fault => rfl
      | ok next =>
          cases next with
          | none =>
              dsimp only
              cases Reader.endList s with
              | error fault => rfl
              | ok rest => simp only [image_ok, List.map_reverse]
          | some rest =>
              dsimp only
              rw [h]
              cases r room rest with
              | error fault => rfl
              | ok read =>
                  obtain ⟨x, rest⟩ := read
                  simp only [image_ok]
                  rw [← List.map_cons]
                  exact ih ..

theorem list_image (h : ∀ room s, q room s = image f (r room s)) (room : Nat) (s : Octets) :
    Reader.list q room s = image (List.map f) (Reader.list r room s) := by
  unfold Reader.list
  split
  · rfl
  · cases room with
    | zero => rfl
    | succ room => exact elements_image h room _ true [] _
  · rfl

/-- A document is read alike by readers that read alike. -/
theorem decode_image (h : ∀ room s, q room s = image f (r room s)) (document : Octets) :
    decode q document = (decode r document).map f := by
  unfold decode
  rw [h]
  cases r depthLimit document with
  | error fault => rfl
  | ok read =>
      obtain ⟨x, rest⟩ := read
      simp only [image_ok]
      cases skipBlanks rest <;> rfl

end Lists

end PulseBridge.Json
