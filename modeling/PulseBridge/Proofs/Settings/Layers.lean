import PulseBridge.Proofs.Json.Filled
import PulseBridge.Settings.File

/-!
# How layers of settings lie on each other

A setting is what is given for it, else what the file has for it, else the usual one. What a file
gives is said by its members and what they mean, and not by how it is read: without a file there are
no members, and that is all the difference.

## Main definitions

* `Files.Holds`, `Files.Gives`: the text in a file, and its members.
* `topmost`: one setting.
* `Layered`: how settings come about.

## Main statements

* `fromFile_eq_ok_iff`: what is read from a file, and as what.
* `layered_of_filled`: how settings come about that are filled field by field.
-/

namespace PulseBridge.Settings

open Json (Padded Record Tree Uniform Sound depthLimit)

/-! ## Results -/

section Results

variable {ε ε' α β : Type} {result : Except ε α}

theorem bind_eq_ok_iff {next : α → Except ε β} {b : β} :
    result >>= next = .ok b ↔ ∃ a, result = .ok a ∧ next a = .ok b := by
  cases result with
  | error fault =>
      constructor
      · nofun
      · rintro ⟨_, ⟨⟩, -⟩
  | ok a =>
      constructor
      · exact fun same => ⟨a, rfl, same⟩
      · rintro ⟨_, ⟨⟩, same⟩
        exact same

theorem mapError_eq_ok_iff {f : ε → ε'} {a : α} : result.mapError f = .ok a ↔ result = .ok a := by
  cases result <;> simp [Except.mapError]

end Results

/-! ## Rules -/

theorem one_le_iff {n : UInt64} : 1 ≤ n ↔ n ≠ 0 := by
  rw [UInt64.le_iff_toNat_le, ← UInt64.toNat_inj.ne]
  exact Nat.one_le_iff_ne_zero

section Rules

variable {σ : Type} {rules : List (Rule × Bool)} {s s' : σ}

theorem firstBroken_eq_none_iff : firstBroken rules = none ↔ ∀ r ∈ rules, r.2 = true := by
  induction rules with
  | nil => exact iff_of_true rfl (List.forall_mem_nil _)
  | cons r rules ih =>
      obtain ⟨rule, kept⟩ := r
      rw [List.forall_mem_cons, ← ih, firstBroken]
      cases kept <;> simp

theorem require_eq_ok_iff : require rules s = .ok s' ↔ s = s' ∧ ∀ r ∈ rules, r.2 = true := by
  rw [← firstBroken_eq_none_iff, require]
  cases firstBroken rules <;> simp

theorem exists_broken_iff :
    (∃ rule, require rules s = .error (.broken rule)) ↔ ¬ ∀ r ∈ rules, r.2 = true := by
  rw [← firstBroken_eq_none_iff, require]
  cases firstBroken rules <;> simp

end Rules

/-! ## Files -/

/-- Whether a file is a text, and a spelling of some tree. -/
def Files.Holds (files : Files) (path : String) (t : Tree) : Prop :=
  ∃ content, files path = .ok content ∧ (Octets.text? content).isSome ∧ Padded t.Spells content

/-- Whether these are the members that a file gives to fields of some names. No file gives none. -/
def Files.Gives (files : Files) (names : List String) :
    Option String → List (String × Tree) → Prop
  | none, members => members = []
  | some path, members => ∃ t : Tree, files.Holds path t ∧ t.HasMembers names members

theorem Files.readText_eq_ok_iff {files : Files} {path : String} {content : Octets} :
    files.readText path = .ok content ↔
      files path = .ok content ∧ (Octets.text? content).isSome = true := by
  rw [readText, bind_eq_ok_iff]
  constructor
  · rintro ⟨content', found, checked⟩
    split at checked
    · next isText =>
        cases checked
        exact ⟨found, isText⟩
    · cases checked
  · rintro ⟨found, isText⟩
    exact ⟨content, found, if_pos isText⟩

section FromFile

variable {σ : Type} {usual : σ} {record : Record σ} {files files' : Files} {path : String} {x : σ}

theorem fromFile_some_eq_ok_iff :
    fromFile usual record files (some path) = .ok x ↔
      ∃ content, files.readText path = .ok content ∧ Json.decode record.reader content = .ok x := by
  rw [fromFile]
  cases files.readText path with
  | error fault => simp
  | ok content => simp [mapError_eq_ok_iff]

theorem fromFile_ne_broken (path? : Option String) (rule : Rule) :
    fromFile usual record files path? ≠ .error (.broken rule) := by
  cases path? with
  | none => nofun
  | some path =>
      rw [fromFile]
      cases files.readText path with
      | error fault => nofun
      | ok content =>
          dsimp only
          cases Json.decode record.reader content <;> simp [Except.mapError]

/-- What is read from a file: its fields are filled from the members that the file gives. It is the
same without a file and with one that leaves everything out, if the record begins as usual. -/
theorem fromFile_eq_ok_iff (begins : record.blank = usual) (optional : record.IsOptional)
    (independent : record.Independent) (uniform : ∀ f ∈ record.fields, Uniform f.read)
    (sound : ∀ f ∈ record.fields, Sound f.read) {path? : Option String} :
    fromFile usual record files path? = .ok x ↔
      ∃ members, files.Gives (record.fields.map Json.Field.name) path? members ∧
        Record.FilledFrom (depthLimit - 1) members record.fields record.blank x := by
  cases path? with
  | none =>
      simp only [fromFile, Files.Gives, exists_eq_left, Record.filledFrom_nil, Except.ok.injEq,
        begins]
      exact eq_comm
  | some path =>
      rw [fromFile_some_eq_ok_iff]
      constructor
      · rintro ⟨content, read, decoded⟩
        obtain ⟨found, isText⟩ := Files.readText_eq_ok_iff.mp read
        obtain ⟨t, members, spells, has, filled⟩ :=
          (Record.decode_eq_ok_iff optional independent uniform sound).mp decoded
        exact ⟨members, ⟨t, ⟨content, found, isText, spells⟩, has⟩, filled⟩
      · rintro ⟨members, ⟨t, ⟨content, found, isText, spells⟩, has⟩, filled⟩
        exact ⟨content, Files.readText_eq_ok_iff.mpr ⟨found, isText⟩,
          (Record.decode_eq_ok_iff optional independent uniform sound).mpr
            ⟨t, members, spells, has, filled⟩⟩

/-- The same is read from files that differ in how the members are arranged. -/
theorem fromFile_resembling (independent : record.Independent)
    (uniform : ∀ f ∈ record.fields, Uniform f.read) {t t' : Tree} (holds : files.Holds path t)
    (holds' : files'.Holds path t') (same : record.Resembles t t') :
    fromFile usual record files (some path) = .ok x ↔
      fromFile usual record files' (some path) = .ok x := by
  obtain ⟨content, found, isText, spells⟩ := holds
  obtain ⟨content', found', isText', spells'⟩ := holds'
  have read := Files.readText_eq_ok_iff.mpr ⟨found, isText⟩
  have read' := Files.readText_eq_ok_iff.mpr ⟨found', isText'⟩
  simp only [fromFile_some_eq_ok_iff, read, read', Except.ok.injEq, exists_eq_left']
  exact Record.decode_resembling uniform independent same spells spells' x

end FromFile

/-! ## Layers -/

/-- One setting: what is given, else what the file has, else the usual. -/
def topmost {α : Type} (given filed : Option α) (usual : α) : α := (given.or filed).getD usual

section Layered

variable {α : Type}

theorem getD_topmost (given filed : Option α) (usual : α) :
    given.getD (topmost none filed usual) = topmost given filed usual := by
  cases given <;> rfl

/-- Where a setting may be left open, what is given for it closes it. -/
theorem or_topmost (given : Option α) (filed : Option (Option α)) (usual : Option α) :
    given.or (topmost none filed usual) = topmost (given.map some) filed usual := by
  cases given <;> rfl

variable {σ γ φ : Type}

/-- How settings come about that are read as `record` from the file of what is given, if it names
one: members stand for what the file has, and what is given is put over that. -/
structure Layered (resolve : Files → γ → Except SettingsFault σ) (file : γ → Option String)
    (record : Record σ) (StandsIn : φ → List (String × Tree) → Prop) (result : γ → φ → σ)
    (KeepsRules : σ → Prop) : Prop where
  /-- There are settings exactly if the file can be read and has what is of the right shape, and if
  the settings keep the rules. -/
  ok_iff (files : Files) (given : γ) (s : σ) :
    resolve files given = .ok s ↔
      ∃ members filed, files.Gives (record.fields.map Json.Field.name) (file given) members ∧
        StandsIn filed members ∧ KeepsRules s ∧ s = result given filed
  /-- A rule is broken exactly if it is broken by what results. -/
  broken_iff (files : Files) (given : γ) :
    (∃ rule, resolve files given = .error (.broken rule)) ↔
      ∃ members filed, files.Gives (record.fields.map Json.Field.name) (file given) members ∧
        StandsIn filed members ∧ ¬ KeepsRules (result given filed)
  /-- How the members of the file are arranged does not matter. -/
  rearranged (files files' : Files) (given : γ) (path : String) (t t' : Tree) :
    file given = some path → files.Holds path t → files'.Holds path t' → record.Resembles t t' →
      ∀ s, resolve files given = .ok s ↔ resolve files' given = .ok s

theorem Layered.keepsRules {resolve : Files → γ → Except SettingsFault σ} {file : γ → Option String}
    {record : Record σ} {StandsIn : φ → List (String × Tree) → Prop} {result : γ → φ → σ}
    {KeepsRules : σ → Prop} (h : Layered resolve file record StandsIn result KeepsRules)
    {files : Files} {given : γ} {s : σ} (resolved : resolve files given = .ok s) :
    KeepsRules s := by
  obtain ⟨members, filed, -, -, kept, -⟩ := (h.ok_iff files given s).mp resolved
  exact kept

/-- Settings come in layers if fields are filled with what stands in the members, and what is given
is put over what they were filled with. -/
theorem layered_of_filled {usual : σ} {record : Record σ} {file : γ → Option String}
    {overlay : σ → γ → σ} {rules : σ → List (Rule × Bool)}
    {StandsIn : φ → List (String × Tree) → Prop} {base : φ → σ} {result : γ → φ → σ}
    {KeepsRules : σ → Prop} (begins : record.blank = usual)
    (optional : record.IsOptional) (independent : record.Independent)
    (exact : ∀ f ∈ record.fields, Uniform f.read ∧ Sound f.read)
    (filled : ∀ room members x, Record.FilledFrom room members record.fields record.blank x ↔
      ∃ filed, StandsIn filed members ∧ x = base filed)
    (overlay_base : ∀ given filed, overlay (base filed) given = result given filed)
    (keeps : ∀ s, (∀ r ∈ rules s, r.2 = true) ↔ KeepsRules s) :
    Layered (fun files given => do
        let s := overlay (← fromFile usual record files (file given)) given
        require (rules s) s)
      file record StandsIn result KeepsRules := by
  have uniform (f : Json.Field σ) (mem : f ∈ record.fields) := (exact f mem).1
  have sound (f : Json.Field σ) (mem : f ∈ record.fields) := (exact f mem).2
  have read (files : Files) (path? : Option String) (x : σ) :
      fromFile usual record files path? = .ok x ↔
        ∃ members filed, files.Gives (record.fields.map Json.Field.name) path? members ∧
          StandsIn filed members ∧ x = base filed := by
    rw [fromFile_eq_ok_iff begins optional independent uniform sound]
    simp only [filled, exists_and_left]
  refine ⟨?ok, ?broken, ?rearranged⟩
  case ok =>
    intro files given s
    simp only [bind_eq_ok_iff, require_eq_ok_iff, read, keeps]
    constructor
    · rintro ⟨_, ⟨members, filed, gives, stands, rfl⟩, rfl, kept⟩
      exact ⟨members, filed, gives, stands, kept, overlay_base given filed⟩
    · rintro ⟨members, filed, gives, stands, kept, rfl⟩
      have same := overlay_base given filed
      exact ⟨_, ⟨members, filed, gives, stands, rfl⟩, same, same.symm ▸ kept⟩
  case broken =>
    intro files given
    constructor
    · rintro ⟨rule, fails⟩
      cases hread : fromFile usual record files (file given) with
      | error fault =>
          rw [hread] at fails
          cases fails
          exact absurd hread (fromFile_ne_broken _ _)
      | ok x =>
          rw [hread] at fails
          obtain ⟨members, filed, gives, stands, rfl⟩ := (read _ _ _).mp hread
          have breaks := exists_broken_iff.mp ⟨rule, fails⟩
          rw [keeps, overlay_base] at breaks
          exact ⟨members, filed, gives, stands, breaks⟩
    · rintro ⟨members, filed, gives, stands, breaks⟩
      rw [(read _ _ _).mpr ⟨members, filed, gives, stands, rfl⟩]
      apply exists_broken_iff.mpr
      rwa [keeps, overlay_base]
  case rearranged =>
    intro files files' given path t t' named holds holds' same s
    simp only [bind_eq_ok_iff, named, fromFile_resembling independent uniform holds holds' same]

end Layered

end PulseBridge.Settings
