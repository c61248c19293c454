import PulseBridge.Proofs.ByteOrder
import PulseBridge.Text.Lossy

/-!
# Octets that are text

Texts are written one after the other by writing their octets one after the other, and a text of
ASCII characters by writing an octet for each. Octets that are the UTF-8 form of some text are shown
as that text, so that nothing is lost where they are passed on as one.
-/

namespace PulseBridge.Octets

/-- What holds of the octet of every code holds of every octet. -/
theorem forall_octet {p : UInt8 → Prop} (h : ∀ n < 256, p (UInt8.ofNat n)) (b : UInt8) : p b := by
  have code := h b.toNat b.toNat_lt
  rwa [UInt8.ofNat_toNat] at code

@[simp] theorem ofText_append (s t : String) : ofText (s ++ t) = ofText s ++ ofText t := by
  rw [ofText_eq, ofText_eq, ofText_eq, String.toList_append, List.flatMap_append]

/-- A character of ASCII is one octet. -/
theorem encodeChar_ascii {c : Char} (h : c.toNat < 0x80) :
    String.utf8EncodeChar c = [UInt8.ofNat c.toNat] := by
  have small : c.val.toNat ≤ 127 := Nat.le_of_lt_succ h
  rw [String.utf8EncodeChar, if_pos small]
  rfl

/-- A text of ASCII characters has an octet for each of them. -/
theorem ofText_ascii {cs : List Char} (h : ∀ c ∈ cs, c.toNat < 0x80) :
    ofText (String.ofList cs) = cs.map fun c => UInt8.ofNat c.toNat := by
  rw [ofText_eq, String.toList_ofList]
  induction cs with
  | nil => rfl
  | cons c cs ih =>
      rw [List.flatMap_cons, List.map_cons, encodeChar_ascii (h c List.mem_cons_self),
        ih fun d hd => h d (List.mem_cons_of_mem c hd)]
      rfl

/-- Every octet of a character beyond ASCII is beyond ASCII. -/
theorem le_of_mem_encodeChar {c : Char} (h : 0x80 ≤ c.toNat) {b : UInt8}
    (hb : b ∈ String.utf8EncodeChar c) : 0x80 ≤ b := by
  have large : ¬c.val.toNat ≤ 127 := Nat.not_le.mpr h
  unfold String.utf8EncodeChar at hb
  dsimp only at hb
  rw [if_neg large] at hb
  rw [UInt8.le_iff_toNat_le]
  split at hb
  · simp only [List.mem_cons, List.not_mem_nil, or_false] at hb
    rcases hb with rfl | rfl <;> simp only [UInt8.toNat_ofNat', UInt8.reduceToNat] <;> omega
  · split at hb
    · simp only [List.mem_cons, List.not_mem_nil, or_false] at hb
      rcases hb with rfl | rfl | rfl <;>
        simp only [UInt8.toNat_ofNat', UInt8.reduceToNat] <;> omega
    · simp only [List.mem_cons, List.not_mem_nil, or_false] at hb
      rcases hb with rfl | rfl | rfl | rfl <;>
        simp only [UInt8.toNat_ofNat', UInt8.reduceToNat] <;> omega

/-! ## Octets that are the form of some text -/

/-- Whether octets are the UTF-8 form of some text. -/
def IsText (bs : Octets) : Prop := ∃ s, ofText s = bs

theorem isText_ofText (s : String) : IsText (ofText s) := ⟨s, rfl⟩

/-- What is shown of the form of a text is that text. -/
theorem ofText_lossyText {bs : Octets} (h : IsText bs) : ofText (lossyText bs) = bs := by
  obtain ⟨s, rfl⟩ := h
  rw [lossyText_ofText]

theorem IsText.append {as bs : Octets} (ha : IsText as) (hb : IsText bs) : IsText (as ++ bs) := by
  obtain ⟨s, rfl⟩ := ha
  obtain ⟨t, rfl⟩ := hb
  exact ⟨s ++ t, ofText_append s t⟩

/-- Octets of ASCII are a text. -/
theorem isText_of_ascii {bs : Octets} (h : ∀ b ∈ bs, b < 0x80) : IsText bs := by
  refine ⟨String.ofList (bs.map fun b => Char.ofNat b.toNat), ?_⟩
  have code : ∀ b ∈ bs, (Char.ofNat b.toNat).toNat = b.toNat := by
    intro b hb
    have small : b.toNat < 0x80 := UInt8.lt_iff_toNat_lt.mp (h b hb)
    exact congrArg Char.toNat (dif_pos (.inl (by omega)))
  rw [ofText_ascii, List.map_map]
  · calc
      bs.map ((fun c => UInt8.ofNat c.toNat) ∘ fun b => Char.ofNat b.toNat) = bs.map id := by
        apply List.map_congr_left
        intro b hb
        simp [code b hb]
      _ = bs := List.map_id bs
  · intro c hc
    obtain ⟨b, hb, rfl⟩ := List.mem_map.mp hc
    rw [code b hb]
    exact UInt8.lt_iff_toNat_lt.mp (h b hb)

/-- What becomes of a text when its octets of ASCII are replaced by texts, and no others, is a
text. -/
theorem isText_flatMap {f : UInt8 → Octets} (ascii : ∀ b < 0x80, IsText (f b))
    (beyond : ∀ b, 0x80 ≤ b → f b = [b]) (s : String) : IsText ((ofText s).flatMap f) := by
  rw [ofText_eq]
  induction s.toList with
  | nil => exact isText_ofText ""
  | cons c cs ih =>
      rw [List.flatMap_cons, List.flatMap_append]
      refine IsText.append ?_ ih
      by_cases hc : c.toNat < 0x80
      · rw [encodeChar_ascii hc, List.flatMap_cons, List.flatMap_nil, List.append_nil]
        apply ascii
        rw [UInt8.lt_iff_toNat_lt]
        simp only [UInt8.toNat_ofNat', UInt8.reduceToNat]
        omega
      · have same : (String.utf8EncodeChar c).flatMap f = String.utf8EncodeChar c := by
          calc
            (String.utf8EncodeChar c).flatMap f =
                (String.utf8EncodeChar c).flatMap fun b => [b] := by
              apply List.flatMap_congr
              intro b hb
              exact beyond b (le_of_mem_encodeChar (Nat.le_of_not_lt hc) hb)
            _ = String.utf8EncodeChar c := List.flatMap_singleton' _
        rw [same]
        exact ⟨String.ofList [c], by rw [ofText_eq, String.toList_ofList, List.flatMap_singleton]⟩

end PulseBridge.Octets
