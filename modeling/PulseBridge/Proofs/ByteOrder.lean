import PulseBridge.Octets
import Mathlib.Data.List.Basic

/-!
# The order of bytes

Texts are ordered by their characters. Their UTF-8 forms, ordered octet by octet, stand in the same
order: of two characters the greater has the greater form, and it shows before the smaller one has
ended.
-/

namespace PulseBridge.Octets

/-- The UTF-8 form of a text, character by character. -/
theorem ofText_eq (s : String) : ofText s = s.toList.flatMap String.utf8EncodeChar := by
  rw [ofText, String.toUTF8, ← String.utf8Encode_toList, List.utf8Encode]
  simp

/-- The form of the greater character is greater, whatever follows. -/
theorem encodeChar_lt {c d : Char} (h : c.val.toNat < d.val.toNat) (xs ys : Octets) :
    String.utf8EncodeChar c ++ xs < String.utf8EncodeChar d ++ ys := by
  have bound : d.val.toNat < 0x110000 := by
    have valid := d.valid
    rcases valid with small | ⟨-, large⟩
    · exact Nat.lt_trans small (by decide)
    · exact large
  unfold String.utf8EncodeChar
  dsimp only
  generalize c.val.toNat = m at h
  generalize d.val.toNat = n at h bound
  repeat' split
  all_goals
    simp only [List.cons_append, List.nil_append, List.cons_lt_cons_iff, UInt8.lt_iff_toNat_lt,
      ← UInt8.toNat_inj, UInt8.toNat_ofNat']
    -- No octet of a form is cut off.
    simp (disch := omega) only [Nat.mod_eq_of_lt]
    omega

/-- Texts stand in the order of their UTF-8 forms. -/
theorem ofText_lt {s t : String} (h : s < t) : ofText s < ofText t := by
  have chars : s.toList < t.toList := h
  rw [ofText_eq, ofText_eq]
  generalize s.toList = cs at chars
  generalize t.toList = ds at chars
  induction cs generalizing ds with
  | nil =>
      cases ds with
      | nil => exact absurd chars (List.lt_irrefl _)
      | cons d ds =>
          obtain ⟨b, rest, hform⟩ := List.exists_cons_of_ne_nil
            (String.utf8EncodeChar_ne_nil (c := d))
          rw [List.flatMap_cons, hform]
          exact List.nil_lt_cons ..
  | cons c cs ih =>
      cases ds with
      | nil => cases chars
      | cons d ds =>
          rw [List.flatMap_cons, List.flatMap_cons]
          rcases List.cons_lt_cons_iff.mp chars with less | ⟨rfl, rest⟩
          · exact encodeChar_lt less _ _
          · exact List.append_left_lt (ih ds rest)

end PulseBridge.Octets
