import Mathlib.Data.Char
import Mathlib.Data.List.Lex
import PromptScript.Text.Utf8

/-!
# Proofs.ByteOrder

Texts compared by their characters and by the bytes of their UTF-8 encoding. The two orders are the
same (`utf8_lt_iff`): of two characters the one with the smaller code point has the smaller bytes,
and neither encoding is the beginning of the other (`utf8EncodeChar_append_lt`).
-/

namespace PromptScript

theorem ofNat_lt_ofNat {m n : Nat} (hm : m < 256) (hn : n < 256) :
    UInt8.ofNat m < UInt8.ofNat n ↔ m < n := by
  rw [UInt8.lt_iff_toNat_lt, UInt8.toNat_ofNat_of_lt' hm, UInt8.toNat_ofNat_of_lt' hn]

theorem ofNat_eq_ofNat {m n : Nat} (hm : m < 256) (hn : n < 256) :
    UInt8.ofNat m = UInt8.ofNat n ↔ m = n := by
  rw [← UInt8.toNat_inj, UInt8.toNat_ofNat_of_lt' hm, UInt8.toNat_ofNat_of_lt' hn]

/-- The smaller of two characters has the smaller bytes, whatever follows them. -/
theorem utf8EncodeChar_append_lt {c d : Char} (h : c < d) (r s : List UInt8) :
    String.utf8EncodeChar c ++ r < String.utf8EncodeChar d ++ s := by
  have hvalid : d.val.toNat < 0x110000 := by
    have hd := d.valid
    simp only [UInt32.isValidChar, Nat.isValidChar] at hd
    omega
  have hlt : c.val.toNat < d.val.toNat := h
  -- the leading byte of four has room for all that stands in front of its three digits
  have hc : c.val.toNat / 262144 % 8 = c.val.toNat / 262144 := by omega
  have hd : d.val.toNat / 262144 % 8 = d.val.toNat / 262144 := by omega
  simp only [String.utf8EncodeChar]
  -- one case for each pair of lengths, of which the shorter never belongs to the greater character
  split_ifs <;>
    simp (disch := omega) only [List.cons_append, List.nil_append, List.cons_lt_cons_iff,
      ofNat_lt_ofNat, ofNat_eq_ofNat] <;>
    omega

theorem utf8_lt_utf8 {cs ds : List Char} (h : cs < ds) : utf8 cs < utf8 ds := by
  induction h with
  | @nil d ds =>
    cases hd : String.utf8EncodeChar d with
    | nil => exact absurd hd String.utf8EncodeChar_ne_nil
    | cons b bs =>
      rw [utf8, utf8, List.flatMap_nil, List.flatMap_cons, hd]
      exact List.nil_lt_cons b _
  | rel h => exact utf8EncodeChar_append_lt h _ _
  | cons _ ih => exact List.append_left_lt ih

/-- The order by characters is the order by bytes. -/
theorem utf8_lt_iff {cs ds : List Char} : utf8 cs < utf8 ds ↔ cs < ds := by
  constructor
  · intro h
    rcases lt_trichotomy cs ds with hlt | rfl | hgt
    · exact hlt
    · exact absurd h (List.lt_irrefl _)
    · exact absurd h (List.lt_asymm (utf8_lt_utf8 hgt))
  · exact utf8_lt_utf8

theorem utf8_inj {cs ds : List Char} : utf8 cs = utf8 ds ↔ cs = ds := by
  constructor
  · intro h
    have hlt : ¬ cs < ds := by rw [← utf8_lt_iff, h]; exact List.lt_irrefl _
    have hgt : ¬ ds < cs := by rw [← utf8_lt_iff, h]; exact List.lt_irrefl _
    exact le_antisymm (not_lt.1 hgt) (not_lt.1 hlt)
  · exact congrArg utf8

theorem compare_eq_lt_iff {cs ds : List Char} : compare cs ds = .lt ↔ cs < ds := by
  induction cs generalizing ds with
  | nil => cases ds <;> simp
  | cons c cs ih =>
    cases ds with
    | nil => simp
    | cons d ds =>
      rw [List.compare_cons_cons, Ordering.then_eq_lt, List.cons_lt_cons_iff, ih,
        Std.compare_eq_iff_eq]
      exact or_congr compareOfLessAndEq_eq_lt Iff.rfl

end PromptScript
