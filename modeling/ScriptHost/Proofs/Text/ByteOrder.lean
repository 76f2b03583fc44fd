import Mathlib.Data.String.Basic
import ScriptHost.Proofs.Source.Location
/-!
# The order of texts in bytes

Texts are compared character by character, and the bytes of a character say
its number from the highest digits on, behind a first byte that is greater the
more bytes there are. So the order of texts is the order of their bytes.

- `Location.encode_append_lt`: the greater of two characters has the greater bytes.
- `Location.bytes_lt_bytes_iff`: one text comes before another if its bytes do.
-/

namespace ScriptHost

namespace Location

open String (utf8EncodeChar)

/-- The digits in base 64 of the number of a character, as they are found in its bytes. -/
theorem exists_digits {n : Nat} (h : n < 0x110000) : ∃ a b c d, a < 8 ∧ b < 64 ∧ c < 64 ∧ d < 64 ∧
    n = 262144 * a + 4096 * b + 64 * c + d ∧ n / 262144 % 8 = a ∧ n / 4096 % 64 = b ∧
      n / 64 % 64 = c ∧ n % 64 = d ∧ n / 4096 % 16 = b % 16 ∧ n / 64 % 32 = c % 32 := by
  refine ⟨n / 262144, n / 4096 % 64, n / 64 % 64, n % 64, ?_⟩
  omega

/-- The greater of two characters has the greater bytes, whatever follows them. -/
theorem encode_append_lt {c d : Char} (h : c < d) (s t : List UInt8) :
    utf8EncodeChar c ++ s < utf8EncodeChar d ++ t := by
  have hlt : c.val.toNat < d.val.toNat := h
  have hbound : d.val.toNat < 0x110000 := by
    have hvalid := d.valid
    unfold UInt32.isValidChar Nat.isValidChar at hvalid
    omega
  have hbyte (k : Nat) (hk : k < 256) : (UInt8.ofNat k).toNat = k :=
    UInt8.toNat_ofNat_of_lt' hk
  unfold utf8EncodeChar
  generalize c.val.toNat = m at hlt
  generalize d.val.toNat = n at hlt hbound
  obtain ⟨m₃, m₂, m₁, m₀, hm₃, hm₂, hm₁, hm₀, hm, hmbytes⟩ := exists_digits (hlt.trans hbound)
  obtain ⟨n₃, n₂, n₁, n₀, hn₃, hn₂, hn₁, hn₀, hn, hnbytes⟩ := exists_digits hbound
  dsimp only
  simp only [hmbytes, hnbytes]
  clear hmbytes hnbytes
  -- one case for each number of bytes of either character; the greater has no fewer bytes
  split_ifs <;>
    simp (disch := omega) only [List.cons_append, List.nil_append, List.cons_lt_cons_iff,
      UInt8.lt_iff_toNat_lt, ← UInt8.toNat_inj, hbyte] <;>
    omega

theorem bytes_eq_flatMap (text : String) : bytes text = text.toList.flatMap utf8EncodeChar := by
  rw [bytes, String.toUTF8_eq_toByteArray, toList_eq]
  conv => lhs; rw [← String.ofList_toList (s := text)]
  rw [String.toByteArray_ofList, List.utf8Encode, List.toList_data_toByteArray]

/-- What comes first among characters comes first among their bytes. -/
theorem flatMap_encode_lt {cs ds : List Char} (h : cs < ds) :
    cs.flatMap utf8EncodeChar < ds.flatMap utf8EncodeChar := by
  induction h with
  | nil =>
    rename_i d ds
    -- every character has a byte
    have hpos : 0 < (utf8EncodeChar d).length := by
      rw [String.length_utf8EncodeChar]
      exact d.utf8Size_pos
    obtain ⟨b, bs, hbytes⟩ := List.exists_cons_of_length_pos hpos
    rw [List.flatMap_cons, hbytes]
    exact List.nil_lt_cons _ _
  | rel hlt => exact encode_append_lt hlt _ _
  | cons _ ih => exact List.append_left_lt ih

/-- **The order of texts is the order of their bytes.** -/
theorem bytes_lt_bytes_iff {a b : String} : bytes a < bytes b ↔ a < b := by
  have hmono {s t : String} (h : s < t) : bytes s < bytes t := by
    rw [bytes_eq_flatMap, bytes_eq_flatMap]
    exact flatMap_encode_lt (String.lt_iff_toList_lt.1 h)
  refine ⟨fun h => ?_, hmono⟩
  by_contra hnot
  by_cases hback : b < a
  · exact List.lt_irrefl _ (List.lt_trans h (hmono hback))
  · obtain rfl := String.le_antisymm (String.not_lt.1 hback) (String.not_lt.1 hnot)
    exact List.lt_irrefl _ h

end Location

end ScriptHost
