import Logline.Proofs.Charset.Decoding
import Mathlib.Data.String.Basic

/-! # The order of bytes

Texts are ordered character by character. Written in UTF-8 they are ordered byte by byte in the same
way: a longer code begins with a greater byte, and codes of one length are the digits of the code
point in base sixty-four, the first one first.

* `Charset.utf8EncodeChar_lt` — the codes of two characters, whatever comes behind them
* `Charset.encode_utf8_lt_iff` — the order of texts is the order of their bytes -/

namespace Logline.Charset

/-- Bytes are in the order of their numbers. -/
theorem ofNat_lt_ofNat {a b : Nat} (ha : a < 256) (hb : b < 256) :
    UInt8.ofNat a < UInt8.ofNat b ↔ a < b := by
  rw [UInt8.lt_iff_toNat_lt, UInt8.toNat_ofNat', UInt8.toNat_ofNat']
  omega

/-- Bytes are the same if their numbers are. -/
theorem ofNat_eq_ofNat {a b : Nat} (ha : a < 256) (hb : b < 256) :
    UInt8.ofNat a = UInt8.ofNat b ↔ a = b := by
  rw [← UInt8.toNat_inj, UInt8.toNat_ofNat', UInt8.toNat_ofNat']
  omega

/-- The code of a smaller character comes first, whatever stands behind the codes. -/
theorem utf8EncodeChar_lt {c d : Char} (lt : c < d) (s t : List UInt8) :
    String.utf8EncodeChar c ++ s < String.utf8EncodeChar d ++ t := by
  have less : c.val.toNat < d.val.toNat := lt
  have bound : d.val.toNat < 0x110000 := by
    have bounds := toNat_bounds d
    rw [Char.toNat] at bounds
    omega
  -- digits in base sixty-four
  have third : ∀ n, n / 4096 = n / 64 / 64 := by omega
  have fourth : ∀ n, n / 262144 = n / 64 / 64 / 64 := by omega
  simp only [String.utf8EncodeChar, third, fourth]
  split_ifs <;>
    simp (disch := omega) only [List.cons_append, List.nil_append, List.cons_lt_cons_iff,
      ofNat_lt_ofNat, ofNat_eq_ofNat] <;>
    omega

/-- The bytes of a smaller text come first. -/
theorem encode_utf8_lt {s t : String} (lt : s < t) : encode .utf8 s < encode .utf8 t := by
  rw [String.lt_iff_toList_lt] at lt
  rw [encode_eq_flatMap, encode_eq_flatMap]
  generalize s.toList = cs, t.toList = ds at lt
  -- along both texts, up to the first character that differs
  induction cs generalizing ds with
  | nil =>
    cases ds with
    | nil => exact absurd lt (List.not_lt_nil _)
    | cons d ds =>
      obtain ⟨b, bs, code⟩ := List.exists_cons_of_ne_nil (encodeChar_ne_nil .utf8 d)
      rw [List.flatMap_nil, List.flatMap_cons, code]
      exact List.nil_lt_cons _ _
  | cons c cs ih =>
    cases ds with
    | nil => exact absurd lt (List.not_lt_nil _)
    | cons d ds =>
      rw [List.flatMap_cons, List.flatMap_cons]
      rcases List.cons_lt_cons_iff.1 lt with less | ⟨rfl, behind⟩
      · exact utf8EncodeChar_lt less _ _
      · exact List.append_left_lt (ih ds behind)

/-- **Texts are in the order of their bytes.** -/
theorem encode_utf8_lt_iff {s t : String} : encode .utf8 s < encode .utf8 t ↔ s < t := by
  refine ⟨fun lt => ?_, encode_utf8_lt⟩
  rcases lt_trichotomy s t with less | rfl | greater
  · exact less
  · exact absurd lt (List.lt_irrefl _)
  · exact absurd lt (List.lt_asymm (encode_utf8_lt greater))

end Logline.Charset
