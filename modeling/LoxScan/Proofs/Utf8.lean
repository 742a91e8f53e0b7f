import LoxScan.Text.Encoding
import Mathlib

/-! The bytes of a text in UTF-8 are read back as the text. A character of two to four bytes is read
in steps: its lead byte announces how many bytes are owed and holds the highest bits, and each owed
byte adds six bits. -/

namespace LoxScan.Text.Encoding

section Steps

variable {pos : Nat} {done : List Char} {b : UInt8} {bs : List UInt8}

theorem readUtf8_single {bits : Nat} (h : lead? b.toNat = some ⟨0, 0, 0, bits⟩) :
    readUtf8 pos none done (b :: bs) = readUtf8 (pos + 1) none (Char.ofNat bits :: done) bs := by
  simp only [readUtf8, h]

theorem readUtf8_lead {n low high bits : Nat}
    (h : lead? b.toNat = some ⟨n + 1, low, high, bits⟩) :
    readUtf8 pos none done (b :: bs) =
      readUtf8 (pos + 1) (some ⟨pos, b, n + 1, low, high, bits⟩) done bs := by
  simp only [readUtf8, h]

variable {start : Nat} {first : UInt8} {low high bits : Nat}

theorem readUtf8_owed {n : Nat} (least : low ≤ b.toNat) (most : b.toNat ≤ high) :
    readUtf8 pos (some ⟨start, first, n + 2, low, high, bits⟩) done (b :: bs) =
      readUtf8 (pos + 1)
        (some ⟨start, first, n + 1, 0x80, 0xBF, bits * 64 + (b.toNat - 0x80)⟩) done bs := by
  rw [readUtf8]
  simp [least, most]

theorem readUtf8_last (least : low ≤ b.toNat) (most : b.toNat ≤ high) :
    readUtf8 pos (some ⟨start, first, 1, low, high, bits⟩) done (b :: bs) =
      readUtf8 (pos + 1) none (Char.ofNat (bits * 64 + (b.toNat - 0x80)) :: done) bs := by
  rw [readUtf8]
  simp [least, most]

end Steps

/-! ### What lead bytes announce -/

theorem lead?_one {v : Nat} (h : v ≤ 0x7F) : lead? v = some ⟨0, 0, 0, v⟩ := by
  rw [lead?, if_pos (by omega)]

theorem lead?_two {v : Nat} (least : 0x7F < v) (most : v ≤ 0x7FF) :
    lead? (v / 64 % 32 + 192) = some ⟨1, 0x80, 0xBF, v / 64⟩ := by
  have bits : v / 64 % 32 + 192 - 0xC0 = v / 64 := by omega
  rw [lead?, if_neg (by omega), if_neg (by omega), if_pos (by omega), bits]

/-- Overlong forms and surrogates are kept out by the range of the second byte. -/
theorem lead?_three {v : Nat} (least : 0x7FF < v) (most : v ≤ 0xFFFF)
    (scalar : v < 0xD800 ∨ 0xDFFF < v) : ∃ low high,
      lead? (v / 4096 % 16 + 224) = some ⟨2, low, high, v / 4096⟩ ∧
        low ≤ v / 64 % 64 + 128 ∧ v / 64 % 64 + 128 ≤ high := by
  by_cases first : v / 4096 = 0
  · refine ⟨0xA0, 0xBF, ?_, by omega, by omega⟩
    rw [first]
    rfl
  by_cases surrogate : v / 4096 = 0xD
  · refine ⟨0x80, 0x9F, ?_, by omega, by omega⟩
    rw [surrogate]
    rfl
  · refine ⟨0x80, 0xBF, ?_, by omega, by omega⟩
    have bits : v / 4096 % 16 + 224 - 0xE0 = v / 4096 := by omega
    rw [lead?, if_neg (by omega), if_neg (by omega), if_neg (by omega), if_neg (by omega),
      if_neg (by omega), if_pos (by omega), bits]

theorem lead?_four {v : Nat} (least : 0xFFFF < v) (most : v < 0x110000) : ∃ low high,
    lead? (v / 262144 % 8 + 240) = some ⟨3, low, high, v / 262144⟩ ∧
      low ≤ v / 4096 % 64 + 128 ∧ v / 4096 % 64 + 128 ≤ high := by
  by_cases first : v / 262144 = 0
  · refine ⟨0x90, 0xBF, ?_, by omega, by omega⟩
    rw [first]
    rfl
  by_cases last : v / 262144 = 4
  · refine ⟨0x80, 0x8F, ?_, by omega, by omega⟩
    rw [last]
    rfl
  · refine ⟨0x80, 0xBF, ?_, by omega, by omega⟩
    have bits : v / 262144 % 8 + 240 - 0xF0 = v / 262144 := by omega
    rw [lead?, if_neg (by omega), if_neg (by omega), if_neg (by omega), if_neg (by omega),
      if_neg (by omega), if_neg (by omega), if_neg (by omega), if_pos (by omega), bits]

/-! ### Characters and texts -/

theorem toNat_byte {n : Nat} (h : n < 256) : (UInt8.ofNat n).toNat = n := by
  rw [UInt8.toNat_ofNat', Nat.mod_eq_of_lt h]

/-- The bytes of a character are read as the character. -/
theorem readUtf8_utf8EncodeChar (pos : Nat) (done : List Char) (c : Char) (bs : List UInt8) :
    ∃ next, readUtf8 pos none done (String.utf8EncodeChar c ++ bs) =
      readUtf8 next none (c :: done) bs := by
  obtain ⟨v, hv⟩ : ∃ v, v = c.val.toNat := ⟨_, rfl⟩
  have same : Char.ofNat v = c := by rw [hv]; exact Char.ofNat_toNat c
  have scalar : v < 0xD800 ∨ 0xDFFF < v ∧ v < 0x110000 := hv ▸ c.valid
  unfold String.utf8EncodeChar
  rw [← hv]
  by_cases one : v ≤ 0x7F
  · refine ⟨pos + 1, ?_⟩
    have lead : lead? (UInt8.ofNat v).toNat = some ⟨0, 0, 0, v⟩ := by
      rw [toNat_byte (by omega)]
      exact lead?_one one
    simp only [one, if_true, List.cons_append, List.nil_append]
    rw [readUtf8_single lead, same]
  by_cases two : v ≤ 0x7FF
  · refine ⟨pos + 2, ?_⟩
    have lead : lead? (UInt8.ofNat (v / 64 % 32 + 192)).toNat = some ⟨1, 0x80, 0xBF, v / 64⟩ := by
      rw [toNat_byte (by omega)]
      exact lead?_two (by omega) two
    have last : (UInt8.ofNat (v % 64 + 128)).toNat = v % 64 + 128 := toNat_byte (by omega)
    have whole : v / 64 * 64 + (v % 64 + 128 - 0x80) = v := by omega
    simp only [one, two, if_true, if_false, List.cons_append, List.nil_append]
    rw [readUtf8_lead lead, readUtf8_last (by omega) (by omega), last, whole, same]
  by_cases three : v ≤ 0xFFFF
  · refine ⟨pos + 3, ?_⟩
    obtain ⟨low, high, lead, least, most⟩ := lead?_three (by omega) three (by omega)
    rw [← toNat_byte (n := v / 4096 % 16 + 224) (by omega)] at lead
    have second : (UInt8.ofNat (v / 64 % 64 + 128)).toNat = v / 64 % 64 + 128 :=
      toNat_byte (by omega)
    have last : (UInt8.ofNat (v % 64 + 128)).toNat = v % 64 + 128 := toNat_byte (by omega)
    have whole : (v / 4096 * 64 + (v / 64 % 64 + 128 - 0x80)) * 64 + (v % 64 + 128 - 0x80) = v := by
      omega
    simp only [one, two, three, if_true, if_false, List.cons_append, List.nil_append]
    rw [readUtf8_lead lead, readUtf8_owed (by omega) (by omega),
      readUtf8_last (by omega) (by omega), second, last, whole, same]
  · refine ⟨pos + 4, ?_⟩
    obtain ⟨low, high, lead, least, most⟩ := lead?_four (v := v) (by omega) (by omega)
    rw [← toNat_byte (n := v / 262144 % 8 + 240) (by omega)] at lead
    have second : (UInt8.ofNat (v / 4096 % 64 + 128)).toNat = v / 4096 % 64 + 128 :=
      toNat_byte (by omega)
    have third : (UInt8.ofNat (v / 64 % 64 + 128)).toNat = v / 64 % 64 + 128 :=
      toNat_byte (by omega)
    have last : (UInt8.ofNat (v % 64 + 128)).toNat = v % 64 + 128 := toNat_byte (by omega)
    have whole : ((v / 262144 * 64 + (v / 4096 % 64 + 128 - 0x80)) * 64 +
        (v / 64 % 64 + 128 - 0x80)) * 64 + (v % 64 + 128 - 0x80) = v := by
      omega
    simp only [one, two, three, if_false, List.cons_append, List.nil_append]
    rw [readUtf8_lead lead, readUtf8_owed (by omega) (by omega),
      readUtf8_owed (by omega) (by omega), readUtf8_last (by omega) (by omega), second, third,
      last, whole, same]

/-- The bytes of a text are read as the text. -/
theorem decodeUtf8_utf8 (cs : List Char) :
    decodeUtf8 (cs.flatMap String.utf8EncodeChar) = .ok cs := by
  have go (pos : Nat) (done : List Char) :
      readUtf8 pos none done (cs.flatMap String.utf8EncodeChar) = .ok (done.reverse ++ cs) := by
    induction cs generalizing pos done with
    | nil => simp [readUtf8]
    | cons c cs ih =>
      obtain ⟨next, read⟩ := readUtf8_utf8EncodeChar pos done c (cs.flatMap String.utf8EncodeChar)
      rw [List.flatMap_cons, read, ih]
      simp
  exact go 0 []

theorem decode_toUTF8 (s : String) : utf8.decode s.toUTF8.data.toList = .ok s.toList := by
  have bytes : s.toUTF8.data.toList = s.toList.flatMap String.utf8EncodeChar := by
    rw [String.toUTF8, ← String.utf8Encode_toList, List.utf8Encode, List.toList_data_toByteArray]
  rw [bytes]
  exact decodeUtf8_utf8 s.toList

end LoxScan.Text.Encoding
