import Mathlib.Data.List.Forall2

/-!
# Well-formed UTF-8

Which bytes a text is stored as. A table has the sequences of bytes that stand for one character, by
ranges: it has no row for a sequence that is longer than it need be, for a surrogate or for a
character behind the last one, nor for a sequence that is cut off. Bytes are those of a text just
when they are such sequences one after another.
-/

namespace Emend.Utf8

abbrev Range := Nat × Nat

/-- The bytes that continue a sequence. -/
def tail : Range := (0x80, 0xBF)

/-- The sequences that stand for one character, by the ranges of their bytes. -/
def rows : List (List Range) :=
  [[(0x00, 0x7F)],
    [(0xC2, 0xDF), tail],
    [(0xE0, 0xE0), (0xA0, 0xBF), tail],
    [(0xE1, 0xEC), tail, tail],
    [(0xED, 0xED), (0x80, 0x9F), tail],
    [(0xEE, 0xEF), tail, tail],
    [(0xF0, 0xF0), (0x90, 0xBF), tail, tail],
    [(0xF1, 0xF3), tail, tail, tail],
    [(0xF4, 0xF4), (0x80, 0x8F), tail, tail]]

def Within (range : Range) (byte : UInt8) : Prop :=
  range.1 ≤ byte.toNat ∧ byte.toNat ≤ range.2

def IsSequence (bytes : List UInt8) : Prop := ∃ row ∈ rows, List.Forall₂ Within row bytes

inductive WellFormed : List UInt8 → Prop where
  | nil : WellFormed []
  | append {bytes behind : List UInt8} (sequence : IsSequence bytes)
      (others : WellFormed behind) : WellFormed (bytes ++ behind)

/-! ## From characters to sequences -/

theorem within_ofNat {low high n : Nat} (above : low ≤ n) (below : n ≤ high) (small : high < 256) :
    Within (low, high) (UInt8.ofNat n) := by
  have same : (UInt8.ofNat n).toNat = n := by
    rw [UInt8.toNat_ofNat', Nat.mod_eq_of_lt (by omega)]
  unfold Within
  rw [same]
  exact ⟨above, below⟩

theorem tail_ofNat (n : Nat) : Within tail (UInt8.ofNat (n % 0x40 + 0x80)) :=
  within_ofNat (by omega) (by omega) (by omega)

/-- The numbers of three bytes, with the rows that their first byte chooses. -/
theorem isSequence_three {n : Nat} (least : 0x7FF < n) (most : n ≤ 0xFFFF)
    (valid : n < 0xD800 ∨ 0xDFFF < n) :
    IsSequence [UInt8.ofNat (n / 4096 % 0x10 + 0xE0), UInt8.ofNat (n / 64 % 0x40 + 0x80),
      UInt8.ofNat (n % 0x40 + 0x80)] := by
  have lead {low high : Nat} (above : low * 4096 ≤ n + 0xE0 * 4096)
      (below : n + 0xE0 * 4096 < (high + 1) * 4096) (small : high < 256) :
      Within (low, high) (UInt8.ofNat (n / 4096 % 0x10 + 0xE0)) :=
    within_ofNat (by omega) (by omega) small
  have middle := tail_ofNat (n / 64)
  have last : List.Forall₂ Within [tail] [UInt8.ofNat (n % 0x40 + 0x80)] :=
    .cons (tail_ofNat n) .nil
  rcases Nat.lt_or_ge n 0x1000 with early | late
  · exact ⟨[(0xE0, 0xE0), (0xA0, 0xBF), tail], by simp [rows],
      .cons (lead (by omega) (by omega) (by omega))
        (.cons (within_ofNat (by omega) (by omega) (by omega)) last)⟩
  rcases Nat.lt_or_ge n 0xD000 with early | late
  · exact ⟨[(0xE1, 0xEC), tail, tail], by simp [rows],
      .cons (lead (by omega) (by omega) (by omega)) (.cons middle last)⟩
  rcases Nat.lt_or_ge n 0xD800 with early | late
  · exact ⟨[(0xED, 0xED), (0x80, 0x9F), tail], by simp [rows],
      .cons (lead (by omega) (by omega) (by omega))
        (.cons (within_ofNat (by omega) (by omega) (by omega)) last)⟩
  · exact ⟨[(0xEE, 0xEF), tail, tail], by simp [rows],
      .cons (lead (by omega) (by omega) (by omega)) (.cons middle last)⟩

/-- The numbers of four bytes, with the rows that their first byte chooses. -/
theorem isSequence_four {n : Nat} (least : 0xFFFF < n) (most : n < 0x110000) :
    IsSequence [UInt8.ofNat (n / 262144 % 0x08 + 0xF0), UInt8.ofNat (n / 4096 % 0x40 + 0x80),
      UInt8.ofNat (n / 64 % 0x40 + 0x80), UInt8.ofNat (n % 0x40 + 0x80)] := by
  have lead {low high : Nat} (above : low * 262144 ≤ n + 0xF0 * 262144)
      (below : n + 0xF0 * 262144 < (high + 1) * 262144) (small : high < 256) :
      Within (low, high) (UInt8.ofNat (n / 262144 % 0x08 + 0xF0)) :=
    within_ofNat (by omega) (by omega) small
  have last : List.Forall₂ Within [tail, tail]
      [UInt8.ofNat (n / 64 % 0x40 + 0x80), UInt8.ofNat (n % 0x40 + 0x80)] :=
    .cons (tail_ofNat (n / 64)) (.cons (tail_ofNat n) .nil)
  rcases Nat.lt_or_ge n 0x40000 with early | late
  · exact ⟨[(0xF0, 0xF0), (0x90, 0xBF), tail, tail], by simp [rows],
      .cons (lead (by omega) (by omega) (by omega))
        (.cons (within_ofNat (by omega) (by omega) (by omega)) last)⟩
  rcases Nat.lt_or_ge n 0x100000 with early | late
  · exact ⟨[(0xF1, 0xF3), tail, tail, tail], by simp [rows],
      .cons (lead (by omega) (by omega) (by omega)) (.cons (tail_ofNat (n / 4096)) last)⟩
  · exact ⟨[(0xF4, 0xF4), (0x80, 0x8F), tail, tail], by simp [rows],
      .cons (lead (by omega) (by omega) (by omega))
        (.cons (within_ofNat (by omega) (by omega) (by omega)) last)⟩

/-- What a character is encoded as is a sequence. -/
theorem isSequence_utf8EncodeChar (c : Char) : IsSequence (String.utf8EncodeChar c) := by
  have valid : c.val.toNat < 0xD800 ∨ 0xDFFF < c.val.toNat ∧ c.val.toNat < 0x110000 := c.valid
  unfold String.utf8EncodeChar
  dsimp only
  generalize c.val.toNat = n at valid
  split
  · exact ⟨[(0x00, 0x7F)], by simp [rows],
      .cons (within_ofNat (by omega) (by omega) (by omega)) .nil⟩
  split
  · exact ⟨[(0xC2, 0xDF), tail], by simp [rows],
      .cons (within_ofNat (by omega) (by omega) (by omega)) (.cons (tail_ofNat n) .nil)⟩
  split
  · exact isSequence_three (by omega) (by omega) (by omega)
  · exact isSequence_four (by omega) (by omega)

/-! ## From sequences to characters -/

theorem exists_char {n : Nat} (valid : n < 0xD800 ∨ 0xDFFF < n ∧ n < 0x110000) :
    ∃ c : Char, c.val.toNat = n := ⟨Char.ofNatAux n valid, rfl⟩

variable {a b c d : UInt8} {bytes behind : List UInt8}

theorem ofNat_eq {n : Nat} (same : n = a.toNat) : UInt8.ofNat n = a := by
  rw [same, UInt8.ofNat_toNat]

theorem exists_of_one (most : a.toNat ≤ 0x7F) : ∃ x, String.utf8EncodeChar x = [a] := by
  obtain ⟨x, code⟩ := exists_char (n := a.toNat) (by omega)
  refine ⟨x, ?_⟩
  unfold String.utf8EncodeChar
  dsimp only
  rw [code, if_pos most, ofNat_eq rfl]

theorem exists_of_two (first : 0xC2 ≤ a.toNat ∧ a.toNat ≤ 0xDF)
    (second : 0x80 ≤ b.toNat ∧ b.toNat ≤ 0xBF) : ∃ x, String.utf8EncodeChar x = [a, b] := by
  obtain ⟨x, code⟩ := exists_char (n := (a.toNat - 0xC0) * 64 + (b.toNat - 0x80)) (by omega)
  refine ⟨x, ?_⟩
  unfold String.utf8EncodeChar
  dsimp only
  rw [code, if_neg (by omega), if_pos (by omega)]
  simp only [List.cons.injEq, and_true]
  exact ⟨ofNat_eq (by omega), ofNat_eq (by omega)⟩

/-- Three bytes, of which the second one keeps off what is too long and surrogates. -/
theorem exists_of_three (first : 0xE0 ≤ a.toNat ∧ a.toNat ≤ 0xEF)
    (second : 0x80 ≤ b.toNat ∧ b.toNat ≤ 0xBF) (third : 0x80 ≤ c.toNat ∧ c.toNat ≤ 0xBF)
    (needed : a.toNat = 0xE0 → 0xA0 ≤ b.toNat)
    (scalar : a.toNat = 0xED → b.toNat ≤ 0x9F) : ∃ x, String.utf8EncodeChar x = [a, b, c] := by
  obtain ⟨x, code⟩ := exists_char
    (n := (a.toNat - 0xE0) * 4096 + (b.toNat - 0x80) * 64 + (c.toNat - 0x80)) (by omega)
  refine ⟨x, ?_⟩
  unfold String.utf8EncodeChar
  dsimp only
  rw [code, if_neg (by omega), if_neg (by omega), if_pos (by omega)]
  simp only [List.cons.injEq, and_true]
  exact ⟨ofNat_eq (by omega), ofNat_eq (by omega), ofNat_eq (by omega)⟩

/-- Four bytes, of which the second one keeps off what is too long and too large. -/
theorem exists_of_four (first : 0xF0 ≤ a.toNat ∧ a.toNat ≤ 0xF4)
    (second : 0x80 ≤ b.toNat ∧ b.toNat ≤ 0xBF) (third : 0x80 ≤ c.toNat ∧ c.toNat ≤ 0xBF)
    (fourth : 0x80 ≤ d.toNat ∧ d.toNat ≤ 0xBF) (needed : a.toNat = 0xF0 → 0x90 ≤ b.toNat)
    (scalar : a.toNat = 0xF4 → b.toNat ≤ 0x8F) : ∃ x, String.utf8EncodeChar x = [a, b, c, d] := by
  obtain ⟨x, code⟩ := exists_char
    (n := (a.toNat - 0xF0) * 262144 + (b.toNat - 0x80) * 4096 + (c.toNat - 0x80) * 64 +
      (d.toNat - 0x80)) (by omega)
  refine ⟨x, ?_⟩
  unfold String.utf8EncodeChar
  dsimp only
  rw [code, if_neg (by omega), if_neg (by omega), if_neg (by omega)]
  simp only [List.cons.injEq, and_true]
  exact ⟨ofNat_eq (by omega), ofNat_eq (by omega), ofNat_eq (by omega), ofNat_eq (by omega)⟩

theorem IsSequence.exists_char (sequence : IsSequence bytes) :
    ∃ x, String.utf8EncodeChar x = bytes := by
  obtain ⟨row, member, fits⟩ := sequence
  simp only [rows, List.mem_cons, List.not_mem_nil, or_false] at member
  rcases member with rfl | rfl | rfl | rfl | rfl | rfl | rfl | rfl | rfl
  · rcases fits with _ | ⟨first, ⟨⟩⟩
    exact exists_of_one first.2
  · rcases fits with _ | ⟨first, _ | ⟨second, ⟨⟩⟩⟩
    exact exists_of_two first second
  iterate 4
    rcases fits with _ | ⟨first, _ | ⟨second, _ | ⟨third, ⟨⟩⟩⟩⟩
    simp only [Within, tail] at first second
    exact exists_of_three (by omega) (by omega) third (by omega) (by omega)
  iterate 3
    rcases fits with _ | ⟨first, _ | ⟨second, _ | ⟨third, _ | ⟨fourth, ⟨⟩⟩⟩⟩⟩
    simp only [Within, tail] at first second
    exact exists_of_four (by omega) (by omega) third fourth (by omega) (by omega)

/-! ## Texts -/

theorem wellFormed_utf8Encode (chars : List Char) :
    WellFormed (chars.flatMap String.utf8EncodeChar) := by
  induction chars with
  | nil => exact .nil
  | cons c rest ih => exact .append (isSequence_utf8EncodeChar c) ih

theorem WellFormed.exists_chars (wellFormed : WellFormed bytes) :
    ∃ chars : List Char, chars.flatMap String.utf8EncodeChar = bytes := by
  induction wellFormed with
  | nil => exact ⟨[], rfl⟩
  | append sequence _ ih =>
    obtain ⟨x, encoded⟩ := sequence.exists_char
    obtain ⟨chars, others⟩ := ih
    refine ⟨x :: chars, ?_⟩
    rw [List.flatMap_cons, encoded, others]

/-- **Bytes are those of a text if and only if they are well-formed.** -/
theorem isValidUTF8_iff_wellFormed (content : ByteArray) :
    content.IsValidUTF8 ↔ WellFormed content.data.toList := by
  constructor
  · rintro ⟨chars, rfl⟩
    rw [List.utf8Encode, List.toList_data_toByteArray]
    exact wellFormed_utf8Encode chars
  · intro wellFormed
    obtain ⟨chars, encoded⟩ := wellFormed.exists_chars
    refine ⟨chars, ?_⟩
    rw [List.utf8Encode, encoded]
    apply ByteArray.ext
    rw [List.data_toByteArray, Array.toArray_toList]

instance (bytes : List UInt8) : Decidable (WellFormed bytes) :=
  decidable_of_iff bytes.toByteArray.IsValidUTF8 <| by
    rw [isValidUTF8_iff_wellFormed, List.toList_data_toByteArray]

/-- Too long, a surrogate, behind the last character, and cut off. -/
example : ∀ bytes ∈ [[0xC0, 0x80], [0xED, 0xA0, 0x80], [0xF4, 0x90, 0x80, 0x80], [0xE2, 0x82]],
    ¬ WellFormed bytes := by decide +kernel

end Emend.Utf8
