import Emend.Json.Printer
import Emend.Json.Reader
import Emend.Proofs.Checks
import Mathlib.Data.List.Basic

/-!
# Reading scalars that were printed

A string, a word, and a whole number within its bounds are read as what they were printed for. A
number is read up to a character that can not belong to it.
-/

namespace Emend.Json

/-! ## Strings -/

/-- The two digits of a control character stand for it. -/
theorem unitOf?_control : ∀ code < 0x20,
    unitOf? '0' '0' (Nat.digitChar (code / 16)) (Nat.digitChar (code % 16)) = some code ∧
      isTrailing code = false ∧ isLeading code = false := by decide

theorem readEscape_letter {letter c : Char} (plain : letter ≠ 'u')
    (found : letterEscapes.lookup letter = some c) (text : List Char) :
    readEscape (letter :: text) = .ok (c, text) := by
  rw [readEscape, if_neg plain, found]

theorem readEscape_control {c : Char} (control : c.toNat < 0x20) (text : List Char) :
    readEscape ('u' :: '0' :: '0' :: Nat.digitChar (c.toNat / 16) ::
      Nat.digitChar (c.toNat % 16) :: text) = .ok (c, text) := by
  obtain ⟨unit, trailing, leading⟩ := unitOf?_control c.toNat control
  rw [readEscape, if_pos rfl]
  unfold readUnits readUnit
  dsimp only
  rw [unit, Option.map_some, ok_bind]
  dsimp only
  rw [trailing, leading]
  exact congrArg (fun char => Except.ok (char, text)) (Char.ofNat_toNat c)

theorem readChars_escape {escape text : List Char} {c : Char}
    (read : readEscape escape = .ok (c, text)) (fuel : Nat) :
    readChars (fuel + 1) ('\\' :: escape) =
      readChars fuel text >>= fun (chars, rest) => return (c :: chars, rest) := by
  rw [readChars, if_neg (by decide), if_pos rfl, read]
  rfl

/-- A character is printed as an escape by a letter, as one by its number, or as itself. -/
theorem escaped_cases (c : Char) :
    (∃ letter, letter ≠ 'u' ∧ letterEscapes.lookup letter = some c ∧ escaped c = ['\\', letter]) ∨
    (c.toNat < 0x20 ∧ escaped c = ['\\', 'u', '0', '0', Nat.digitChar (c.toNat / 16),
      Nat.digitChar (c.toNat % 16)]) ∨
    (c ≠ '"' ∧ c ≠ '\\' ∧ isControl c = false ∧ escaped c = [c]) := by
  generalize same : escaped c = text
  unfold escaped at same
  split_ifs at same with quote backslash backspace formFeed lineFeed return' tab control
  · exact .inl ⟨'"', by decide, by rw [quote]; decide, same.symm⟩
  · exact .inl ⟨'\\', by decide, by rw [backslash]; decide, same.symm⟩
  · exact .inl ⟨'b', by decide, by rw [backspace]; decide, same.symm⟩
  · exact .inl ⟨'f', by decide, by rw [formFeed]; decide, same.symm⟩
  · exact .inl ⟨'n', by decide, by rw [lineFeed]; decide, same.symm⟩
  · exact .inl ⟨'r', by decide, by rw [return']; decide, same.symm⟩
  · exact .inl ⟨'t', by decide, by rw [tab]; decide, same.symm⟩
  · exact .inr (.inl ⟨control, same.symm⟩)
  · exact .inr (.inr ⟨quote, backslash, decide_eq_false control, same.symm⟩)

/-- One character that was printed is read in one step. -/
theorem readChars_escaped (c : Char) (text : List Char) (fuel : Nat) :
    readChars (fuel + 1) (escaped c ++ text) =
      readChars fuel text >>= fun (chars, rest) => return (c :: chars, rest) := by
  rcases escaped_cases c with ⟨letter, plain, found, same⟩ | ⟨control, same⟩ |
    ⟨quote, backslash, shown, same⟩
  · rw [same]
    exact readChars_escape (readEscape_letter plain found text) fuel
  · rw [same]
    exact readChars_escape (readEscape_control control text) fuel
  · rw [same, List.singleton_append, readChars, if_neg quote, if_neg backslash,
      if_neg (by simp [shown])]

theorem readChars_flatMap_escaped (chars rest : List Char) {fuel : Nat}
    (fits : chars.length < fuel) :
    readChars fuel (chars.flatMap escaped ++ '"' :: rest) = .ok (chars, rest) := by
  induction chars generalizing fuel with
  | nil =>
    obtain ⟨fuel, rfl⟩ := Nat.exists_eq_add_one_of_ne_zero (Nat.ne_zero_of_lt fits)
    rfl
  | cons c chars ih =>
    obtain ⟨fuel, rfl⟩ := Nat.exists_eq_add_one_of_ne_zero (Nat.ne_zero_of_lt fits)
    rw [List.flatMap_cons, List.append_assoc, readChars_escaped, ih (Nat.lt_of_succ_lt_succ fits)]
    rfl

/-- No text is shorter when it is printed. -/
theorem length_le_length_flatMap_escaped (chars : List Char) :
    chars.length ≤ (chars.flatMap escaped).length := by
  induction chars with
  | nil => simp
  | cons c chars ih =>
    have some : 0 < (escaped c).length := by
      rcases escaped_cases c with ⟨letter, -, -, same⟩ | ⟨-, same⟩ | ⟨-, -, -, same⟩ <;> simp [same]
    rw [List.flatMap_cons, List.length_append, List.length_cons]
    omega

theorem readString_stringText (value : String) (rest : List Char) {fuel : Nat}
    (fits : (stringText value ++ rest).length < fuel) :
    readString fuel (value.toList.flatMap escaped ++ '"' :: rest) = .ok (value, rest) := by
  have shorter := length_le_length_flatMap_escaped value.toList
  have enough : value.toList.length < fuel := by
    simp only [stringText, List.length_append, List.length_cons, List.length_nil] at fits
    omega
  unfold readString
  rw [readChars_flatMap_escaped value.toList rest enough, ok_bind]
  dsimp only
  rw [String.ofList_toList]
  rfl

/-! ## Numbers -/

inductive Number.IsWhole : Number → Prop where
  | natural {value : Nat} (fits : value < wordBound) : IsWhole (.natural value)
  | negative {magnitude : Nat} (some : 0 < magnitude) (fits : magnitude ≤ negativeBound) :
      IsWhole (.negative magnitude)

/-- A text in front of which a number ends. -/
def Apart (rest : List Char) : Prop :=
  ∀ c ∈ rest.head?, c.isDigit = false ∧ c ≠ '.' ∧ c ≠ 'e' ∧ c ≠ 'E'

theorem le_ofDigitChars (digits : List Char) (value : Nat) :
    value ≤ Nat.ofDigitChars 10 digits value := by
  induction digits generalizing value with
  | nil => exact Nat.le_refl _
  | cons c digits ih =>
    rw [Nat.ofDigitChars_cons]
    have later := ih (10 * value + (c.toNat - '0'.toNat))
    omega

/-- Digits are read up to something else, if they stay within the bound. -/
theorem readDigits_append {bound value taken : Nat} {digits rest : List Char}
    (all : ∀ c ∈ digits, c.isDigit = true) (fits : Nat.ofDigitChars 10 digits value < bound)
    (apart : Apart rest) :
    readDigits bound value taken (digits ++ rest) =
      ⟨Nat.ofDigitChars 10 digits value, taken + digits.length, 0, rest⟩ := by
  induction digits generalizing value taken with
  | nil =>
    cases rest with
    | nil => rfl
    | cons c rest =>
      have other := (apart c rfl).1
      rw [List.nil_append, readDigits, if_neg (by simp [other])]
      rfl
  | cons c digits ih =>
    obtain ⟨digit, digits_all⟩ := List.forall_mem_cons.mp all
    rw [Nat.ofDigitChars_cons] at fits
    have value_eq : value * 10 + digitValue c = 10 * value + (c.toNat - '0'.toNat) := by
      rw [Nat.mul_comm]
      rfl
    have below : 10 * value + (c.toNat - '0'.toNat) < bound :=
      Nat.lt_of_le_of_lt (le_ofDigitChars digits _) fits
    rw [List.cons_append, readDigits, if_pos digit]
    dsimp only
    rw [value_eq, if_pos below, ih digits_all fits, List.length_cons, Nat.ofDigitChars_cons]
    congr 1
    omega

theorem eq_zero_of_toDigits {value : Nat} {digits : List Char}
    (begins : Nat.toDigits 10 value = '0' :: digits) : value = 0 := by
  induction value using Nat.strongRecOn generalizing digits with
  | ind value ih =>
    rw [Nat.toDigits_eq_if (by decide)] at begins
    split_ifs at begins with small
    · have all : ∀ digit < 10, Nat.digitChar digit = '0' → digit = 0 := by decide
      exact all value small (List.head_eq_of_cons_eq begins)
    · obtain ⟨front, tail, front_eq⟩ := List.exists_cons_of_ne_nil
        (Nat.toDigits_ne_nil (n := value / 10) (b := 10))
      rw [front_eq, List.cons_append] at begins
      cases List.head_eq_of_cons_eq begins
      have zero := ih (value / 10) (by omega) front_eq
      omega

/-- A number ends in front of what stands apart from it. -/
theorem readAfterWhole_of_apart (isNegative : Bool) {value taken : Nat} {rest : List Char}
    (apart : Apart rest) :
    readAfterWhole isNegative ⟨value, taken, 0, rest⟩ = readWhole isNegative value rest := by
  unfold readAfterWhole
  dsimp only
  split
  · exact absurd rfl (apart '.' rfl).2.1
  · exact absurd rfl (apart 'e' rfl).2.2.1
  · exact absurd rfl (apart 'E' rfl).2.2.2
  · rfl

/-- The digits of a number are read as it. -/
theorem readNumber_toDigits (isNegative : Bool) {value : Nat} {rest : List Char}
    (fits : value < wordBound) (apart : Apart rest) :
    readNumber isNegative (Nat.toDigits 10 value ++ rest) = readWhole isNegative value rest := by
  have all : ∀ c ∈ Nat.toDigits 10 value, c.isDigit = true :=
    fun _ member => Nat.isDigit_of_mem_toDigits (by decide) (by decide) member
  have value_eq : Nat.ofDigitChars 10 (Nat.toDigits 10 value) 0 = value :=
    Nat.ofDigitChars_toDigits (by decide) (by decide)
  obtain ⟨c, digits, digits_eq⟩ := List.exists_cons_of_ne_nil
    (Nat.toDigits_ne_nil (n := value) (b := 10))
  by_cases zero : c = '0'
  · subst zero
    have nothing := eq_zero_of_toDigits digits_eq
    subst nothing
    rw [Nat.toDigits_zero, List.cons_append, List.nil_append, readNumber.eq_def]
    dsimp only
    rw [if_pos rfl]
    cases rest with
    | nil => exact readAfterWhole_of_apart isNegative apart
    | cons next rest =>
      have other := (apart next rfl).1
      dsimp only
      rw [if_neg (by simp [other])]
      exact readAfterWhole_of_apart isNegative apart
  · rw [digits_eq] at all value_eq ⊢
    obtain ⟨digit, digits_all⟩ := List.forall_mem_cons.mp all
    have first : 10 * 0 + (c.toNat - '0'.toNat) = digitValue c := Nat.zero_add _
    rw [Nat.ofDigitChars_cons, first] at value_eq
    rw [List.cons_append, readNumber.eq_def]
    dsimp only
    rw [if_neg zero, if_pos digit, readDigits_append digits_all (value_eq.symm ▸ fits) apart,
      value_eq]
    exact readAfterWhole_of_apart isNegative apart

/-! ## Scalars -/

/-- How a value is spelled that is no list and no object. -/
inductive SpellsScalar : Json → List Char → Prop where
  | null : SpellsScalar .null ['n', 'u', 'l', 'l']
  | yes : SpellsScalar (.bool true) ['t', 'r', 'u', 'e']
  | no : SpellsScalar (.bool false) ['f', 'a', 'l', 's', 'e']
  | number {value : Number} (whole : value.IsWhole) : SpellsScalar (.number value) value.text
  | string (value : String) : SpellsScalar (.string value) (stringText value)

abbrev BeginsScalar (c : Char) : Prop :=
  isBlank c = false ∧ c ≠ ']' ∧ c ≠ '[' ∧ c ≠ '{'

theorem beginsScalar_of_isDigit {c : Char} (digit : c.isDigit = true) : BeginsScalar c := by
  have other (d : Char) (plain : d.isDigit = false) : c ≠ d := by
    rintro rfl
    cases plain.symm.trans digit
  have shown : isBlank c = false := by
    simp [isBlank, other ' ' (by decide), other '\n' (by decide), other '\t' (by decide),
      other '\r' (by decide)]
  exact ⟨shown, other ']' (by decide), other '[' (by decide), other '{' (by decide)⟩

/-- A scalar is read by its first character. -/
theorem SpellsScalar.exists_read {value : Json} {text : List Char}
    (spells : SpellsScalar value text) :
    ∃ c behind, text = c :: behind ∧ BeginsScalar c ∧
      ∀ {fuel : Nat} {rest : List Char}, (text ++ rest).length < fuel → Apart rest →
        readScalar fuel c (behind ++ rest) = .ok (value, rest) := by
  cases spells with
  | null =>
    refine ⟨'n', ['u', 'l', 'l'], rfl, by decide, ?_⟩
    intro fuel rest _ _
    rfl
  | yes =>
    refine ⟨'t', ['r', 'u', 'e'], rfl, by decide, ?_⟩
    intro fuel rest _ _
    rfl
  | no =>
    refine ⟨'f', ['a', 'l', 's', 'e'], rfl, by decide, ?_⟩
    intro fuel rest _ _
    rfl
  | string value =>
    refine ⟨'"', value.toList.flatMap escaped ++ ['"'], rfl, by decide, ?_⟩
    intro fuel rest fits _
    rw [readScalar, if_pos rfl, List.append_assoc, List.singleton_append,
      readString_stringText value rest fits]
    rfl
  | number whole =>
    cases whole with
    | @natural value fits =>
      obtain ⟨c, digits, digits_eq⟩ := List.exists_cons_of_ne_nil
        (Nat.toDigits_ne_nil (n := value) (b := 10))
      have digit : c.isDigit = true := by
        apply Nat.isDigit_of_mem_toDigits (b := 10) (n := value) (by decide) (by decide)
        rw [digits_eq]
        exact List.mem_cons_self ..
      refine ⟨c, digits, digits_eq, beginsScalar_of_isDigit digit, ?_⟩
      intro fuel rest _ apart
      have quote : c ≠ '"' := by
        rintro rfl
        cases digit
      have minus : c ≠ '-' := by
        rintro rfl
        cases digit
      rw [readScalar, if_neg quote, if_neg minus, if_pos digit, ← List.cons_append, ← digits_eq,
        readNumber_toDigits false fits apart]
      rfl
    | @negative magnitude some fits =>
      refine ⟨'-', Nat.toDigits 10 magnitude, rfl, by decide, ?_⟩
      intro fuel rest _ apart
      have below : magnitude < wordBound := Nat.lt_of_le_of_lt fits (by decide)
      have inside : (0 < magnitude && magnitude ≤ negativeBound) = true := by
        simp [some, fits]
      rw [readScalar, if_neg (by decide), if_pos rfl, readNumber_toDigits true below apart,
        readWhole, if_neg (by decide), if_pos inside]
      rfl

end Emend.Json
