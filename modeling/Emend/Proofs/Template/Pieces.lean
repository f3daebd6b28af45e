import Emend.Proofs.Template.Grammar

/-!
# Reading pieces

A piece is read exactly where the grammar has one, and the same rest is left. So a text splits into
pieces in one way at most. The cases follow the reader: first what it reads is in the grammar, then
each case of the grammar is read.
-/

namespace Emend.Template

/-! ## Digits -/

theorem digitsValue_eq (base : Nat) (digits : List Char) :
    digitsValue base digits = Nat.ofDigitChars base digits 0 := by
  unfold digitsValue Nat.ofDigitChars
  simp only [Nat.mul_comm]

/-- A zero in front makes no difference to a code. -/
theorem digitsValue_zero_cons (digits : List Char) :
    digitsValue 8 ('0' :: digits) = octalCode digits := by
  rw [digitsValue_eq]
  rfl

theorem isOctal_iff {c : Char} : isOctal c = true ↔ 48 ≤ c.toNat ∧ c.toNat ≤ 55 := by
  simp only [isOctal, Bool.and_eq_true, decide_eq_true_eq, Char.le_def, UInt32.le_iff_toNat_le]
  rfl

theorem isDigit_iff {c : Char} : c.isDigit = true ↔ 48 ≤ c.toNat ∧ c.toNat ≤ 57 := by
  simp only [Char.isDigit, Bool.and_eq_true, decide_eq_true_eq, ge_iff_le,
    UInt32.le_iff_toNat_le]
  rfl

theorem isDigit_of_isOctal {c : Char} (octal : isOctal c = true) : c.isDigit = true := by
  have range := isOctal_iff.mp octal
  exact isDigit_iff.mpr (by omega)

theorem octalCode_le {digits : List Char} (short : digits.length ≤ 2)
    (octal : ∀ digit ∈ digits, isOctal digit = true) : octalCode digits ≤ maxOctal := by
  have small : ∀ digit ∈ digits, digit.toNat - 48 ≤ 7 := by
    intro digit member
    have range := isOctal_iff.mp (octal digit member)
    omega
  match digits with
  | [] => decide
  | [first] =>
    have one := small first (by simp)
    change 8 * 0 + (first.toNat - 48) ≤ 255
    omega
  | [first, second] =>
    have one := small first (by simp)
    have two := small second (by simp)
    change 8 * (8 * 0 + (first.toNat - 48)) + (second.toNat - 48) ≤ 255
    omega
  | _ :: _ :: _ :: _ => simp at short

/-! ## Pieces that are read -/

variable {text : List Char} {piece : Piece} {rest : List Char}

/-- A piece was read, and a rest is left. -/
def Gives {text : List Char} (result : PieceOf text) (piece : Piece) (rest : List Char) : Prop :=
  ∃ within, result = .ok (piece, ⟨rest, within⟩)

theorem gives_ok_iff {other : Piece} {left : Rest text} :
    Gives (.ok (other, left)) piece rest ↔ other = piece ∧ left.1 = rest := by
  constructor
  · rintro ⟨within, same⟩
    cases same
    exact ⟨rfl, rfl⟩
  · rintro ⟨rfl, rfl⟩
    exact ⟨left.2, rfl⟩

theorem not_gives_error {fault : Fault} : ¬ Gives (.error fault : PieceOf text) piece rest := by
  rintro ⟨_, clash⟩
  cases clash

theorem gives_octalPiece_iff {digits : List Char} {left : Rest text} :
    Gives (octalPiece digits left) piece rest ↔
      digitsValue 8 digits ≤ maxOctal ∧ .text [Char.ofNat (digitsValue 8 digits)] = piece ∧
        left.1 = rest := by
  unfold octalPiece
  dsimp only
  split
  · rename_i small
    rw [gives_ok_iff]
    exact ⟨fun same => ⟨small, same⟩, And.right⟩
  · rename_i large
    exact ⟨fun clash => absurd clash not_gives_error, fun small => absurd small.1 large⟩

theorem gives_map_iff {c : Char} {result : PieceOf text} :
    Gives (result.map fun (piece, rest) => (piece, ⟨rest, Nat.le_succ_of_le rest.2⟩) :
        PieceOf (c :: text)) piece rest ↔ Gives result piece rest := by
  cases result with
  | error fault =>
    constructor
    · exact fun clash => absurd clash not_gives_error
    · exact fun clash => absurd clash not_gives_error
  | ok pair =>
    have unchanged : Gives (.ok pair) piece rest ↔ pair.1 = piece ∧ pair.2.1 = rest := gives_ok_iff
    exact gives_ok_iff.trans unchanged.symm

/-! ## What is read is in the grammar -/

theorem reads_of_zeroCode {digits : List Char} {left : Rest text}
    (gives : Gives (octalPiece ('0' :: digits) left) piece rest) (split : text = digits ++ left)
    (octal : ∀ digit ∈ digits, isOctal digit = true)
    (greedy : digits.length = 2 ∨ digits.length < 2 ∧ goesOn isOctal left = false) :
    Reads ('\\' :: '0' :: text) piece rest := by
  obtain ⟨-, rfl, rfl⟩ := gives_octalPiece_iff.mp gives
  rw [digitsValue_zero_cons]
  have whole := Reads.zero octal greedy
  rwa [← split] at whole

theorem reads_of_zeroPiece (gives : Gives (zeroPiece text) piece rest) :
    Reads ('\\' :: '0' :: text) piece rest := by
  unfold zeroPiece at gives
  split at gives
  · rename_i first second tail
    split at gives
    · rename_i one
      split at gives
      · rename_i two
        exact reads_of_zeroCode gives rfl (by simp [one, two]) (.inl rfl)
      · rename_i other
        exact reads_of_zeroCode gives rfl (by simp [one]) (.inr (by simpa [goesOn] using other))
    · rename_i other
      exact reads_of_zeroCode gives rfl (by simp) (.inr (by simpa [goesOn] using other))
  · rename_i first
    split at gives
    · rename_i one
      exact reads_of_zeroCode gives rfl (by simp [one]) (.inr (by simp [goesOn]))
    · rename_i other
      exact reads_of_zeroCode gives rfl (by simp) (.inr (by simpa [goesOn] using other))
  · exact reads_of_zeroCode gives rfl (by simp) (.inr (by simp [goesOn]))

theorem reads_of_digitPiece {digit : Char} (nonzero : digit ≠ '0') (isDigit : digit.isDigit = true)
    (gives : Gives (digitPiece digit text) piece rest) :
    Reads ('\\' :: digit :: text) piece rest := by
  unfold digitPiece at gives
  split at gives
  · rename_i first second tail
    split at gives
    · rename_i one
      split at gives
      · rename_i code
        obtain ⟨small, rfl, rfl⟩ := gives_octalPiece_iff.mp gives
        rw [digitsValue_eq] at small ⊢
        exact .octal nonzero (by simpa [and_assoc] using code) small
      · rename_i noCode
        obtain ⟨rfl, rfl⟩ := gives_ok_iff.mp gives
        exact .twoDigits nonzero ⟨isDigit, one⟩ (by simpa [goesOn, and_assoc] using noCode)
    · rename_i other
      obtain ⟨rfl, rfl⟩ := gives_ok_iff.mp gives
      exact .oneDigit nonzero isDigit (by simpa [goesOn] using other)
  · rename_i first
    split at gives
    · rename_i one
      obtain ⟨rfl, rfl⟩ := gives_ok_iff.mp gives
      exact .twoDigits nonzero ⟨isDigit, one⟩ (by simp [goesOn])
    · rename_i other
      obtain ⟨rfl, rfl⟩ := gives_ok_iff.mp gives
      exact .oneDigit nonzero isDigit (by simpa [goesOn] using other)
  · obtain ⟨rfl, rfl⟩ := gives_ok_iff.mp gives
    exact .oneDigit nonzero isDigit (by simp [goesOn])

theorem splitAngle?_eq_some_iff {name : List Char} :
    (∃ within, splitAngle? text = some (name, ⟨rest, within⟩)) ↔
      text = name ++ '>' :: rest ∧ '>' ∉ name := by
  induction text generalizing name with
  | nil => simp [splitAngle?]
  | cons c text ih =>
    unfold splitAngle?
    by_cases shut : c = '>'
    · rw [if_pos shut, shut]
      constructor
      · rintro ⟨_, found⟩
        cases found
        exact ⟨rfl, List.not_mem_nil⟩
      · rintro ⟨whole, unshut⟩
        cases name with
        | nil =>
          cases whole
          exact ⟨Nat.le_succ _, rfl⟩
        | cons first name =>
          cases whole
          exact absurd (List.mem_cons_self ..) unshut
    · rw [if_neg shut]
      constructor
      · rintro ⟨_, found⟩
        obtain ⟨⟨behind, left⟩, later, same⟩ := Option.map_eq_some_iff.mp found
        cases same
        obtain ⟨whole, unshut⟩ := ih.mp ⟨_, later⟩
        exact ⟨congrArg (c :: ·) whole, List.not_mem_cons_of_ne_of_not_mem (Ne.symm shut) unshut⟩
      · rintro ⟨whole, unshut⟩
        cases name with
        | nil =>
          cases whole
          exact absurd rfl shut
        | cons first name =>
          obtain ⟨rfl, behind⟩ := List.cons.inj whole
          obtain ⟨within, found⟩ := ih.mpr ⟨behind, List.not_mem_of_not_mem_cons unshut⟩
          rw [found]
          exact ⟨Nat.le_succ_of_le within, rfl⟩

theorem reads_of_namePiece (gives : Gives (namePiece text) piece rest) :
    Reads ('\\' :: 'g' :: text) piece rest := by
  unfold namePiece at gives
  split at gives
  · rename_i tail
    split at gives
    · rename_i name left split
      obtain ⟨rfl, rfl⟩ := gives_ok_iff.mp gives
      obtain ⟨same, shut⟩ := splitAngle?_eq_some_iff.mp ⟨_, split⟩
      have whole : Reads ('\\' :: 'g' :: '<' :: (name ++ '>' :: left.1)) (.reference name) left.1 :=
        .named shut
      rwa [← same] at whole
    · exact absurd gives not_gives_error
  · exact absurd gives not_gives_error

theorem mem_controls_of_controlOf? {letter control : Char}
    (known : controlOf? letter = some control) : (letter, control) ∈ controls := by
  unfold controlOf? at known
  split at known
  all_goals cases known
  all_goals decide

theorem reads_of_escapePiece (gives : Gives (escapePiece text) piece rest) :
    Reads ('\\' :: text) piece rest := by
  unfold escapePiece at gives
  split at gives
  · exact absurd gives not_gives_error
  · rename_i c tail
    dsimp only at gives
    split at gives
    · rename_i backslash
      cases backslash
      obtain ⟨rfl, rfl⟩ := gives_ok_iff.mp gives
      exact .backslash
    · rename_i other
      split at gives
      · rename_i zero
        cases zero
        exact reads_of_zeroPiece (gives_map_iff.mp gives)
      · rename_i nonzero
        split at gives
        · rename_i isDigit
          exact reads_of_digitPiece nonzero isDigit (gives_map_iff.mp gives)
        · rename_i noDigit
          split at gives
          · rename_i announces
            cases announces
            exact reads_of_namePiece (gives_map_iff.mp gives)
          · split at gives
            · rename_i control known
              obtain ⟨rfl, rfl⟩ := gives_ok_iff.mp gives
              exact .control (mem_controls_of_controlOf? known)
            · split at gives
              · exact absurd gives not_gives_error
              · rename_i noLetter
                obtain ⟨rfl, rfl⟩ := gives_ok_iff.mp gives
                exact .kept other (by simpa using noLetter) (by simpa using noDigit)

theorem reads_of_readPiece {c : Char} (gives : Gives (readPiece c text) piece rest) :
    Reads (c :: text) piece rest := by
  unfold readPiece at gives
  split at gives
  · rename_i backslash
    cases backslash
    exact reads_of_escapePiece gives
  · rename_i other
    obtain ⟨rfl, rfl⟩ := gives_ok_iff.mp gives
    exact .plain other

/-! ## What is in the grammar is read -/

theorem gives_zeroPiece {digits : List Char} (octal : ∀ digit ∈ digits, isOctal digit = true)
    (greedy : digits.length = 2 ∨ digits.length < 2 ∧ goesOn isOctal rest = false) :
    Gives (zeroPiece (digits ++ rest)) (.text [Char.ofNat (octalCode digits)]) rest := by
  have small : digitsValue 8 ('0' :: digits) ≤ maxOctal := by
    rw [digitsValue_zero_cons]
    exact octalCode_le (by omega) octal
  have code (left : Rest (digits ++ rest)) (left_eq : left.1 = rest) :
      Gives (octalPiece ('0' :: digits) left) (.text [Char.ofNat (octalCode digits)]) rest :=
    gives_octalPiece_iff.mpr ⟨small, by rw [digitsValue_zero_cons], left_eq⟩
  match digits with
  | [] =>
    have stops : goesOn isOctal rest = false := by simpa using greedy
    rcases rest with _ | ⟨first, _ | ⟨second, tail⟩⟩
    · exact code _ rfl
    · have other : isOctal first = false := by simpa [goesOn] using stops
      simp only [List.nil_append, zeroPiece, other]
      exact code _ rfl
    · have other : isOctal first = false := by simpa [goesOn] using stops
      simp only [List.nil_append, zeroPiece, other]
      exact code _ rfl
  | [first] =>
    have stops : goesOn isOctal rest = false := by simpa using greedy
    have one : isOctal first = true := octal first (by simp)
    rcases rest with _ | ⟨second, tail⟩
    · simp only [List.cons_append, List.nil_append, zeroPiece, one]
      exact code _ rfl
    · have other : isOctal second = false := by simpa [goesOn] using stops
      simp only [List.cons_append, List.nil_append, zeroPiece, one, other]
      exact code _ rfl
  | [first, second] =>
    have one : isOctal first = true := octal first (by simp)
    have two : isOctal second = true := octal second (by simp)
    simp only [List.cons_append, List.nil_append, zeroPiece, one, two]
    exact code _ rfl
  | _ :: _ :: _ :: _ =>
    simp only [List.length_cons] at greedy
    omega

theorem gives_digitPiece_octal {first second third : Char} {rest : List Char}
    (octal : ∀ digit ∈ [first, second, third], isOctal digit = true)
    (small : octalCode [first, second, third] ≤ maxOctal) :
    Gives (digitPiece first (second :: third :: rest))
      (.text [Char.ofNat (octalCode [first, second, third])]) rest := by
  have one := octal first (by simp)
  have two := octal second (by simp)
  have three := octal third (by simp)
  have code := digitsValue_eq 8 [first, second, third]
  simp only [digitPiece, isDigit_of_isOctal two, one, two, three]
  exact gives_octalPiece_iff.mpr ⟨code ▸ small, by rw [code]; rfl, rfl⟩

theorem gives_digitPiece_two {first second : Char} (isDigit : second.isDigit = true)
    (noCode : ¬ (isOctal first = true ∧ isOctal second = true ∧ goesOn isOctal rest = true)) :
    Gives (digitPiece first (second :: rest)) (.reference [first, second]) rest := by
  cases rest with
  | nil =>
    simp only [digitPiece, isDigit]
    exact gives_ok_iff.mpr ⟨rfl, rfl⟩
  | cons third tail =>
    have other : (isOctal first && isOctal second && isOctal third) = false := by
      simpa [goesOn, and_assoc] using noCode
    simp only [digitPiece, isDigit, other]
    exact gives_ok_iff.mpr ⟨rfl, rfl⟩

theorem gives_digitPiece_one {digit : Char} (alone : goesOn Char.isDigit rest = false) :
    Gives (digitPiece digit rest) (.reference [digit]) rest := by
  rcases rest with _ | ⟨first, _ | ⟨second, tail⟩⟩
  · exact gives_ok_iff.mpr ⟨rfl, rfl⟩
  · have other : first.isDigit = false := by simpa [goesOn] using alone
    simp only [digitPiece, other]
    exact gives_ok_iff.mpr ⟨rfl, rfl⟩
  · have other : first.isDigit = false := by simpa [goesOn] using alone
    simp only [digitPiece, other]
    exact gives_ok_iff.mpr ⟨rfl, rfl⟩

theorem gives_namePiece {name : List Char} (shut : '>' ∉ name) :
    Gives (namePiece ('<' :: (name ++ '>' :: rest))) (.reference name) rest := by
  have split : name ++ '>' :: rest = name ++ '>' :: rest := rfl
  obtain ⟨within, found⟩ := splitAngle?_eq_some_iff.mpr ⟨split, shut⟩
  simp only [namePiece, found]
  exact gives_ok_iff.mpr ⟨rfl, rfl⟩

theorem gives_escapePiece_of_digitPiece {digit : Char} (nonzero : digit ≠ '0')
    (isDigit : digit.isDigit = true) (gives : Gives (digitPiece digit text) piece rest) :
    Gives (escapePiece (digit :: text)) piece rest := by
  have plain : digit ≠ '\\' := by
    rintro rfl
    cases isDigit
  unfold escapePiece
  dsimp only
  rw [if_neg plain, if_neg nonzero, if_pos isDigit]
  exact gives_map_iff.mpr gives

theorem gives_escapePiece_control {letter control : Char} {rest : List Char}
    (known : (letter, control) ∈ controls) :
    Gives (escapePiece (letter :: rest)) (.text [control]) rest := by
  simp only [controls, List.mem_cons, Prod.mk.injEq, List.not_mem_nil, or_false] at known
  rcases known with ⟨rfl, rfl⟩ | ⟨rfl, rfl⟩ | ⟨rfl, rfl⟩ | ⟨rfl, rfl⟩ | ⟨rfl, rfl⟩ |
    ⟨rfl, rfl⟩ | ⟨rfl, rfl⟩
  all_goals exact ⟨Nat.le_succ _, rfl⟩

theorem isAlpha_of_controlOf? {letter control : Char} (known : controlOf? letter = some control) :
    letter.isAlpha = true := by
  have letters : ∀ pair ∈ controls, pair.1.isAlpha = true := by decide
  exact letters _ (mem_controls_of_controlOf? known)

theorem gives_escapePiece_kept {c : Char} {rest : List Char} (other : c ≠ '\\')
    (noLetter : c.isAlpha = false) (noDigit : c.isDigit = false) :
    Gives (escapePiece (c :: rest)) (.text ['\\', c]) rest := by
  have nonzero : c ≠ '0' := by
    rintro rfl
    cases noDigit
  have silent : c ≠ 'g' := by
    rintro rfl
    cases noLetter
  have unknown : controlOf? c = none := by
    refine Option.eq_none_iff_forall_ne_some.mpr fun control known => ?_
    cases (isAlpha_of_controlOf? known).symm.trans noLetter
  unfold escapePiece
  dsimp only
  rw [if_neg other, if_neg nonzero, if_neg (by simp [noDigit]), if_neg silent, unknown]
  dsimp only
  rw [if_neg (by simp [noLetter])]
  exact gives_ok_iff.mpr ⟨rfl, rfl⟩

theorem Reads.gives (reads : Reads text piece rest) :
    ∃ c tail, text = c :: tail ∧ Gives (readPiece c tail) piece rest := by
  have escape {tail : List Char} (gives : Gives (escapePiece tail) piece rest) :
      Gives (readPiece '\\' tail) piece rest := gives
  cases reads with
  | plain other =>
    refine ⟨_, _, rfl, ?_⟩
    unfold readPiece
    rw [if_neg other]
    exact gives_ok_iff.mpr ⟨rfl, rfl⟩
  | backslash => exact ⟨_, _, rfl, Nat.le_succ_of_le (Nat.le_refl _), rfl⟩
  | control known => exact ⟨_, _, rfl, escape (gives_escapePiece_control known)⟩
  | zero octal greedy =>
    exact ⟨_, _, rfl, escape (gives_map_iff.mpr (gives_zeroPiece octal greedy))⟩
  | octal nonzero octal small =>
    have isDigit := isDigit_of_isOctal (octal _ (List.mem_cons_self ..))
    exact ⟨_, _, rfl, escape (gives_escapePiece_of_digitPiece nonzero isDigit
      (gives_digitPiece_octal octal small))⟩
  | twoDigits nonzero digits noCode =>
    exact ⟨_, _, rfl, escape (gives_escapePiece_of_digitPiece nonzero digits.1
      (gives_digitPiece_two digits.2 noCode))⟩
  | oneDigit nonzero isDigit alone =>
    exact ⟨_, _, rfl, escape (gives_escapePiece_of_digitPiece nonzero isDigit
      (gives_digitPiece_one alone))⟩
  | named shut =>
    exact ⟨_, _, rfl, escape (gives_map_iff.mpr (gives_namePiece shut))⟩
  | kept other noLetter noDigit =>
    exact ⟨_, _, rfl, escape (gives_escapePiece_kept other noLetter noDigit)⟩

/-! ## Splitting -/

theorem gives_readPiece_iff {c : Char} :
    Gives (readPiece c text) piece rest ↔ Reads (c :: text) piece rest := by
  constructor
  · exact reads_of_readPiece
  · intro reads
    obtain ⟨_, _, same, gives⟩ := reads.gives
    cases same
    exact gives

/-- A piece takes something of a text. -/
theorem Reads.length_lt (reads : Reads text piece rest) : rest.length < text.length := by
  obtain ⟨c, tail, rfl, within, -⟩ := reads.gives
  exact Nat.lt_succ_of_le within

theorem Reads.unique {other : Piece} {left : List Char} (reads : Reads text piece rest)
    (others : Reads text other left) : piece = other ∧ rest = left := by
  obtain ⟨c, tail, rfl, within, gives⟩ := reads.gives
  obtain ⟨_, gives'⟩ := gives_readPiece_iff.mpr others
  cases gives.symm.trans gives'
  exact ⟨rfl, rfl⟩

theorem Splits.unique {first second : List Piece} (splits : Splits text first)
    (others : Splits text second) : first = second := by
  induction splits generalizing second with
  | nil =>
    cases others with
    | nil => rfl
    | cons reads =>
      obtain ⟨_, _, clash, -⟩ := reads.gives
      cases clash
  | cons reads _ ih =>
    cases others with
    | nil =>
      obtain ⟨_, _, clash, -⟩ := reads.gives
      cases clash
    | cons reads' others' =>
      obtain ⟨rfl, rfl⟩ := reads.unique reads'
      rw [ih others']

end Emend.Template
