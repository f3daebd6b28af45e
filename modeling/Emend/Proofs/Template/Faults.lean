import Emend.Proofs.Template.Composition

/-!
# Faulty templates

A template is refused for its first piece that is faulty: an escape that is no piece, or a reference
to a group that is not there. The template up to that piece would be accepted, and an offset in the
fault is the number of bytes up to it. There is one such place in a template that is refused, and
none in one that is accepted.
-/

namespace Emend.Template

variable {text rest : List Char} {groupNames : List (Option String)} {offset : Nat} {fault : Fault}

/-! ## Faulty pieces -/

/-- A text begins with a backslash and with no piece; `offset` is where it begins. -/
inductive Misreads (offset : Nat) : (text : List Char) → Fault → Prop where
  | trailingBackslash : Misreads offset ['\\'] .trailingBackslash
  | angleExpected {rest : List Char} (other : rest.head? ≠ some '<') :
      Misreads offset ('\\' :: 'g' :: rest) (.angleExpected offset)
  /-- The angle that closes a name never comes. -/
  | unterminated {name : List Char} (unshut : '>' ∉ name) :
      Misreads offset ('\\' :: 'g' :: '<' :: name) (.unterminated name)
  | badEscape {letter : Char} {rest : List Char} (isAlpha : letter.isAlpha = true)
      (noName : letter ≠ 'g') (unknown : ∀ control, (letter, control) ∉ controls) :
      Misreads offset ('\\' :: letter :: rest) (.badEscape letter offset)
  | octalTooLarge {first second third : Char} {rest : List Char} (nonzero : first ≠ '0')
      (octal : ∀ digit ∈ [first, second, third], isOctal digit = true)
      (large : 0o377 < octalCode [first, second, third]) :
      Misreads offset ('\\' :: first :: second :: third :: rest)
        (.octalTooLarge [first, second, third] offset)

inductive Misrefers (groupNames : List (Option String)) : (name : List Char) → Fault → Prop where
  | empty : Misrefers groupNames [] .emptyReference
  | tooLarge {digits : List Char} (some : digits ≠ [])
      (isDigit : ∀ c ∈ digits, c.isDigit = true)
      (large : numberBound ≤ Nat.ofDigitChars 10 digits 0) :
      Misrefers groupNames digits (.invalidGroup digits)
  /-- The fault tells how many groups there are besides the whole match. -/
  | missing {digits : List Char} (some : digits ≠ []) (isDigit : ∀ c ∈ digits, c.isDigit = true)
      (bounded : Nat.ofDigitChars 10 digits 0 < numberBound)
      (beyond : groupNames.length ≤ Nat.ofDigitChars 10 digits 0) :
      Misrefers groupNames digits
        (.missingGroup (Nat.ofDigitChars 10 digits 0) (groupNames.length - 1))
  | unknown {name : List Char} (word : ∃ c ∈ name, c.isDigit = false)
      (missing : some (String.ofList name) ∉ groupNames) :
      Misrefers groupNames name (.unknownName name)

/-- A text begins with a faulty piece; `offset` is where it begins. -/
inductive Breaks (groupNames : List (Option String)) (offset : Nat) :
    (text : List Char) → Fault → Prop where
  | escape {text : List Char} {fault : Fault} (misreads : Misreads offset text fault) :
      Breaks groupNames offset text fault
  | reference {text name rest : List Char} {fault : Fault} (reads : Reads text (.reference name) rest)
      (misrefers : Misrefers groupNames name fault) : Breaks groupNames offset text fault

/-- A template is split where its first faulty piece begins. -/
structure SplitsAtFault (groupNames : List (Option String)) (template front back : String)
    (fault : Fault) : Prop where
  whole : template = front ++ back
  accepted : ∃ parsed, parse groupNames front = .ok parsed
  breaks : Breaks groupNames front.utf8ByteSize back.toList fault

/-! ## References -/

theorem findIdx?_eq_none_iff_named {name : String} :
    groupNames.findIdx? (· == some name) = none ↔ some name ∉ groupNames := by
  rw [List.findIdx?_eq_none_iff]
  constructor
  · intro other member
    simpa using other _ member
  · intro missing candidate member
    rw [beq_eq_false_iff_ne]
    rintro rfl
    exact missing member

theorem resolve_eq_error_iff {name : List Char} :
    resolve groupNames name = .error fault ↔ Misrefers groupNames name fault := by
  unfold resolve
  rw [digitsValue_eq]
  constructor
  · intro failed
    split at failed
    · rename_i empty
      cases failed
      rw [List.isEmpty_iff.mp empty]
      exact .empty
    · rename_i some
      have some : name ≠ [] := by simpa using some
      split at failed
      · rename_i digits
        have digits : ∀ c ∈ name, c.isDigit = true := by simpa using digits
        dsimp only at failed
        split at failed
        · rename_i large
          cases failed
          exact .tooLarge some digits large
        · rename_i bounded
          split at failed
          · cases failed
          · rename_i beyond
            cases failed
            exact .missing some digits (Nat.lt_of_not_le bounded) (Nat.le_of_not_lt beyond)
      · rename_i word
        split at failed
        · cases failed
        · rename_i missing
          cases failed
          exact .unknown (by simpa using word) (findIdx?_eq_none_iff_named.mp missing)
  · intro misrefers
    cases misrefers with
    | empty => rfl
    | tooLarge some digits large =>
      have all : name.all Char.isDigit = true := by simpa using digits
      rw [if_neg (by simpa using some), if_pos all]
      dsimp only
      rw [if_pos large]
    | missing some digits bounded beyond =>
      have all : name.all Char.isDigit = true := by simpa using digits
      rw [if_neg (by simpa using some), if_pos all]
      dsimp only
      rw [if_neg (Nat.not_le_of_lt bounded), if_neg (Nat.not_lt_of_le beyond)]
    | unknown word missing =>
      have some : ¬ name.isEmpty = true := by
        obtain ⟨c, member, -⟩ := word
        simp [List.ne_nil_of_mem member]
      have notAll : ¬ name.all Char.isDigit = true := by simpa using word
      rw [if_neg some, if_neg notAll, findIdx?_eq_none_iff_named.mpr missing]

theorem Misrefers.shift {name : List Char} (misrefers : Misrefers groupNames name fault)
    (bytes : Nat) : fault.shift bytes = fault := by
  cases misrefers <;> rfl

/-! ## Escapes -/

theorem splitAngle?_eq_none_iff : splitAngle? text = none ↔ '>' ∉ text := by
  constructor
  · intro missing member
    obtain ⟨name, rest, split, shut⟩ := List.eq_append_cons_of_mem member
    obtain ⟨_, found⟩ := splitAngle?_eq_some_iff.mpr ⟨split, shut⟩
    cases missing.symm.trans found
  · intro unshut
    refine Option.eq_none_iff_forall_ne_some.mpr ?_
    rintro ⟨name, rest, within⟩ found
    obtain ⟨split, -⟩ := splitAngle?_eq_some_iff.mp ⟨within, found⟩
    exact unshut (split ▸ List.mem_append_right _ (List.mem_cons_self ..))

theorem octalPiece_eq_error_iff {digits : List Char} {left : Rest text} :
    octalPiece digits left = .error fault ↔
      maxOctal < digitsValue 8 digits ∧ fault = .octalTooLarge digits 0 := by
  unfold octalPiece
  dsimp only
  split
  · rename_i small
    exact ⟨nofun, fun large => absurd large.1 (Nat.not_lt_of_le small)⟩
  · rename_i large
    constructor
    · intro same
      cases same
      exact ⟨Nat.lt_of_not_le large, rfl⟩
    · rintro ⟨-, rfl⟩
      rfl

theorem zeroPiece_ne_error : zeroPiece text ≠ .error fault := by
  have fits {digits : List Char} {left : Rest text} (short : digits.length ≤ 2)
      (octal : ∀ digit ∈ digits, isOctal digit = true) :
      octalPiece ('0' :: digits) left ≠ .error fault := by
    intro failed
    have large := (octalPiece_eq_error_iff.mp failed).1
    rw [digitsValue_zero_cons] at large
    exact Nat.not_lt_of_le (octalCode_le short octal) large
  unfold zeroPiece
  split
  · split
    · rename_i first
      split
      · rename_i second
        exact fits (by simp) (by simp [first, second])
      · exact fits (by simp) (by simp [first])
    · exact fits (by simp) (by simp)
  · split
    · rename_i first
      exact fits (by simp) (by simp [first])
    · exact fits (by simp) (by simp)
  · exact fits (by simp) (by simp)

theorem digitPiece_eq_error_iff {digit : Char} :
    digitPiece digit text = .error fault ↔
      ∃ first second rest, text = first :: second :: rest ∧
        (∀ c ∈ [digit, first, second], isOctal c = true) ∧
        maxOctal < octalCode [digit, first, second] ∧
        fault = .octalTooLarge [digit, first, second] 0 := by
  unfold digitPiece
  split
  · rename_i first second rest
    split
    · split
      · rename_i digits code
        have octal : ∀ c ∈ [digit, first, second], isOctal c = true := by
          simpa [and_assoc] using code
        rw [octalPiece_eq_error_iff, digitsValue_eq]
        constructor
        · rintro ⟨large, rfl⟩
          exact ⟨first, second, rest, rfl, octal, large, rfl⟩
        · rintro ⟨_, _, _, same, -, large, rfl⟩
          cases same
          exact ⟨large, rfl⟩
      · rename_i noCode
        refine ⟨nofun, ?_⟩
        rintro ⟨_, _, _, same, octal, -⟩
        cases same
        exact absurd (by simpa [and_assoc] using octal) noCode
    · rename_i noDigit
      refine ⟨nofun, ?_⟩
      rintro ⟨_, _, _, same, octal, -⟩
      cases same
      exact absurd (isDigit_of_isOctal (octal first (by simp))) noDigit
  · split <;> exact ⟨nofun, nofun⟩
  · exact ⟨nofun, nofun⟩

theorem namePiece_eq_error_iff :
    namePiece text = .error fault ↔
      (text.head? ≠ some '<' ∧ fault = .angleExpected 0) ∨
        ∃ name, text = '<' :: name ∧ '>' ∉ name ∧ fault = .unterminated name := by
  unfold namePiece
  split
  · rename_i name
    split
    · rename_i found
      refine ⟨nofun, ?_⟩
      rintro (⟨other, -⟩ | ⟨_, same, unshut, -⟩)
      · exact absurd rfl other
      · cases same
        cases found.symm.trans (splitAngle?_eq_none_iff.mpr unshut)
    · rename_i missing
      constructor
      · intro same
        cases same
        exact .inr ⟨name, rfl, splitAngle?_eq_none_iff.mp missing, rfl⟩
      · rintro (⟨other, -⟩ | ⟨_, same, -, rfl⟩)
        · exact absurd rfl other
        · cases same
          rfl
  · rename_i other
    constructor
    · intro same
      cases same
      refine .inl ⟨?_, rfl⟩
      intro begins
      obtain ⟨name, rfl⟩ := List.head?_eq_some_iff.mp begins
      exact other name rfl
    · rintro (⟨-, rfl⟩ | ⟨name, rfl, -⟩)
      · rfl
      · exact absurd rfl (other name)

theorem controlOf?_eq_none_iff {letter : Char} :
    controlOf? letter = none ↔ ∀ control, (letter, control) ∉ controls := by
  constructor
  · intro unknown control known
    simp only [controls, List.mem_cons, Prod.mk.injEq, List.not_mem_nil, or_false] at known
    rcases known with ⟨rfl, rfl⟩ | ⟨rfl, rfl⟩ | ⟨rfl, rfl⟩ | ⟨rfl, rfl⟩ | ⟨rfl, rfl⟩ |
      ⟨rfl, rfl⟩ | ⟨rfl, rfl⟩
    all_goals cases unknown
  · intro unknown
    refine Option.eq_none_iff_forall_ne_some.mpr fun control known => ?_
    exact unknown control (mem_controls_of_controlOf? known)

theorem not_isDigit_of_isAlpha {c : Char} (isAlpha : c.isAlpha = true) : ¬ c.isDigit = true := by
  rw [isDigit_iff]
  change (decide (c.val ≥ 65 ∧ c.val ≤ 90) ||
    decide (c.val ≥ 97) && decide (c.val ≤ 122)) = true at isAlpha
  simp only [Bool.or_eq_true, Bool.and_eq_true, decide_eq_true_eq, ge_iff_le,
    UInt32.le_iff_toNat_le] at isAlpha
  change (65 ≤ c.toNat ∧ c.toNat ≤ 90) ∨ (97 ≤ c.toNat ∧ c.toNat ≤ 122) at isAlpha
  omega

theorem misreads_of_escapePiece (failed : escapePiece text = .error fault) :
    Misreads 0 ('\\' :: text) fault := by
  unfold escapePiece at failed
  split at failed
  · cases failed
    exact .trailingBackslash
  · rename_i c tail
    dsimp only at failed
    split at failed
    · cases failed
    · split at failed
      · exact absurd (eq_error_of_map_eq_error failed) zeroPiece_ne_error
      · rename_i nonzero
        split at failed
        · obtain ⟨first, second, rest, rfl, octal, large, rfl⟩ :=
            digitPiece_eq_error_iff.mp (eq_error_of_map_eq_error failed)
          exact .octalTooLarge nonzero octal large
        · split at failed
          · rename_i announces
            cases announces
            rcases namePiece_eq_error_iff.mp (eq_error_of_map_eq_error failed) with
              ⟨other, rfl⟩ | ⟨name, rfl, unshut, rfl⟩
            · exact .angleExpected other
            · exact .unterminated unshut
          · rename_i noName
            split at failed
            · cases failed
            · rename_i unknown
              split at failed
              · rename_i isAlpha
                cases failed
                exact .badEscape isAlpha noName (controlOf?_eq_none_iff.mp unknown)
              · cases failed

theorem readPiece_eq_error_of_misreads (misreads : Misreads 0 text fault) :
    ∃ c tail, text = c :: tail ∧ readPiece c tail = .error fault := by
  cases misreads with
  | trailingBackslash => exact ⟨_, _, rfl, rfl⟩
  | @angleExpected rest other =>
    have failed := namePiece_eq_error_iff.mpr (.inl ⟨other, rfl⟩)
    refine ⟨_, _, rfl, ?_⟩
    change (namePiece rest).map _ = _
    rw [failed]
    rfl
  | @unterminated name unshut =>
    have failed := namePiece_eq_error_iff.mpr (.inr ⟨name, rfl, unshut, rfl⟩)
    refine ⟨_, _, rfl, ?_⟩
    change (namePiece ('<' :: name)).map _ = _
    rw [failed]
    rfl
  | @badEscape letter rest isAlpha noName unknown =>
    have plain : letter ≠ '\\' := by
      rintro rfl
      cases isAlpha
    have nonzero : letter ≠ '0' := by
      rintro rfl
      cases isAlpha
    refine ⟨_, _, rfl, ?_⟩
    change escapePiece (letter :: rest) = _
    unfold escapePiece
    dsimp only
    rw [if_neg plain, if_neg nonzero, if_neg (not_isDigit_of_isAlpha isAlpha), if_neg noName,
      controlOf?_eq_none_iff.mpr unknown]
    dsimp only
    rw [if_pos isAlpha]
  | @octalTooLarge first second third rest nonzero octal large =>
    have isDigit : first.isDigit = true := isDigit_of_isOctal (octal first (by simp))
    have plain : first ≠ '\\' := by
      rintro rfl
      cases isDigit
    have failed := digitPiece_eq_error_iff.mpr ⟨second, third, rest, rfl, octal, large, rfl⟩
    refine ⟨_, _, rfl, ?_⟩
    change escapePiece (first :: second :: third :: rest) = _
    unfold escapePiece
    dsimp only
    rw [if_neg plain, if_neg nonzero, if_pos isDigit, failed]
    rfl

/-! ## Where a faulty piece begins -/

theorem Misreads.shift (misreads : Misreads offset text fault) (bytes : Nat) :
    Misreads (offset + bytes) text (fault.shift bytes) := by
  cases misreads with
  | trailingBackslash => exact .trailingBackslash
  | angleExpected other => exact .angleExpected other
  | unterminated unshut => exact .unterminated unshut
  | badEscape isAlpha noName unknown => exact .badEscape isAlpha noName unknown
  | octalTooLarge nonzero octal large => exact .octalTooLarge nonzero octal large

theorem Misreads.exists_at_front (misreads : Misreads offset text fault) :
    ∃ first, Misreads 0 text first ∧ first.shift offset = fault := by
  cases misreads with
  | trailingBackslash => exact ⟨_, .trailingBackslash, rfl⟩
  | angleExpected other => exact ⟨_, .angleExpected other, by simp [Fault.shift]⟩
  | unterminated unshut => exact ⟨_, .unterminated unshut, rfl⟩
  | badEscape isAlpha noName unknown =>
    exact ⟨_, .badEscape isAlpha noName unknown, by simp [Fault.shift]⟩
  | octalTooLarge nonzero octal large =>
    exact ⟨_, .octalTooLarge nonzero octal large, by simp [Fault.shift]⟩

theorem Breaks.shift (breaks : Breaks groupNames offset text fault) (bytes : Nat) :
    Breaks groupNames (offset + bytes) text (fault.shift bytes) := by
  cases breaks with
  | escape misreads => exact .escape (misreads.shift bytes)
  | reference reads misrefers =>
    rw [misrefers.shift]
    exact .reference reads misrefers

/-- A text that begins with a faulty piece is refused for it. -/
theorem Breaks.refused (breaks : Breaks groupNames offset text fault) :
    ∃ first, parseChars groupNames text = .error first ∧ first.shift offset = fault := by
  cases breaks with
  | escape misreads =>
    obtain ⟨first, front, rfl⟩ := misreads.exists_at_front
    obtain ⟨c, tail, rfl, failed⟩ := readPiece_eq_error_of_misreads front
    refine ⟨first, ?_, rfl⟩
    rw [parseChars, failed]
    rfl
  | reference reads misrefers =>
    obtain ⟨c, tail, rfl, within, gives⟩ := reads.gives
    refine ⟨fault, ?_, misrefers.shift offset⟩
    have made : Piece.segment groupNames (.reference _) = .error fault :=
      congrArg (Except.map Segment.group) (resolve_eq_error_iff.mpr misrefers)
    rw [parseChars, gives, ok_bind]
    dsimp only
    rw [made]
    rfl

theorem Misreads.head?_eq (misreads : Misreads offset text fault) : text.head? = some '\\' := by
  cases misreads <;> rfl

theorem Breaks.head?_eq (breaks : Breaks groupNames offset text fault) :
    text.head? = some '\\' := by
  cases breaks with
  | escape misreads => exact misreads.head?_eq
  | reference reads => cases reads <;> rfl

theorem Breaks.offset_eq (breaks : Breaks groupNames offset text fault) {told : Nat}
    (tells : fault.offset? = some told) : told = offset := by
  cases breaks with
  | escape misreads =>
    cases misreads <;> cases tells <;> rfl
  | reference reads misrefers => cases misrefers <;> cases tells

/-! ## The first faulty piece -/

/-- What a text that begins with a character is refused for. -/
theorem parseChars_cons_eq_error_cases {c : Char}
    (refused : parseChars groupNames (c :: text) = .error fault) :
    Breaks groupNames 0 (c :: text) fault ∨
      ∃ piece rest segment later, Reads (c :: text) piece rest ∧
        piece.segment groupNames = .ok segment ∧ parseChars groupNames rest = .error later ∧
        fault = later.shift (byteLength (c :: text) - byteLength rest) := by
  rw [parseChars] at refused
  cases read : readPiece c text with
  | error first =>
    rw [read] at refused
    cases refused
    unfold readPiece at read
    split at read
    · rename_i backslash
      rw [backslash]
      exact .inl (.escape (misreads_of_escapePiece read))
    · cases read
  | ok pair =>
    obtain ⟨piece, rest, within⟩ := pair
    have reads : Reads (c :: text) piece rest := gives_readPiece_iff.mp ⟨within, read⟩
    rw [read, ok_bind] at refused
    dsimp only at refused
    cases made : piece.segment groupNames with
    | error first =>
      rw [made] at refused
      cases refused
      cases piece with
      | text chars => cases made
      | reference name =>
        have misrefers := resolve_eq_error_iff.mp (eq_error_of_map_eq_error made)
        exact .inl (.reference reads misrefers)
    | ok segment =>
      rw [made, ok_bind] at refused
      cases behind : parseChars groupNames rest with
      | ok segments =>
        rw [behind] at refused
        cases refused
      | error later =>
        rw [behind] at refused
        cases refused
        exact .inr ⟨piece, rest, segment, later, reads, made, behind, rfl⟩

/-- A text that is refused has a faulty piece behind pieces that are not. -/
theorem exists_breaks_of_refused (refused : parseChars groupNames text = .error fault) :
    ∃ front back segments, text = front ++ back ∧ ReadAs groupNames front segments ∧
      Breaks groupNames (byteLength front) back fault := by
  -- A piece may be of any length, so the induction is on how much is left.
  induction left : text.length using Nat.strongRecOn generalizing text fault with
  | ind size ih =>
    cases text with
    | nil =>
      rw [parseChars] at refused
      cases refused
    | cons c text =>
      rcases parseChars_cons_eq_error_cases refused with
        breaks | ⟨piece, rest, segment, later, reads, made, behind, rfl⟩
      · exact ⟨[], c :: text, [], rfl, .nil, breaks⟩
      · obtain ⟨front, back, segments, rfl, readAs, breaks⟩ :=
          ih rest.length (left ▸ reads.length_lt) behind rfl
        obtain ⟨taken, whole, others⟩ := reads.exists_taken
        rw [whole]
        refine ⟨taken ++ front, back, _, (List.append_assoc ..).symm,
          .cons (others front (.left front back)) made readAs, ?_⟩
        have bytes : byteLength (taken ++ (front ++ back)) - byteLength (front ++ back) =
            byteLength taken := by
          rw [byteLength_append]
          omega
        rw [bytes, byteLength_append, Nat.add_comm]
        exact breaks.shift _

/-- A text begins with a faulty piece or with one that is not. -/
theorem Breaks.not_reads (breaks : Breaks groupNames offset text fault) {piece : Piece}
    {segment : Segment} (reads : Reads text piece rest) : piece.segment groupNames ≠ .ok segment := by
  intro made
  cases breaks with
  | escape misreads =>
    obtain ⟨first, front, -⟩ := misreads.exists_at_front
    obtain ⟨c, tail, rfl, failed⟩ := readPiece_eq_error_of_misreads front
    obtain ⟨within, gives⟩ := gives_readPiece_iff.mpr reads
    cases failed.symm.trans gives
  | reference others misrefers =>
    obtain ⟨rfl, -⟩ := reads.unique others
    obtain ⟨index, resolved, -⟩ := exists_of_map_eq_ok made
    cases resolved.symm.trans (resolve_eq_error_iff.mpr misrefers)

theorem goesOn_of_head?_eq (begins : text.head? = some '\\') : goesOn Char.isDigit text = false := by
  simp only [goesOn, begins]
  decide

/-- No text up to a faulty piece goes on behind another one. -/
theorem eq_nil_of_breaks {front middle back : List Char} {segments others : List Segment}
    {offset' : Nat} {fault' : Fault} (readFront : ReadAs groupNames front segments)
    (breaks : Breaks groupNames offset (middle ++ back) fault)
    (readBoth : ReadAs groupNames (front ++ middle) others)
    (breaks' : Breaks groupNames offset' back fault') : middle = [] := by
  cases middle with
  | nil => rfl
  | cons c middle =>
    have stops : goesOn Char.isDigit (c :: middle) = false := goesOn_of_head?_eq breaks.head?_eq
    cases read : parseChars groupNames (c :: middle) with
    | error first =>
      have refused := readFront.append_fault stops read
      cases refused.symm.trans (parseChars_eq_ok_iff.mpr readBoth)
    | ok segments =>
      obtain ⟨piece, rest, segment, later, reads, made, -, -⟩ := parseChars_cons_eq_ok_iff.mp read
      exact absurd made (breaks.not_reads (reads.append (goesOn_of_head?_eq breaks'.head?_eq)))

theorem exists_readAs_of_parse {template : String}
    (accepted : ∃ parsed, parse groupNames template = .ok parsed) :
    ∃ segments, ReadAs groupNames template.toList segments := by
  obtain ⟨parsed, read⟩ := accepted
  exact ⟨_, parse_eq_ok_iff_readAs.mp read⟩

namespace SplitsAtFault

variable {template front back front' back' : String} {fault' : Fault}

theorem refused (splits : SplitsAtFault groupNames template front back fault) :
    parse groupNames template = .error fault := by
  obtain ⟨rfl, accepted, breaks⟩ := splits
  obtain ⟨segments, readAs⟩ := exists_readAs_of_parse accepted
  obtain ⟨first, read, rfl⟩ := breaks.refused
  have stops := goesOn_of_head?_eq breaks.head?_eq
  rw [parse_eq_error_iff, String.toList_append, ← byteLength_toList]
  exact readAs.append_fault stops read

theorem exists_of_refused (refused : parse groupNames template = .error fault) :
    ∃ front back, SplitsAtFault groupNames template front back fault := by
  obtain ⟨front, back, segments, whole, readAs, breaks⟩ :=
    exists_breaks_of_refused (parse_eq_error_iff.mp refused)
  refine ⟨String.ofList front, String.ofList back, ?_, ⟨⟨segments⟩, ?_⟩, ?_⟩
  · rw [← String.ofList_append, ← whole, String.ofList_toList]
  · rwa [parse_eq_ok_iff_readAs, String.toList_ofList]
  · rw [← byteLength_toList, String.toList_ofList, String.toList_ofList]
    exact breaks

/-- The front of one split does not go on behind that of another one. -/
theorem front_eq_of_append (splits : SplitsAtFault groupNames template front back fault)
    (splits' : SplitsAtFault groupNames template front' back' fault') {middle : List Char}
    (front_eq : front'.toList = front.toList ++ middle)
    (back_eq : back.toList = middle ++ back'.toList) : front' = front := by
  obtain ⟨segments, readFront⟩ := exists_readAs_of_parse splits.accepted
  obtain ⟨others, readBoth⟩ := exists_readAs_of_parse splits'.accepted
  have breaks := splits.breaks
  rw [back_eq] at breaks
  rw [front_eq] at readBoth
  have nothing := eq_nil_of_breaks readFront breaks readBoth splits'.breaks
  rw [nothing, List.append_nil] at front_eq
  exact String.toList_inj.mp front_eq

/-- There is one faulty piece at most behind pieces that are not. -/
theorem unique (splits : SplitsAtFault groupNames template front back fault)
    (splits' : SplitsAtFault groupNames template front' back' fault') :
    front' = front ∧ back' = back ∧ fault' = fault := by
  have same : front.toList ++ back.toList = front'.toList ++ back'.toList := by
    rw [← String.toList_append, ← String.toList_append, ← splits.whole, ← splits'.whole]
  have front_eq : front' = front := by
    rcases List.append_eq_append_iff.mp same with
      ⟨middle, front_eq, back_eq⟩ | ⟨middle, front_eq, back_eq⟩
    · exact splits.front_eq_of_append splits' front_eq back_eq
    · exact (splits'.front_eq_of_append splits front_eq back_eq).symm
  rw [front_eq] at same
  refine ⟨front_eq, (String.toList_inj.mp (List.append_cancel_left same)).symm, ?_⟩
  exact Except.error.inj (splits'.refused.symm.trans splits.refused)

/-- The offset in a fault is where the faulty piece begins, with a backslash. -/
theorem offset_spec (splits : SplitsAtFault groupNames template front back fault) {offset : Nat}
    (tells : fault.offset? = some offset) :
    offset = front.utf8ByteSize ∧ String.Pos.Raw.get? template ⟨offset⟩ = some '\\' := by
  obtain ⟨rfl, -, breaks⟩ := splits
  have offset_eq := breaks.offset_eq tells
  have found := String.get?_of_valid front.toList back.toList
  rw [← String.toList_append, String.ofList_toList, ← String.utf8ByteSize_ofList,
    String.ofList_toList, breaks.head?_eq] at found
  exact ⟨offset_eq, offset_eq ▸ found⟩

end SplitsAtFault

/-- **Faults point at the first faulty piece.** A template is refused if and only if it splits into
one that is accepted and a faulty piece with whatever is behind it, and it is refused for that
piece. It splits so in one way at most. The faulty piece begins with a backslash, and an offset in
the fault, which then stands at the end of the message, is the number of bytes up to it. -/
theorem parse_eq_error_iff_splitsAtFault (groupNames : List (Option String)) (template : String)
    (fault : Fault) :
    (parse groupNames template = .error fault ↔
      ∃ front back, SplitsAtFault groupNames template front back fault) ∧
    ∀ front back, SplitsAtFault groupNames template front back fault →
      back.toList.head? = some '\\' ∧
      (∀ offset, fault.offset? = some offset →
        offset = front.utf8ByteSize ∧ String.Pos.Raw.get? template ⟨offset⟩ = some '\\' ∧
          ∃ words, fault.message = words ++ toString offset) ∧
      ∀ front' back' fault', SplitsAtFault groupNames template front' back' fault' →
        front' = front ∧ back' = back ∧ fault' = fault := by
  refine ⟨⟨SplitsAtFault.exists_of_refused, ?_⟩, ?_⟩
  · rintro ⟨front, back, splits⟩
    exact splits.refused
  · intro front back splits
    refine ⟨splits.breaks.head?_eq, ?_, fun _ _ _ => splits.unique⟩
    intro offset tells
    obtain ⟨offset_eq, found⟩ := splits.offset_spec tells
    exact ⟨offset_eq, found, Fault.exists_message_eq tells⟩

-- The first of two faults behind a character of two bytes and a reference.
example : parse [none, none] "é\\1\\q\\777" = .error (.badEscape 'q' 4) := by decide +kernel

end Emend.Template
