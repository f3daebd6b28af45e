import Emend.Proofs.Template.Parsing
import Mathlib.Data.String.Basic

/-!
# Templates one behind the other

What follows a piece has no part in it, unless it begins with a digit: digits take as many more as
they can. So a template that is accepted may have another one behind it that begins with no digit.
Both together are read as one is and then the other, and a fault of the second is told from the
front of the first.
-/

namespace Emend.Template

variable {text more rest : List Char} {piece : Piece} {groupNames : List (Option String)}

/-! ## Bytes -/

theorem byteLength_eq (text : List Char) : byteLength text = String.utf8Len text := by
  induction text with
  | nil => rfl
  | cons c text ih =>
    rw [String.utf8Len_cons, ← ih]
    exact Nat.add_comm _ _

theorem byteLength_append (front back : List Char) :
    byteLength (front ++ back) = byteLength front + byteLength back := by
  simp only [byteLength_eq, String.utf8Len_append]

theorem byteLength_toList (text : String) : byteLength text.toList = text.utf8ByteSize := by
  rw [byteLength_eq, ← String.utf8ByteSize_ofList, String.ofList_toList]

/-! ## Faults further on -/

namespace Fault

def offset? : Fault → Option Nat
  | angleExpected offset | badEscape _ offset | octalTooLarge _ offset => some offset
  | _ => none

@[simp] theorem shift_zero (fault : Fault) : fault.shift 0 = fault := by
  cases fault <;> rfl

@[simp] theorem shift_shift (fault : Fault) (first second : Nat) :
    (fault.shift first).shift second = fault.shift (second + first) := by
  cases fault <;> simp [shift, Nat.add_comm, Nat.add_left_comm]

@[simp] theorem offset?_shift (fault : Fault) (bytes : Nat) :
    (fault.shift bytes).offset? = fault.offset?.map (· + bytes) := by
  cases fault <;> rfl

/-- An offset that a fault tells stands at the end of its wording. -/
theorem exists_message_eq {fault : Fault} {offset : Nat} (tells : fault.offset? = some offset) :
    ∃ words, fault.message = words ++ toString offset := by
  cases fault with
  | angleExpected _ | badEscape _ _ | octalTooLarge _ _ =>
    cases tells
    exact ⟨_, rfl⟩
  | _ => cases tells

end Fault

/-! ## What follows a piece -/

/-- A text begins with no digit, or with the one that another text begins with. -/
def AddsNoDigit (text other : List Char) : Prop :=
  ∀ c ∈ other.head?, c.isDigit = true → text.head? = some c

theorem AddsNoDigit.append (stops : goesOn Char.isDigit more = false) (text : List Char) :
    AddsNoDigit text (text ++ more) := by
  intro c begins digit
  cases text with
  | nil =>
    rw [List.nil_append] at begins
    simp [goesOn, Option.mem_def.mp begins, digit] at stops
  | cons first text => exact begins

theorem AddsNoDigit.left (front back : List Char) : AddsNoDigit (front ++ back) front := by
  intro c begins _
  cases front with
  | nil => cases begins
  | cons first front => exact begins

/-- Where digits of a kind end, they end if something else follows that adds no digit. -/
theorem AddsNoDigit.goesOn_eq_false {kind : Char → Bool} {other : List Char}
    (adds : AddsNoDigit rest other) (digits : ∀ c, kind c = true → c.isDigit = true)
    (stops : goesOn kind rest = false) : goesOn kind other = false := by
  cases begins : other.head? with
  | none => simp [goesOn, begins]
  | some c =>
    cases same : kind c with
    | false => simp [goesOn, begins, same]
    | true =>
      have here := adds c begins (digits c same)
      simp [goesOn, here, same] at stops

/-- A piece is what it is whatever follows, if that adds no digit. -/
theorem Reads.exists_taken (reads : Reads text piece rest) :
    ∃ taken, text = taken ++ rest ∧
      ∀ other, AddsNoDigit rest other → Reads (taken ++ other) piece other := by
  have octal (c : Char) : isOctal c = true → c.isDigit = true := isDigit_of_isOctal
  cases reads with
  | plain other => exact ⟨[_], rfl, fun _ _ => .plain other⟩
  | backslash => exact ⟨['\\', '\\'], rfl, fun _ _ => .backslash⟩
  | control known => exact ⟨['\\', _], rfl, fun _ _ => .control known⟩
  | @zero digits _ octalDigits greedy =>
    refine ⟨'\\' :: '0' :: digits, rfl, fun other adds => .zero octalDigits ?_⟩
    exact greedy.imp_right fun ⟨short, stops⟩ => ⟨short, adds.goesOn_eq_false octal stops⟩
  | octal nonzero digits small => exact ⟨['\\', _, _, _], rfl, fun _ _ => .octal nonzero digits small⟩
  | twoDigits nonzero digits noCode =>
    refine ⟨['\\', _, _], rfl, fun other adds => .twoDigits nonzero digits ?_⟩
    rintro ⟨first, second, third⟩
    have stops : goesOn isOctal rest = false := by simpa [first, second] using noCode
    simp [adds.goesOn_eq_false octal stops] at third
  | oneDigit nonzero digit alone =>
    exact ⟨['\\', _], rfl, fun other adds =>
      .oneDigit nonzero digit (adds.goesOn_eq_false (fun _ => id) alone)⟩
  | @named name _ shut =>
    refine ⟨'\\' :: 'g' :: '<' :: (name ++ ['>']), by simp, fun other _ => ?_⟩
    have reads : Reads ('\\' :: 'g' :: '<' :: (name ++ '>' :: other)) (.reference name) other :=
      .named shut
    simpa using reads
  | kept other noLetter noDigit => exact ⟨['\\', _], rfl, fun _ _ => .kept other noLetter noDigit⟩

/-- A piece is what it is if a text follows that begins with no digit. -/
theorem Reads.append (reads : Reads text piece rest) (stops : goesOn Char.isDigit more = false) :
    Reads (text ++ more) piece (rest ++ more) := by
  obtain ⟨taken, rfl, others⟩ := reads.exists_taken
  rw [List.append_assoc]
  exact others _ (.append stops rest)

/-! ## What follows a template -/

theorem parseChars_eq_error_of_behind {segment : Segment} {fault : Fault}
    (reads : Reads text piece rest) (made : piece.segment groupNames = .ok segment)
    (behind : parseChars groupNames rest = .error fault) :
    parseChars groupNames text = .error (fault.shift (byteLength text - byteLength rest)) := by
  obtain ⟨c, tail, rfl, within, gives⟩ := reads.gives
  rw [parseChars, gives, ok_bind]
  dsimp only
  rw [made, ok_bind, behind]

/-- Two texts one behind the other are read as one is and then the other. -/
theorem ReadAs.append {front back : List Segment} (readAs : ReadAs groupNames text front)
    (stops : goesOn Char.isDigit more = false) (others : ReadAs groupNames more back) :
    ∃ whole, ReadAs groupNames (text ++ more) whole ∧
      atomsOf whole = atomsOf front ++ atomsOf back := by
  induction readAs with
  | nil => exact ⟨back, others, rfl⟩
  | cons reads made _ ih =>
    obtain ⟨later, behind, atoms_eq⟩ := ih
    refine ⟨_, .cons (reads.append stops) made behind, ?_⟩
    rw [atomsOf_cons, atomsOf_cons, atoms_eq, List.append_assoc]

/-- A fault of the second of two texts is told from the front of the first. -/
theorem ReadAs.append_fault {front : List Segment} {fault : Fault}
    (readAs : ReadAs groupNames text front) (stops : goesOn Char.isDigit more = false)
    (refused : parseChars groupNames more = .error fault) :
    parseChars groupNames (text ++ more) = .error (fault.shift (byteLength text)) := by
  induction readAs with
  | nil => simpa [byteLength] using refused
  | @cons text rest _ _ _ reads made _ ih =>
    obtain ⟨taken, rfl, -⟩ := reads.exists_taken
    rw [parseChars_eq_error_of_behind (reads.append stops) made ih, Fault.shift_shift]
    congr 2
    simp only [byteLength_append]
    omega

theorem parse_eq_error_iff {template : String} {fault : Fault} :
    parse groupNames template = .error fault ↔
      parseChars groupNames template.toList = .error fault := by
  unfold parse
  cases parseChars groupNames template.toList with
  | error other =>
    constructor
    · intro same
      cases same
      rfl
    · intro same
      cases same
      rfl
  | ok segments => exact ⟨nofun, nofun⟩

/-- **Templates compose.** Behind a template that is accepted, a template that begins with no digit
is accepted or refused as it is alone. The two expand to the expansion of the one and then that of
the other, for every region and all groups, and the offset in a fault of the second is greater by
the number of bytes in the first. -/
theorem parse_append {first second : String} {front : Template}
    (accepted : parse groupNames first = .ok front)
    (stops : goesOn Char.isDigit second.toList = false) :
    ((∃ whole, parse groupNames (first ++ second) = .ok whole) ↔
      ∃ back, parse groupNames second = .ok back) ∧
    (∀ back whole, parse groupNames second = .ok back →
      parse groupNames (first ++ second) = .ok whole → ∀ region group,
        whole.expand region group = front.expand region group ++ back.expand region group) ∧
    ∀ fault, parse groupNames second = .error fault →
      parse groupNames (first ++ second) = .error (fault.shift first.utf8ByteSize) := by
  have readAs := parse_eq_ok_iff_readAs.mp accepted
  have refuses {fault : Fault} (refused : parse groupNames second = .error fault) :
      parse groupNames (first ++ second) = .error (fault.shift first.utf8ByteSize) := by
    rw [parse_eq_error_iff, String.toList_append, ← byteLength_toList]
    exact readAs.append_fault stops (parse_eq_error_iff.mp refused)
  have accepts {back : Template} (read : parse groupNames second = .ok back) :
      ∃ whole, parse groupNames (first ++ second) = .ok whole ∧
        atomsOf whole.segments = atomsOf front.segments ++ atomsOf back.segments := by
    obtain ⟨whole, readWhole, atoms_eq⟩ :=
      readAs.append stops (parse_eq_ok_iff_readAs.mp read)
    rw [← String.toList_append] at readWhole
    exact ⟨⟨whole⟩, parse_eq_ok_iff_readAs.mpr readWhole, atoms_eq⟩
  refine ⟨⟨?_, ?_⟩, ?_, fun fault => refuses⟩
  · rintro ⟨whole, read⟩
    cases alone : parse groupNames second with
    | ok back => exact ⟨back, rfl⟩
    | error fault => cases (refuses alone).symm.trans read
  · rintro ⟨back, read⟩
    obtain ⟨whole, read', -⟩ := accepts read
    exact ⟨whole, read'⟩
  · intro back whole read read' region group
    obtain ⟨_, same, atoms_eq⟩ := accepts read
    cases same.symm.trans read'
    simp only [expand_eq_flatMap_atoms, atoms_eq, List.flatMap_append]

/-- A reference of one digit has a text behind it, once with another reference, once with a fault
that stands behind four bytes and one. -/
theorem parse_append_umlaut :
    parse [none, none] "é\\1" = .ok ⟨[.literal ['é'], .group 1]⟩ ∧
      goesOn Char.isDigit "+\\1".toList = false ∧ goesOn Char.isDigit "+\\q".toList = false ∧
      (∃ whole, parse [none, none] ("é\\1" ++ "+\\1") = .ok whole ∧ ∀ region group,
        whole.expand region group = expand ⟨[.literal ['é'], .group 1]⟩ region group ++
          expand ⟨[.literal ['+'], .group 1]⟩ region group) ∧
      parse [none, none] ("é\\1" ++ "+\\q") = .error (.badEscape 'q' 5) := by
  have accepted : parse [none, none] "é\\1" = .ok ⟨[.literal ['é'], .group 1]⟩ := by decide +kernel
  have stops : goesOn Char.isDigit "+\\1".toList = false := by decide
  have stops' : goesOn Char.isDigit "+\\q".toList = false := by decide
  have read : parse [none, none] "+\\1" = .ok ⟨[.literal ['+'], .group 1]⟩ := by decide +kernel
  have refused : parse [none, none] "+\\q" = .error (.badEscape 'q' 1) := by decide +kernel
  obtain ⟨both, expands, -⟩ := parse_append accepted stops
  obtain ⟨whole, read'⟩ := both.mpr ⟨_, read⟩
  exact ⟨accepted, stops, stops', ⟨whole, read', expands _ _ read read'⟩,
    (parse_append accepted stops').2.2 _ refused⟩

-- A digit behind it would be a part of the reference.
example : parse [none, none] ("é\\1" ++ "2") = .error (.missingGroup 12 1) := by decide +kernel

end Emend.Template
