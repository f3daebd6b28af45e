import Emend.Proofs.Template.Parsing

/-!
# Writing templates

Whatever a template can stand for can be written: a text with its backslashes doubled, a group by
its number between angles. Reading gives back what was written, segment by segment. Only a backslash
has to be written in another way, so a text without one is its own template.
-/

namespace Emend.Template

variable {rest : List Char} {groupNames : List (Option String)} {later : List Segment}

/-! ## What is written -/

def doubled (text : List Char) : List Char :=
  text.flatMap fun c => if c = '\\' then ['\\', '\\'] else [c]

def Segment.written : Segment → List Char
  | literal chars => doubled chars
  | .group index => '\\' :: 'g' :: '<' :: (Nat.toDigits 10 index ++ ['>'])

/-- The template text for segments. -/
def write (segments : List Segment) : String := String.ofList (segments.flatMap Segment.written)

def plain (text : String) : Template := ⟨cons (.literal text.toList) []⟩

@[simp] theorem doubled_nil : doubled [] = [] := rfl

@[simp] theorem doubled_cons (c : Char) (text : List Char) :
    doubled (c :: text) = (if c = '\\' then ['\\', '\\'] else [c]) ++ doubled text := rfl

theorem doubled_of_notMem {text : List Char} (without : '\\' ∉ text) : doubled text = text := by
  induction text with
  | nil => rfl
  | cons c text ih =>
    obtain ⟨other, without⟩ := List.ne_and_not_mem_of_not_mem_cons without
    rw [doubled_cons, if_neg (Ne.symm other), ih without, List.singleton_append]

/-! ## Segments side by side -/

/-- Two texts that are put in front one after the other are put in front together. -/
theorem cons_literal_cons_literal (first second : List Char) (segments : List Segment) :
    cons (.literal first) (cons (.literal second) segments) =
      cons (.literal (first ++ second)) segments := by
  cases first with
  | nil => cases second <;> rfl
  | cons c first =>
    cases second with
    | nil => simp [cons]
    | cons d second =>
      cases segments with
      | nil => rfl
      | cons segment segments => cases segment <;> simp [cons]

/-- Where texts side by side are merged already, nothing is to be merged. -/
theorem IsMerged.cons_eq {segment : Segment} {segments : List Segment}
    (merged : IsMerged (segment :: segments)) :
    Template.cons segment segments = segment :: segments := by
  obtain ⟨full, apart⟩ := merged
  unfold Template.cons
  split
  · exact absurd (List.mem_cons_self ..) full
  · exact absurd ⟨rfl, rfl⟩ ((List.isChain_cons_cons.mp apart).1 _ _)
  · rfl

theorem IsMerged.tail {segment : Segment} {segments : List Segment}
    (merged : IsMerged (segment :: segments)) : IsMerged segments :=
  ⟨List.not_mem_of_not_mem_cons merged.full, merged.apart.tail⟩

/-! ## What is written is read -/

/-- A text with its backslashes doubled is read as the text, whatever follows. -/
theorem readAs_doubled (behind : ReadAs groupNames rest later) (text : List Char) :
    ReadAs groupNames (doubled text ++ rest) (cons (.literal text) later) := by
  induction text with
  | nil => exact behind
  | cons c text ih =>
    have reads : Reads ((if c = '\\' then ['\\', '\\'] else [c]) ++ (doubled text ++ rest))
        (.text [c]) (doubled text ++ rest) := by
      split
      · rename_i backslash
        rw [backslash]
        exact .backslash
      · rename_i other
        exact .plain other
    have whole := ReadAs.cons reads rfl ih
    rwa [cons_literal_cons_literal, ← List.append_assoc] at whole

theorem refers_toDigits {index : Nat} (inside : index < groupNames.length)
    (bounded : index < numberBound) : Refers groupNames (Nat.toDigits 10 index) index := by
  have value_eq : Nat.ofDigitChars 10 (Nat.toDigits 10 index) 0 = index :=
    Nat.ofDigitChars_toDigits (by decide) (by decide)
  have isDigit (c : Char) (member : c ∈ Nat.toDigits 10 index) : c.isDigit = true :=
    Nat.isDigit_of_mem_toDigits (by decide) (by decide) member
  have refers : Refers groupNames (Nat.toDigits 10 index) _ :=
    .number Nat.toDigits_ne_nil isDigit (by rwa [value_eq]) (by rwa [value_eq])
  rwa [value_eq] at refers

/-- The number of a group between angles is read as the group, whatever follows. -/
theorem readAs_group {index : Nat} (behind : ReadAs groupNames rest later)
    (inside : index < groupNames.length) (bounded : index < numberBound) :
    ReadAs groupNames (Segment.written (.group index) ++ rest) (cons (.group index) later) := by
  have shut : '>' ∉ Nat.toDigits 10 index := by
    intro member
    cases Nat.isDigit_of_mem_toDigits (by decide) (by decide) member
  have made : Piece.segment groupNames (.reference (Nat.toDigits 10 index)) = .ok (.group index) :=
    congrArg (Except.map Segment.group) (resolve_eq_ok_iff.mpr (refers_toDigits inside bounded))
  have whole := ReadAs.cons (.named shut) made behind
  simpa [Segment.written] using whole

theorem readAs_written {segments : List Segment} (merged : IsMerged segments)
    (refers : ∀ index, .group index ∈ segments →
      index < groupNames.length ∧ index < numberBound) :
    ReadAs groupNames (segments.flatMap Segment.written) segments := by
  induction segments with
  | nil => exact .nil
  | cons segment segments ih =>
    have behind := ih merged.tail fun index member => refers index (List.mem_cons_of_mem _ member)
    rw [List.flatMap_cons, ← merged.cons_eq]
    cases segment with
    | literal chars => exact readAs_doubled behind chars
    | group index =>
      obtain ⟨inside, bounded⟩ := refers index (List.mem_cons_self ..)
      exact readAs_group behind inside bounded

theorem parse_doubled (groupNames : List (Option String)) (text : String) :
    parse groupNames (String.ofList (doubled text.toList)) = .ok (plain text) := by
  have readAs : ReadAs groupNames (doubled text.toList ++ []) _ := readAs_doubled .nil text.toList
  rw [List.append_nil] at readAs
  rwa [parse_eq_ok_iff_readAs, String.toList_ofList]

theorem expand_plain (text : String) (region : List Char) (group : Nat → Option (List Char)) :
    (plain text).expand region group = text.toList := by
  rw [expand_eq_flatMap_atoms, plain, atomsOf_cons]
  simp [Segment.atoms, atomsOf, Atom.expand, List.flatMap_map]

/-- **Every replacement can be written.** Segments in which no text is empty and none stands beside
another one are what is read of the template that is written for them, if the pattern has the groups
among them; the number of a group is one of eight bytes. So a text with its backslashes doubled is a
template that expands to the text, for every region and all groups, and a text without a backslash
is such a template itself. -/
theorem parse_written (groupNames : List (Option String)) :
    (∀ segments, IsMerged segments →
      (∀ index, .group index ∈ segments → index < groupNames.length ∧ index < numberBound) →
      parse groupNames (write segments) = .ok ⟨segments⟩) ∧
    (∀ text, parse groupNames (String.ofList (doubled text.toList)) = .ok (plain text)) ∧
    (∀ text, '\\' ∉ text.toList → parse groupNames text = .ok (plain text)) ∧
    ∀ text region group, (plain text).expand region group = text.toList := by
  refine ⟨?_, parse_doubled groupNames, ?_, expand_plain⟩
  · intro segments merged refers
    rw [parse_eq_ok_iff_readAs, write, String.toList_ofList]
    exact readAs_written merged refers
  · intro text without
    have same := parse_doubled groupNames text
    rwa [doubled_of_notMem without, String.ofList_toList] at same

-- Digits and angles beside a reference, and backslashes in a row, are not taken for a part of it.
example : parse [none, none] (write [.literal ['\\', '\\', 'g', '<'], .group 1, .literal ['1', '>']]) =
    .ok ⟨[.literal ['\\', '\\', 'g', '<'], .group 1, .literal ['1', '>']]⟩ := by decide +kernel

end Emend.Template
