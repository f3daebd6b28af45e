import Emend.Proofs.Checks
import Emend.Proofs.Template.Pieces
import Mathlib.Data.List.Chain

/-!
# Reading templates

A template is accepted where the grammar splits the whole of it and every reference is to a group
that is there. Its segments hold the atoms of the pieces in order, and they expand to what the atoms
stand for.
-/

namespace Emend.Template

variable {text : List Char} {piece : Piece} {groupNames : List (Option String)}

/-! ## Resolving -/

theorem findIdx?_eq_some_iff_named {name : String} {index : Nat} :
    groupNames.findIdx? (· == some name) = some index ↔
      groupNames[index]? = some (some name) ∧
        ∀ earlier < index, groupNames[earlier]? ≠ some (some name) := by
  rw [List.findIdx?_eq_some_iff_getElem]
  constructor
  · rintro ⟨inside, here, before⟩
    refine ⟨by simpa [List.getElem?_eq_getElem inside] using here, ?_⟩
    intro earlier less
    simpa [List.getElem?_eq_getElem (Nat.lt_trans less inside)] using before earlier less
  · rintro ⟨here, before⟩
    obtain ⟨inside, same⟩ := List.getElem?_eq_some_iff.mp here
    refine ⟨inside, by simpa using same, ?_⟩
    intro earlier less
    simpa [List.getElem?_eq_getElem (Nat.lt_trans less inside)] using before earlier less

theorem resolve_eq_ok_iff {name : List Char} {index : Nat} :
    resolve groupNames name = .ok index ↔ Refers groupNames name index := by
  unfold resolve
  rw [digitsValue_eq]
  constructor
  · intro resolved
    split at resolved
    · cases resolved
    · rename_i named
      split at resolved
      · rename_i digits
        dsimp only at resolved
        split at resolved
        · cases resolved
        · rename_i bounded
          split at resolved
          · rename_i inside
            cases resolved
            exact .number (by simpa using named) (by simpa using digits) (Nat.lt_of_not_le bounded)
              inside
          · cases resolved
      · rename_i word
        split at resolved
        · rename_i found
          cases resolved
          obtain ⟨here, before⟩ := findIdx?_eq_some_iff_named.mp found
          exact .name (by simpa using word) here before
        · cases resolved
  · intro refers
    cases refers with
    | number some digits bounded inside =>
      have all : name.all Char.isDigit = true := by simpa using digits
      rw [if_neg (by simpa using some), if_pos all]
      dsimp only
      rw [if_neg (Nat.not_le_of_lt bounded), if_pos inside]
    | name word here before =>
      have named : ¬ name.isEmpty = true := by
        rintro empty
        obtain ⟨c, member, -⟩ := word
        rw [List.isEmpty_iff.mp empty] at member
        cases member
      have notAll : ¬ name.all Char.isDigit = true := by simpa using word
      rw [if_neg named, if_neg notAll, findIdx?_eq_some_iff_named.mpr ⟨here, before⟩]

/-- The segment of a piece has the atoms that the piece stands for. -/
theorem stands_of_segment {segment : Segment} (made : piece.segment groupNames = .ok segment) :
    Stands groupNames piece segment.atoms := by
  cases piece with
  | text chars =>
    cases made
    exact .text chars
  | reference name =>
    obtain ⟨index, resolved, rfl⟩ := exists_of_map_eq_ok made
    exact .reference (resolve_eq_ok_iff.mp resolved)

/-- A piece has a segment unless it is a reference to a group that is not there. -/
theorem exists_segment
    (refers : ∀ name, piece = .reference name → ∃ index, Refers groupNames name index) :
    ∃ segment, piece.segment groupNames = .ok segment := by
  cases piece with
  | text chars => exact ⟨_, rfl⟩
  | reference name =>
    obtain ⟨index, refers⟩ := refers name rfl
    refine ⟨.group index, ?_⟩
    change (resolve groupNames name).map Segment.group = _
    rw [resolve_eq_ok_iff.mpr refers]
    rfl

/-! ## Merging -/

@[simp] theorem atomsOf_cons (segment : Segment) (segments : List Segment) :
    atomsOf (cons segment segments) = segment.atoms ++ atomsOf segments := by
  unfold cons
  split <;> simp [atomsOf, Segment.atoms]

theorem isMerged_nil : IsMerged [] := ⟨List.not_mem_nil, .nil⟩

/-- A segment that cannot be merged with the one behind it. -/
theorem IsMerged.cons_of_apart {segment : Segment} {segments : List Segment}
    (merged : IsMerged segments) (full : segment ≠ .literal [])
    (apart : ∀ first second more, segment = .literal first → segments ≠ .literal second :: more) :
    IsMerged (segment :: segments) where
  full := List.not_mem_cons_of_ne_of_not_mem (Ne.symm full) merged.full
  apart := by
    cases segments with
    | nil => exact .singleton segment
    | cons next rest =>
      refine List.isChain_cons_cons.mpr ⟨?_, merged.apart⟩
      rintro first second ⟨rfl, rfl⟩
      exact apart first second rest rfl rfl

/-- A literal may be lengthened where it stands. -/
theorem IsMerged.lengthen {chars more : List Char} {rest : List Segment}
    (merged : IsMerged (.literal more :: rest)) (longer : chars ≠ []) :
    IsMerged (.literal (chars ++ more) :: rest) := by
  obtain ⟨full, apart⟩ := merged
  have behind : IsMerged rest := ⟨List.not_mem_of_not_mem_cons full, apart.tail⟩
  refine behind.cons_of_apart (by simp [longer]) ?_
  rintro first second others - rfl
  exact (List.isChain_cons_cons.mp apart).1 more second ⟨rfl, rfl⟩

theorem IsMerged.cons {segments : List Segment} (merged : IsMerged segments) (segment : Segment) :
    IsMerged (cons segment segments) := by
  unfold Template.cons
  split
  · exact merged
  · rename_i longer
    exact merged.lengthen longer
  · rename_i empty merge
    refine merged.cons_of_apart empty ?_
    rintro first second more rfl rfl
    exact merge first second more rfl rfl

/-! ## Parsing -/

theorem parseChars_cons_eq_ok_iff {c : Char} {segments : List Segment} :
    parseChars groupNames (c :: text) = .ok segments ↔
      ∃ piece rest segment later, Reads (c :: text) piece rest ∧
        piece.segment groupNames = .ok segment ∧ parseChars groupNames rest = .ok later ∧
        segments = cons segment later := by
  rw [parseChars]
  constructor
  · intro parsed
    obtain ⟨⟨piece, left⟩, read, parsed⟩ := exists_of_bind_eq_ok parsed
    obtain ⟨segment, made, parsed⟩ := exists_of_bind_eq_ok parsed
    split at parsed
    · rename_i later behind
      cases parsed
      exact ⟨piece, left.1, segment, later, gives_readPiece_iff.mp ⟨left.2, read⟩, made, behind, rfl⟩
    · cases parsed
  · rintro ⟨piece, rest, segment, later, reads, made, behind, rfl⟩
    obtain ⟨within, read⟩ := gives_readPiece_iff.mpr reads
    rw [read, ok_bind]
    dsimp only
    rw [made, ok_bind, behind]
    rfl

/-- A text is read as segments, piece by piece from the front. -/
inductive ReadAs (groupNames : List (Option String)) :
    (text : List Char) → (segments : List Segment) → Prop where
  | nil : ReadAs groupNames [] []
  | cons {text rest : List Char} {piece : Piece} {segment : Segment} {later : List Segment}
      (reads : Reads text piece rest) (made : piece.segment groupNames = .ok segment)
      (behind : ReadAs groupNames rest later) : ReadAs groupNames text (cons segment later)

theorem parseChars_eq_ok_iff {segments : List Segment} :
    parseChars groupNames text = .ok segments ↔ ReadAs groupNames text segments := by
  constructor
  · intro parsed
    -- A piece may be of any length, so the induction is on how much is left.
    induction left : text.length using Nat.strongRecOn generalizing text segments with
    | ind size ih =>
      cases text with
      | nil =>
        rw [parseChars] at parsed
        cases parsed
        exact .nil
      | cons c text =>
        obtain ⟨piece, rest, segment, later, reads, made, behind, rfl⟩ :=
          parseChars_cons_eq_ok_iff.mp parsed
        exact .cons reads made (ih rest.length (left ▸ reads.length_lt) behind rfl)
  · intro readAs
    induction readAs with
    | nil => rw [parseChars]
    | cons reads made _ ih =>
      obtain ⟨c, tail, rfl, -⟩ := reads.gives
      exact parseChars_cons_eq_ok_iff.mpr ⟨_, _, _, _, reads, made, ih, rfl⟩

/-- What a text is read as: the pieces that it splits into, and segments with the atoms of the
pieces. -/
structure Parsed (groupNames : List (Option String)) (text : List Char) (segments : List Segment)
    (pieces : List Piece) (parts : List (List Atom)) : Prop where
  splits : Splits text pieces
  stands : List.Forall₂ (Stands groupNames) pieces parts
  atoms_eq : atomsOf segments = parts.flatten
  merged : IsMerged segments

theorem exists_parsed_of_parseChars {segments : List Segment}
    (read : parseChars groupNames text = .ok segments) :
    ∃ pieces parts, Parsed groupNames text segments pieces parts := by
  induction parseChars_eq_ok_iff.mp read with
  | nil => exact ⟨[], [], .nil, .nil, rfl, isMerged_nil⟩
  | cons reads made behind ih =>
    obtain ⟨pieces, parts, parsed⟩ := ih (parseChars_eq_ok_iff.mpr behind)
    refine ⟨_ :: pieces, _ :: parts, .cons reads parsed.splits,
      .cons (stands_of_segment made) parsed.stands, ?_, parsed.merged.cons _⟩
    rw [atomsOf_cons, parsed.atoms_eq, List.flatten_cons]

theorem exists_parseChars {pieces : List Piece} (splits : Splits text pieces)
    (refers : ∀ name, .reference name ∈ pieces → ∃ index, Refers groupNames name index) :
    ∃ segments, parseChars groupNames text = .ok segments := by
  induction splits with
  | nil =>
    rw [parseChars]
    exact ⟨_, rfl⟩
  | cons reads _ ih =>
    obtain ⟨c, tail, rfl, -⟩ := reads.gives
    obtain ⟨segment, made⟩ := exists_segment fun name same =>
      refers name (same ▸ List.mem_cons_self ..)
    obtain ⟨later, behind⟩ := ih fun name member => refers name (List.mem_cons_of_mem _ member)
    exact ⟨_, parseChars_cons_eq_ok_iff.mpr ⟨_, _, segment, later, reads, made, behind, rfl⟩⟩

/-- The references among pieces that stand for something are to groups that are there. -/
theorem exists_refers_of_stands {pieces : List Piece} {parts : List (List Atom)}
    (stands : List.Forall₂ (Stands groupNames) pieces parts) {name : List Char}
    (member : .reference name ∈ pieces) : ∃ index, Refers groupNames name index := by
  induction stands with
  | nil => cases member
  | cons first _ ih =>
    rcases List.mem_cons.mp member with rfl | behind
    · cases first with
      | reference refers => exact ⟨_, refers⟩
    · exact ih behind

theorem Refers.lt_length {name : List Char} {index : Nat} (refers : Refers groupNames name index) :
    index < groupNames.length := by
  cases refers with
  | number some digits bounded inside => exact inside
  | name word here before => exact (List.getElem?_eq_some_iff.mp here).1

/-! ## Expanding -/

theorem expand_segment (region : List Char) (group : Nat → Option (List Char))
    (segment : Segment) :
    segment.expand region group = segment.atoms.flatMap (Atom.expand region group) := by
  cases segment with
  | literal chars => simp [Segment.expand, Segment.atoms, List.flatMap_map, Atom.expand]
  | group index =>
    cases index with
    | zero => simp [Segment.expand, Segment.atoms, Atom.expand]
    | succ index =>
      cases found : group (index + 1) with
      | none => simp [Segment.expand, Segment.atoms, Atom.expand, found]
      | some chars => simp [Segment.expand, Segment.atoms, Atom.expand, found]

/-- A template expands to what its atoms stand for. -/
theorem expand_eq_flatMap_atoms (template : Template) (region : List Char)
    (group : Nat → Option (List Char)) :
    template.expand region group =
      (atomsOf template.segments).flatMap (Atom.expand region group) := by
  unfold expand atomsOf
  rw [List.flatMap_assoc]
  exact congrArg (List.flatMap · template.segments) (funext (expand_segment region group))

/-! ## The whole template -/

theorem parse_eq_ok_iff {template : String} {parsed : Template} :
    parse groupNames template = .ok parsed ↔
      parseChars groupNames template.toList = .ok parsed.segments := by
  unfold parse
  cases parseChars groupNames template.toList with
  | error fault => exact ⟨nofun, nofun⟩
  | ok segments =>
    constructor
    · intro same
      cases same
      rfl
    · intro same
      cases same
      rfl

theorem parse_eq_ok_iff_readAs {template : String} {parsed : Template} :
    parse groupNames template = .ok parsed ↔
      ReadAs groupNames template.toList parsed.segments :=
  parse_eq_ok_iff.trans parseChars_eq_ok_iff

/-- **The grammar of templates.** A template is accepted if and only if the whole of it splits into
pieces and each reference is to a group that is there. It splits in one way at most. The segments of
an accepted template hold, in order, the characters and groups that its pieces stand for, with texts
side by side merged, and expand to what these stand for, for every region and all groups. -/
theorem parse_follows_grammar (groupNames : List (Option String)) (template : String) :
    ((∃ parsed, parse groupNames template = .ok parsed) ↔
      ∃ pieces, Splits template.toList pieces ∧
        ∀ name, .reference name ∈ pieces → ∃ index, Refers groupNames name index) ∧
    (∀ first second, Splits template.toList first → Splits template.toList second →
      first = second) ∧
    ∀ parsed pieces, parse groupNames template = .ok parsed → Splits template.toList pieces →
      IsMerged parsed.segments ∧
      ∃ parts, List.Forall₂ (Stands groupNames) pieces parts ∧
        atomsOf parsed.segments = parts.flatten ∧
        ∀ region group,
          parsed.expand region group = parts.flatten.flatMap (Atom.expand region group) := by
  refine ⟨⟨?_, ?_⟩, fun first second => Splits.unique, ?_⟩
  · rintro ⟨template, read⟩
    obtain ⟨pieces, parts, parsed⟩ := exists_parsed_of_parseChars (parse_eq_ok_iff.mp read)
    exact ⟨pieces, parsed.splits, fun name member => exists_refers_of_stands parsed.stands member⟩
  · rintro ⟨pieces, splits, refers⟩
    obtain ⟨segments, read⟩ := exists_parseChars splits refers
    exact ⟨⟨segments⟩, parse_eq_ok_iff.mpr read⟩
  · intro template pieces read splits
    obtain ⟨others, parts, parsed⟩ := exists_parsed_of_parseChars (parse_eq_ok_iff.mp read)
    cases splits.unique parsed.splits
    refine ⟨parsed.merged, parts, parsed.stands, parsed.atoms_eq, ?_⟩
    intro region group
    rw [expand_eq_flatMap_atoms, parsed.atoms_eq]

end Emend.Template
