import Emend.Proofs.Template.Faults
import Emend.Proofs.Template.Writing

/-!
# Drafts of templates

A template may be drafted in one pass from the front. What is done is a list of segments; text behind
them is pending until a reference or the end follows, and becomes one segment then, unless it is
empty. Drafting comes to the template that reading comes to, or to the same fault. Whatever piece is
read next, no draft holds an empty text, texts side by side, or a group that is not there.
-/

namespace Emend.Template

/-- Segments with texts side by side merged, and with references to groups that are there. -/
structure IsNormal (groupCount : Nat) (segments : List Segment) : Prop
    extends IsMerged segments where
  inside : ∀ index, .group index ∈ segments → index < groupCount

structure Draft where
  segments : List Segment
  /-- Text behind the segments that may still grow. -/
  pending : List Char
deriving DecidableEq, Repr

variable {groupNames : List (Option String)} {groupCount : Nat} {segment : Segment}
  {segments : List Segment} {draft : Draft}

namespace Draft

def blank : Draft := ⟨[], []⟩

def flush (draft : Draft) : List Segment :=
  if draft.pending.isEmpty then draft.segments else draft.segments ++ [.literal draft.pending]

def add (draft : Draft) : Segment → Draft
  | .literal chars => { draft with pending := draft.pending ++ chars }
  | .group index => ⟨draft.flush ++ [.group index], []⟩

/-- Read a text into a draft. An offset in a fault counts `offset` bytes before the text. -/
def readInto (groupNames : List (Option String)) (draft : Draft) (offset : Nat) :
    List Char → Except Fault (List Segment)
  | [] => .ok draft.flush
  | c :: text => do
    let (piece, rest) ← (readPiece c text).mapError (.shift offset)
    let segment ← piece.segment groupNames
    readInto groupNames (draft.add segment)
      (offset + (byteLength (c :: text) - byteLength rest.1)) rest.1
termination_by text => text.length
decreasing_by exact Nat.lt_succ_of_le rest.2

def read (groupNames : List (Option String)) (template : String) : Except Fault Template :=
  return ⟨← blank.readInto groupNames 0 template.toList⟩

/-! ## What follows a draft -/

/-- The segments that a draft comes to when others follow. -/
def followedBy (draft : Draft) (later : List Segment) : List Segment :=
  draft.segments ++ cons (.literal draft.pending) later

theorem followedBy_nil (draft : Draft) : draft.followedBy [] = draft.flush := by
  obtain ⟨segments, pending⟩ := draft
  cases pending with
  | nil => exact List.append_nil segments
  | cons c pending => rfl

/-- What is put behind a draft is in front of what follows. -/
theorem followedBy_add (draft : Draft) (segment : Segment) (later : List Segment) :
    (draft.add segment).followedBy later = draft.followedBy (cons segment later) := by
  obtain ⟨segments, pending⟩ := draft
  cases segment with
  | literal chars =>
    exact congrArg (segments ++ ·) (cons_literal_cons_literal pending chars later).symm
  | group index =>
    cases pending with
    | nil => exact List.append_assoc segments [.group index] later
    | cons c pending =>
      have split : ((segments ++ [.literal (c :: pending)]) ++ [.group index]) ++ later =
          segments ++ .literal (c :: pending) :: .group index :: later := by simp
      exact split

/-! ## One pass -/

/-- A fault of a reference tells no offset. -/
theorem shift_of_segment_eq_error {piece : Piece} {fault : Fault}
    (refused : piece.segment groupNames = .error fault) (bytes : Nat) :
    fault.shift bytes = fault := by
  cases piece with
  | text chars => cases refused
  | reference name =>
    have misrefers := resolve_eq_error_iff.mp (eq_error_of_map_eq_error refused)
    exact misrefers.shift bytes

/-- What a text is read as is put behind the draft, and what is wrong with it is told from where the
draft begins. -/
theorem readInto_eq (draft : Draft) (offset : Nat) (text : List Char) :
    readInto groupNames draft offset text =
      ((parseChars groupNames text).map draft.followedBy).mapError (.shift offset) := by
  induction draft, offset, text using readInto.induct with
  | case1 draft offset =>
    rw [readInto, parseChars, ← followedBy_nil]
    rfl
  | case2 draft offset c text ih =>
    rw [readInto, parseChars]
    cases readPiece c text with
    | error fault => rfl
    | ok taken =>
      obtain ⟨piece, rest⟩ := taken
      rw [Except.mapError, ok_bind, ok_bind]
      dsimp only
      cases made : piece.segment groupNames with
      | error fault => exact congrArg Except.error (shift_of_segment_eq_error made offset).symm
      | ok segment =>
        rw [ok_bind, ok_bind, ih]
        cases parseChars groupNames rest.1 with
        | error fault => exact congrArg Except.error (fault.shift_shift _ _).symm
        | ok later => exact congrArg Except.ok (followedBy_add draft segment later)

/-- Drafting a template comes to the template that is read, or to the same fault. -/
theorem read_eq_parse (groupNames : List (Option String)) (template : String) :
    read groupNames template = parse groupNames template := by
  have unmoved : Fault.shift 0 = id := funext Fault.shift_zero
  unfold read parse
  rw [readInto_eq, unmoved]
  cases parseChars groupNames template.toList with
  | error fault => rfl
  | ok segments => rfl

end Draft

/-! ## Normal segments -/

theorem isNormal_nil (groupCount : Nat) : IsNormal groupCount [] :=
  ⟨isMerged_nil, nofun⟩

/-- A segment that is not to be merged with the one in front of it. -/
theorem IsNormal.concat
    (normal : IsNormal groupCount segments) (full : segment ≠ .literal [])
    (apart : ∀ first second,
      segments.getLast? = some (.literal first) → segment ≠ .literal second)
    (inside : ∀ index, segment = .group index → index < groupCount) :
    IsNormal groupCount (segments ++ [segment]) where
  full := by
    intro member
    rcases List.mem_append.mp member with earlier | last
    · exact normal.full earlier
    · exact full (List.mem_singleton.mp last).symm
  apart := by
    refine normal.apart.append (.singleton segment) ?_
    rintro before last behind ⟨⟩ first second ⟨rfl, rfl⟩
    exact apart first second last rfl
  inside := by
    intro index member
    rcases List.mem_append.mp member with earlier | last
    · exact normal.inside index earlier
    · exact inside index (List.mem_singleton.mp last).symm

namespace Draft

/-- A draft that may go on with any piece: pending text is not behind other text. -/
structure IsSound (groupCount : Nat) (draft : Draft) : Prop
    extends IsNormal groupCount draft.segments where
  closed : ∀ chars, draft.segments.getLast? ≠ some (.literal chars)

theorem isSound_blank (groupCount : Nat) : IsSound groupCount blank :=
  ⟨isNormal_nil groupCount, nofun⟩

/-- Pending text makes up one segment. -/
theorem IsSound.isNormal_flush (sound : draft.IsSound groupCount) :
    IsNormal groupCount draft.flush := by
  unfold flush
  split
  · exact sound.toIsNormal
  · rename_i some
    refine sound.toIsNormal.concat ?_ (fun first _ last => absurd last (sound.closed first)) nofun
    simpa using some

/-- A piece more keeps a draft sound. -/
theorem IsSound.add (sound : draft.IsSound groupCount)
    (inside : ∀ index, segment = .group index → index < groupCount) :
    (draft.add segment).IsSound groupCount := by
  cases segment with
  | literal chars => exact ⟨sound.toIsNormal, sound.closed⟩
  | group index =>
    refine ⟨sound.isNormal_flush.concat nofun nofun inside, ?_⟩
    intro chars last
    rw [Draft.add, List.getLast?_concat] at last
    cases last

theorem lt_length_of_segment {piece : Piece} {index : Nat}
    (made : piece.segment groupNames = .ok (.group index)) : index < groupNames.length := by
  cases piece with
  | text chars => cases made
  | reference name =>
    obtain ⟨other, resolved, same⟩ := exists_of_map_eq_ok made
    cases same
    exact (resolve_eq_ok_iff.mp resolved).lt_length

/-- Reading a text into a sound draft comes to normal segments. -/
theorem IsSound.readInto (sound : draft.IsSound groupNames.length) {offset : Nat}
    {text : List Char} (drafted : readInto groupNames draft offset text = .ok segments) :
    IsNormal groupNames.length segments := by
  induction draft, offset, text using readInto.induct with
  | case1 draft offset =>
    rw [Draft.readInto] at drafted
    cases drafted
    exact sound.isNormal_flush
  | case2 draft offset c text ih =>
    rw [Draft.readInto] at drafted
    obtain ⟨⟨piece, rest⟩, -, drafted⟩ := exists_of_bind_eq_ok drafted
    obtain ⟨segment, made, drafted⟩ := exists_of_bind_eq_ok drafted
    refine ih rest segment (sound.add ?_) drafted
    rintro index rfl
    exact lt_length_of_segment made

end Draft

theorem isNormal_of_parse {template : String} {parsed : Template}
    (read : parse groupNames template = .ok parsed) :
    IsNormal groupNames.length parsed.segments := by
  rw [← Draft.read_eq_parse] at read
  obtain ⟨segments, drafted, same⟩ := exists_of_bind_eq_ok read
  cases same
  exact (Draft.isSound_blank _).readInto drafted

end Emend.Template
