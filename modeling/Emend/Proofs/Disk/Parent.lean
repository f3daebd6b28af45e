import Emend.Proofs.Disk.Tree

/-!
# Parents

The parent of a path takes the same way as the path up to its last name: both start at the same
place and make the same moves, where a step that stays does not count as a move. As a text it is a
front part of the path. So whenever a path points at a name, its parent leads to the directory that
the name is in.
-/

namespace Emend

namespace Path

/-! ## Pieces -/

theorem pieces_eq_splitOn (text : List Char) : pieces text = text.splitOn '/' := by
  induction text with
  | nil => rfl
  | cons c text ih =>
    rw [List.splitOn_cons_eq_if_modifyHead, ← ih, pieces.eq_2]
    cases split : pieces text with
    | nil => exact absurd (ih.symm.trans split) (List.splitOn_ne_nil '/' text)
    | cons piece rest =>
      by_cases slash : c = '/'
      · cases slash
        rfl
      · rw [beq_false_of_ne slash]
        exact if_neg slash

theorem pieces_append_slash (front text : List Char) :
    pieces (front ++ '/' :: text) = pieces front ++ pieces text := by
  rw [pieces_eq_splitOn, pieces_eq_splitOn, pieces_eq_splitOn, List.splitOn_append_cons_self]

theorem slash_notMem_of_mem_pieces {text piece : List Char} (member : piece ∈ pieces text) :
    '/' ∉ piece := by
  induction text generalizing piece with
  | nil =>
    cases List.mem_singleton.mp member
    exact List.not_mem_nil
  | cons c text ih =>
    unfold pieces at member
    split at member
    · rename_i split
      exact absurd ((pieces_eq_splitOn text).symm.trans split) (List.splitOn_ne_nil '/' text)
    · rename_i first rest split
      rw [split] at ih
      split at member
      · rcases List.mem_cons.mp member with rfl | within
        · exact List.not_mem_nil
        · exact ih within
      · rename_i other
        rcases List.mem_cons.mp member with rfl | within
        · intro clash
          rcases List.mem_cons.mp clash with same | clash
          · exact other same.symm
          · exact ih (List.mem_cons_self ..) clash
        · exact ih (List.mem_cons_of_mem _ within)

def names (pieces : List (List Char)) : List (List Char) :=
  pieces.filter fun piece => !isBlank piece

theorem names_cons_of_blank {piece : List Char} (blank : isBlank piece = true)
    (rest : List (List Char)) : names (piece :: rest) = names rest :=
  List.filter_cons_of_neg (by simpa using blank)

theorem names_cons_of_not_blank {piece : List Char} (counts : ¬ isBlank piece = true)
    (rest : List (List Char)) : names (piece :: rest) = piece :: names rest :=
  List.filter_cons_of_pos (by simpa using counts)

theorem names_dropWhile (pieces : List (List Char)) :
    names (pieces.dropWhile isBlank) = names pieces := by
  induction pieces with
  | nil => rfl
  | cons piece rest ih =>
    by_cases blank : isBlank piece = true
    · rw [List.dropWhile_cons_of_pos blank, names_cons_of_blank blank, ih]
    · rw [List.dropWhile_cons_of_neg blank]

theorem names_reverse (pieces : List (List Char)) : names pieces.reverse = (names pieces).reverse :=
  List.filter_reverse ..

/-- Pieces that were joined by slashes come apart again, but for the loss of no piece at all. -/
theorem names_pieces_intercalate {front : List (List Char)} (plain : ∀ piece ∈ front, '/' ∉ piece) :
    names (pieces (['/'].intercalate front)) = names front := by
  cases front with
  | nil => rfl
  | cons piece rest =>
    rw [pieces_eq_splitOn, List.splitOn_intercalate '/' plain (List.cons_ne_nil _ _)]

theorem intercalate_prefix {front pieces : List (List Char)} (within : front <+: pieces) :
    ['/'].intercalate front <+: ['/'].intercalate pieces := by
  induction front generalizing pieces with
  | nil => exact List.nil_prefix
  | cons piece rest ih =>
    obtain ⟨more, rfl, behind⟩ := List.cons_prefix_iff.mp within
    cases rest with
    | nil =>
      cases more with
      | nil => exact List.prefix_refl _
      | cons second more =>
        rw [List.intercalate_singleton, List.intercalate_cons_cons, List.append_assoc]
        exact List.prefix_append ..
    | cons second rest =>
      have longer : more ≠ [] := by
        rintro rfl
        cases List.prefix_nil.mp behind
      rw [List.intercalate_cons_cons, List.intercalate_cons_of_ne_nil longer]
      exact (List.prefix_append_right_inj _).mpr (ih behind)

/-! ## Heads -/

/-- What may stand before a text and add no name to its pieces. -/
inductive IsHead : List Char → List Char → Prop where
  | none (text : List Char) : IsHead [] text
  | slash (text : List Char) : IsHead ['/'] text
  | dot : IsHead here []
  | dotSlash (text : List Char) : IsHead here ('/' :: text)

theorem head_append (text : List Char) : head text ++ text.drop (head text).length = text := by
  unfold head
  split <;> rfl

theorem isHead_head (text : List Char) : IsHead (head text) (text.drop (head text).length) := by
  unfold head
  split
  · exact .slash _
  · exact .dot
  · exact .dotSlash _
  · exact .none _

theorem IsHead.names_pieces {start text : List Char} (fits : IsHead start text) :
    names (pieces (start ++ text)) = names (pieces text) := by
  cases fits with
  | none => rfl
  | slash =>
    have whole : pieces (['/'] ++ text) = [] :: pieces text := pieces_append_slash [] text
    rw [whole]
    rfl
  | dot => rfl
  | dotSlash text =>
    have behind : pieces ('/' :: text) = [] :: pieces text := pieces_append_slash [] text
    have whole : pieces (here ++ '/' :: text) = here :: pieces text := pieces_append_slash here text
    rw [whole, behind]
    rfl

/-- A head still fits when pieces are dropped behind it. -/
theorem IsHead.intercalate {start text : List Char} {front : List (List Char)}
    (fits : IsHead start text) (within : front <+: pieces text) :
    IsHead start (['/'].intercalate front) := by
  cases fits with
  | none => exact .none _
  | slash => exact .slash _
  | dot =>
    rcases List.prefix_cons_iff.mp within with rfl | ⟨rest, rfl, none⟩
    · exact .dot
    · cases List.prefix_nil.mp none
      exact .dot
  | dotSlash text =>
    have split : pieces ('/' :: text) = [] :: pieces text := pieces_append_slash [] text
    rw [split] at within
    rcases List.prefix_cons_iff.mp within with rfl | ⟨rest, rfl, -⟩
    · exact .dot
    · cases rest with
      | nil => exact .dot
      | cons piece rest =>
        rw [List.intercalate_cons_cons]
        exact .dotSlash _

/-! ## Moves -/

/-- The steps that lead elsewhere. -/
def moves (steps : List Step) : List Step := steps.filter fun step => step ≠ .stay

/-- The move that a name stands for. -/
theorem step?_of_not_blank {piece : List Char} (counts : ¬ isBlank piece = true) :
    ∃ move, step? piece = some move ∧ move ≠ .stay := by
  have named : piece ≠ [] ∧ piece ≠ here := by simpa [isBlank] using counts
  unfold step?
  rw [if_neg named.1, if_neg named.2]
  split
  · exact ⟨.up, rfl, Step.noConfusion⟩
  · exact ⟨.down _, rfl, Step.noConfusion⟩

theorem moves_filterMap_step? (pieces : List (List Char)) :
    moves (pieces.filterMap step?) = (names pieces).filterMap step? := by
  induction pieces with
  | nil => rfl
  | cons piece rest ih =>
    by_cases blank : isBlank piece = true
    · rw [names_cons_of_blank blank, ← ih]
      have kind : piece = [] ∨ piece = here := by simpa [isBlank] using blank
      rcases kind with rfl | rfl
      · rfl
      · rfl
    · obtain ⟨move, stands, moving⟩ := step?_of_not_blank blank
      rw [names_cons_of_not_blank blank, List.filterMap_cons_some stands,
        List.filterMap_cons_some stands, ← ih]
      exact List.filter_cons_of_pos (by simpa using moving)

theorem moves_route (path : String) :
    moves (route path).steps = (names (pieces path.toList)).filterMap step? :=
  moves_filterMap_step? (pieces path.toList)

/-! ## Parents -/

theorem outerFrom_of_dropWhile_eq_cons {start last : List Char} {pieces rest : List (List Char)}
    (kept : pieces.dropWhile isBlank = last :: rest) :
    outerFrom start pieces =
      render start (rest.dropWhile isBlank) :: outerFrom start (rest.dropWhile isBlank) := by
  rw [outerFrom]
  split
  · rename_i nothing
    cases kept.symm.trans nothing
  · rename_i other behind same
    cases kept.symm.trans same
    rfl

/-- What is left of pieces, last one first, when a name is dropped. -/
theorem drop_last_name {last : List Char} {pieces rest : List (List Char)}
    (kept : pieces.dropWhile isBlank = last :: rest) :
    ¬ isBlank last = true ∧ rest.dropWhile isBlank <:+ pieces ∧
      names pieces = last :: names (rest.dropWhile isBlank) := by
  have counts : ¬ isBlank last = true := by
    have first := List.head?_dropWhile_not isBlank pieces
    rw [kept] at first
    simpa using first
  have dropped : rest.dropWhile isBlank <:+ pieces :=
    ((List.dropWhile_suffix isBlank).trans (List.suffix_cons last rest)).trans
      (kept ▸ List.dropWhile_suffix isBlank)
  refine ⟨counts, dropped, ?_⟩
  rw [← names_dropWhile pieces, kept, names_cons_of_not_blank counts, names_dropWhile]

/-- The text of front pieces of a path is a front part of the path and has their names. -/
theorem render_front {text : List Char} {front : List (List Char)}
    (within : front <+: pieces (text.drop (head text).length)) :
    head text ++ ['/'].intercalate front <+: text ∧
      names (pieces (head text ++ ['/'].intercalate front)) = names front := by
  have fits := isHead_head text
  have whole := head_append text
  have joined : ['/'].intercalate (pieces (text.drop (head text).length)) =
      text.drop (head text).length := by
    rw [pieces_eq_splitOn, List.intercalate_splitOn]
  constructor
  · calc head text ++ ['/'].intercalate front
      _ <+: head text ++ text.drop (head text).length :=
        (List.prefix_append_right_inj _).mpr (joined ▸ intercalate_prefix within)
      _ = text := whole
  · have plain : ∀ piece ∈ front, '/' ∉ piece :=
      fun piece member => slash_notMem_of_mem_pieces (within.subset member)
    rw [(fits.intercalate within).names_pieces, names_pieces_intercalate plain]

theorem names_pieces_drop_head (text : List Char) :
    names (pieces (text.drop (head text).length)) = names (pieces text) := by
  rw [← (isHead_head text).names_pieces, head_append]

/-- A path with a name in it has a parent. It is a front part of the path, and lacks only the last
name. -/
theorem exists_parent? {path : String} (named : names (pieces path.toList) ≠ []) :
    ∃ parent last, parent? path = some parent ∧ parent.toList <+: path.toList ∧
      (parent.toList = [] → head path.toList = []) ∧ ¬ isBlank last = true ∧
      names (pieces path.toList) = names (pieces parent.toList) ++ [last] := by
  have inner := names_pieces_drop_head path.toList
  have outer_eq : outer path = outerFrom (head path.toList)
      (pieces (path.toList.drop (head path.toList).length)).reverse := rfl
  have renders := @render_front path.toList
  generalize path.toList.drop (head path.toList).length = text at *
  rw [← inner] at named ⊢
  cases kept : (pieces text).reverse.dropWhile isBlank with
  | nil =>
    have none : names (pieces text).reverse = [] := by
      rw [← names_dropWhile, kept]
      rfl
    rw [names_reverse] at none
    exact absurd (List.reverse_eq_nil_iff.mp none) named
  | cons last rest =>
    obtain ⟨counts, dropped, names_eq⟩ := drop_last_name kept
    let front := (rest.dropWhile isBlank).reverse
    have within : front <+: pieces text := by
      rw [← List.reverse_reverse (pieces text)]
      exact List.reverse_prefix.mpr dropped
    have front_eq : names (pieces text) = names front ++ [last] := by
      rw [names_reverse] at names_eq
      rw [names_reverse, ← List.reverse_cons, ← names_eq, List.reverse_reverse]
    have parent_eq : parent? path =
        some (String.ofList (head path.toList ++ ['/'].intercalate front)) := by
      unfold parent?
      rw [outer_eq, outerFrom_of_dropWhile_eq_cons kept]
      rfl
    obtain ⟨shorter, same⟩ := renders within
    refine ⟨_, last, parent_eq, ?_, ?_, counts, ?_⟩
    · rwa [String.toList_ofList]
    · rw [String.toList_ofList]
      exact fun none => (List.append_eq_nil_iff.mp none).1
    · rw [String.toList_ofList, same, front_eq]

/-! ## Leading parts -/

/-- A path is a front part of another one, and lacks its last names. -/
structure IsPartOf (part path : String) : Prop where
  front : part.toList <+: path.toList
  shorter : ∃ last ≠ [],
    names (pieces path.toList) = names (pieces part.toList) ++ last

theorem IsPartOf.trans {part middle path : String} (inner : IsPartOf part middle)
    (outer : IsPartOf middle path) : IsPartOf part path where
  front := inner.front.trans outer.front
  shorter := by
    obtain ⟨first, full, first_eq⟩ := inner.shorter
    obtain ⟨second, -, second_eq⟩ := outer.shorter
    refine ⟨first ++ second, List.append_ne_nil_of_left_ne_nil full second, ?_⟩
    rw [second_eq, first_eq, List.append_assoc]

/-- What is made of pieces, last one first, by dropping names lacks some of their last names. -/
theorem exists_of_mem_outerFrom {start : List Char} {pieces : List (List Char)} {part : String}
    (member : part ∈ outerFrom start pieces) :
    ∃ rest, part = render start rest ∧ rest <:+ pieces ∧
      ∃ last ≠ [], names pieces = last ++ names rest := by
  induction pieces using outerFrom.induct with
  | case1 pieces nothing =>
    rw [outerFrom] at member
    split at member
    · cases member
    · rename_i kept
      cases nothing.symm.trans kept
  | case2 pieces last rest kept ih =>
    obtain ⟨-, dropped, names_eq⟩ := drop_last_name kept
    rw [outerFrom_of_dropWhile_eq_cons kept] at member
    rcases List.mem_cons.mp member with rfl | further
    · exact ⟨_, rfl, dropped, [last], List.cons_ne_nil _ _, names_eq⟩
    · obtain ⟨front, rfl, within, more, -, more_eq⟩ := ih further
      refine ⟨front, rfl, within.trans dropped, last :: more, List.cons_ne_nil _ _, ?_⟩
      rw [names_eq, more_eq, List.cons_append]

/-- The parent of a path, its parent and so on are parts of the path. -/
theorem isPartOf_of_mem_outer {part path : String} (member : part ∈ outer path) :
    IsPartOf part path := by
  obtain ⟨rest, rfl, within, last, full, names_eq⟩ := exists_of_mem_outerFrom member
  have front_within : rest.reverse <+: pieces (path.toList.drop (head path.toList).length) :=
    List.reverse_suffix.mp (rest.reverse_reverse.symm ▸ within)
  obtain ⟨front, same⟩ := render_front front_within
  rw [names_reverse, names_pieces_drop_head] at names_eq
  unfold render
  refine ⟨?_, last.reverse, by simpa using full, ?_⟩
  · rwa [String.toList_ofList]
  · rw [String.toList_ofList, same, names_reverse, ← List.reverse_append, ← names_eq,
      List.reverse_reverse]

/-- The parent of a name in a directory is the directory. -/
theorem parent?_join {front name last : List Char} {above : List (List Char)}
    (relative : head (front ++ '/' :: name) = []) (ends : pieces front = above ++ [last])
    (counts : ¬ isBlank last = true) (plain : '/' ∉ name) (named : ¬ isBlank name = true) :
    parent? (String.ofList (front ++ '/' :: name)) = some (String.ofList front) := by
  have whole : pieces (front ++ '/' :: name) = pieces front ++ [name] := by
    rw [pieces_append_slash, pieces_eq_splitOn name, List.splitOn_eq_singleton plain]
  have joined : ['/'].intercalate (pieces front) = front := by
    rw [pieces_eq_splitOn, List.intercalate_splitOn]
  have kept : (pieces front).reverse.dropWhile isBlank = (pieces front).reverse := by
    rw [ends, List.reverse_append]
    exact List.dropWhile_cons_of_neg counts
  unfold parent? outer
  rw [String.toList_ofList]
  dsimp only
  rw [relative, List.length_nil, List.drop_zero, whole, List.reverse_append, List.reverse_singleton,
    List.singleton_append, outerFrom_of_dropWhile_eq_cons (List.dropWhile_cons_of_neg named), kept]
  unfold render
  rw [List.reverse_reverse, joined]
  rfl

/-- The directory of a path that ends in a name: it starts where the path starts, it is a front part
of the path or the working directory, and it makes the same moves. -/
structure IsDirectoryOf (path directory : String) : Prop where
  front : directory.toList <+: path.toList ∨ directory = "."
  named : directory ≠ ""
  fromRoot_eq : (route directory).fromRoot = (route path).fromRoot
  moves_eq : moves (route directory).steps = moves (route path).steps.dropLast

theorem isDirectoryOf_directoryOf {path name : String}
    (last : (route path).steps.getLast? = some (.down name)) :
    IsDirectoryOf path (directoryOf path) := by
  obtain ⟨above, steps_eq⟩ := List.getLast?_eq_some_iff.mp last
  have moves_eq : moves (route path).steps = moves above ++ [.down name] := by
    rw [steps_eq]
    exact List.filter_append ..
  rw [moves_route] at moves_eq
  have named : names (pieces path.toList) ≠ [] := by
    intro none
    rw [none] at moves_eq
    exact List.concat_ne_nil _ _ moves_eq.symm
  obtain ⟨parent, final, parent_eq, within, bare, counts, names_eq⟩ := exists_parent? named
  obtain ⟨move, stands, -⟩ := step?_of_not_blank counts
  have same : moves (route parent).steps = moves above := by
    rw [names_eq, List.filterMap_append] at moves_eq
    rw [moves_route]
    refine (List.append_inj' moves_eq ?_).1
    rw [List.filterMap_cons_some stands]
    rfl
  have front_eq : (route path).steps.dropLast = above := by rw [steps_eq, List.dropLast_concat]
  rw [← front_eq] at same
  unfold directoryOf
  rw [parent_eq]
  dsimp only
  split
  · rename_i empty
    have nothing : parent = "" := by simpa using empty
    cases nothing
    refine ⟨.inr rfl, by decide, ?_, same⟩
    have relative := bare rfl
    unfold head at relative
    split at relative
    · cases relative
    · cases relative
    · cases relative
    · rename_i other _ _
      unfold route
      dsimp only
      cases start : path.toList with
      | nil => rfl
      | cons c text =>
        have plain : c ≠ '/' := by
          rintro rfl
          exact other text start
        simpa using plain
  · rename_i full
    refine ⟨.inl within, by simpa using full, ?_, same⟩
    have named : parent.toList ≠ [] := by simpa using full
    have first : parent.toList.head? = path.toList.head? := by
      rw [List.head?_eq_some_head named, within.head named, List.head?_eq_some_head]
    unfold route
    dsimp only
    rw [first]

end Path

namespace Disk

variable {disk : Disk}

/-! ## Walking to the parent -/

/-- Steps that stay make no difference on the way to a directory. -/
theorem walk_moves {start place : Location} {steps : List Path.Step}
    (here : disk.node? place = some .directory) :
    disk.walk start (Path.moves steps) = .ok place ↔ disk.walk start steps = .ok place := by
  induction steps generalizing start with
  | nil => rfl
  | cons step rest ih =>
    have apart (steps : List Path.Step) :
        disk.walk start (step :: steps) = disk.step start step >>= (disk.walk · steps) := by
      rw [← walk_singleton]
      exact walk_append disk start [step] steps
    by_cases stay : step = .stay
    · cases stay
      have dropped : Path.moves (.stay :: rest) = Path.moves rest := rfl
      rw [dropped, ih, apart]
      constructor
      · intro walked
        rw [step_eq_ok_iff.mpr ⟨directory_of_walk walked here, .stay⟩]
        exact walked
      · intro walked
        obtain ⟨middle, taken, walked⟩ := exists_of_bind_eq_ok walked
        obtain ⟨-, leads⟩ := step_eq_ok_iff.mp taken
        cases leads
        exact walked
    · have kept : Path.moves (step :: rest) = step :: Path.moves rest :=
        List.filter_cons_of_pos (by simpa using stay)
      rw [kept, apart, apart]
      cases disk.step start step with
      | error fault => rfl
      | ok middle => exact ih

theorem checkPath_directoryOf {path directory : String} (checked : checkPath path = .ok ())
    (above : Path.IsDirectoryOf path directory) : checkPath directory = .ok () := by
  rcases above.front with ⟨rest, split⟩ | rfl
  · obtain ⟨plain, -, short⟩ := checkPath_eq_ok_iff.mp checked
    have path_eq : path = directory ++ String.ofList rest := by
      rw [← String.toList_inj, String.toList_append, String.toList_ofList, split]
    refine checkPath_eq_ok_iff.mpr ⟨?_, above.named, ?_⟩
    · intro clash
      rw [← split] at plain
      exact plain (List.mem_append_left rest clash)
    · rw [path_eq, String.utf8ByteSize_append] at short
      exact Nat.lt_of_le_of_lt (Nat.le_add_right ..) short
  · exact checkPath_eq_ok_iff.mpr (by decide)

/-- The parent of a path that points at a name leads to the directory that the name is in. -/
theorem locate_directoryOf {path name : String} {directory : Location} {slash : Bool}
    (aimed : disk.target path = .ok (.entry directory name slash)) :
    disk.locate (Path.directoryOf path) = .ok directory := by
  obtain ⟨checked, walked, here, last, -⟩ := target_eq_entry_iff.mp aimed
  have above := Path.isDirectoryOf_directoryOf last
  refine locate_eq_ok_iff.mpr ⟨?_, ?_, fun _ => here⟩
  · exact checkPath_directoryOf checked above
  · have start_eq : disk.startOf (Path.route (Path.directoryOf path)) =
        disk.startOf (Path.route path) := by
      unfold startOf
      rw [above.fromRoot_eq]
    rw [start_eq, ← walk_moves here, above.moves_eq, walk_moves here]
    exact walked

theorem Names.locate_directoryOf {path : String} {place : Location}
    (names : disk.Names path place) :
    ∃ directory, disk.locate (Path.directoryOf path) = .ok directory ∧
      disk.node? directory = some .directory := by
  obtain ⟨directory, name, -, aimed, -⟩ := names
  exact ⟨directory, Disk.locate_directoryOf aimed, (target_eq_entry_iff.mp aimed).2.2.1⟩

end Disk

end Emend
