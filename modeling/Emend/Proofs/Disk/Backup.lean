import Emend.Proofs.Disk.Parent

/-!
# Backups

The path of a backup is the path of a file with an ending behind it. It takes the same way as the
path, and only the last name gets the ending. So a backup lies beside its file and is never the file
itself.
-/

namespace Emend

namespace Path

/-! ## Endings -/

theorem pieces_cons_of_ne {c : Char} {text piece : List Char} {rest : List (List Char)}
    (other : c ≠ '/') (split : pieces text = piece :: rest) :
    pieces (c :: text) = (c :: piece) :: rest := by
  rw [pieces.eq_2, split]
  exact if_neg other

/-- An ending without a slash goes to the last piece. -/
theorem exists_pieces_append {ending : List Char} (plain : '/' ∉ ending) (text : List Char) :
    ∃ above last, pieces text = above ++ [last] ∧
      pieces (text ++ ending) = above ++ [last ++ ending] := by
  induction text with
  | nil =>
    refine ⟨[], [], rfl, ?_⟩
    rw [List.nil_append, pieces_eq_splitOn, List.splitOn_eq_singleton plain]
    rfl
  | cons c text ih =>
    obtain ⟨above, last, split, ended⟩ := ih
    by_cases slash : c = '/'
    · refine ⟨[] :: above, last, ?_, ?_⟩
      · rw [slash, List.cons_append, ← split]
        exact pieces_append_slash [] text
      · rw [slash, List.cons_append, List.cons_append, ← ended]
        exact pieces_append_slash [] (text ++ ending)
    · cases above with
      | nil => exact ⟨[], c :: last, pieces_cons_of_ne slash split, pieces_cons_of_ne slash ended⟩
      | cons piece rest =>
        exact ⟨(c :: piece) :: rest, last, pieces_cons_of_ne slash split,
          pieces_cons_of_ne slash ended⟩

theorem step?_eq_down_iff {piece : List Char} {name : String} :
    step? piece = some (.down name) ↔
      piece ≠ [] ∧ piece ≠ here ∧ piece ≠ ['.', '.'] ∧ String.ofList piece = name := by
  unfold step?
  split
  · simp_all
  · split
    · simp_all
    · split <;> simp_all

theorem exists_step? {piece : List Char} (full : piece ≠ []) : ∃ step, step? piece = some step := by
  unfold step?
  rw [if_neg full]
  split
  · exact ⟨_, rfl⟩
  · split
    · exact ⟨_, rfl⟩
    · exact ⟨_, rfl⟩

/-- An ending of three characters or more makes a name of every piece. -/
theorem step?_append {ending : List Char} (long : 2 < ending.length) (piece : List Char) :
    step? (piece ++ ending) = some (.down (String.ofList (piece ++ ending))) := by
  have longer : 2 < (piece ++ ending).length := by
    rw [List.length_append]
    omega
  refine step?_eq_down_iff.mpr ⟨?_, ?_, ?_, rfl⟩ <;>
  · intro same
    rw [same] at longer
    exact absurd longer (by decide)

theorem last_piece_ne_nil {text last : List Char} {above : List (List Char)}
    (split : pieces text = above ++ [last]) (named : text ≠ []) (bare : text.getLast? ≠ some '/') :
    last ≠ [] := by
  obtain ⟨front, c, rfl⟩ := (List.eq_nil_or_concat text).resolve_left named
  rw [List.concat_eq_append] at split bare
  have plain : '/' ∉ [c] := by
    rw [List.getLast?_concat] at bare
    simpa [eq_comm] using bare
  obtain ⟨_, _, -, ended⟩ := exists_pieces_append plain front
  rw [ended] at split
  cases (List.append_inj' split rfl).2
  exact List.concat_ne_nil _ _

/-- The backup of a path that ends in a name takes the same way to the name with the ending. -/
theorem route_backup {path name : String} (last : (route path).steps.getLast? = some (.down name))
    (slash : (route path).slash = false) :
    route (backup path) =
      { route path with steps := (route path).steps.dropLast ++ [.down (name ++ ".bak")] } := by
  have ending_eq : (backup path).toList = path.toList ++ ".bak".toList := String.toList_append
  obtain ⟨above, piece, split, ended⟩ :=
    exists_pieces_append (by decide : '/' ∉ ".bak".toList) path.toList
  have named : path.toList ≠ [] := by
    intro empty
    unfold route at last
    dsimp only at last
    rw [empty] at last
    cases last
  obtain ⟨step, stands⟩ :=
    exists_step? (last_piece_ne_nil split named (by simpa [route] using slash))
  have steps_eq : (route path).steps = above.filterMap step? ++ [step] := by
    unfold route
    dsimp only
    rw [split, List.filterMap_append, List.filterMap_cons_some stands]
    rfl
  rw [steps_eq, List.getLast?_concat] at last
  cases last
  have name_eq := (step?_eq_down_iff.mp stands).2.2.2
  have joined : String.ofList (piece ++ ".bak".toList) = name ++ ".bak" := by
    rw [String.ofList_append, name_eq, String.ofList_toList]
  rw [steps_eq, List.dropLast_concat]
  unfold route at slash ⊢
  dsimp only at slash ⊢
  rw [ending_eq, ended, List.filterMap_append,
    List.filterMap_cons_some (step?_append (by decide) piece), joined, slash]
  congr 1
  · rw [List.head?_append, List.head?_eq_some_head named, Option.some_or]
  · rw [List.getLast?_append]
    rfl

end Path

namespace Disk

variable {disk : Disk} {path : String}

/-- A backup lies beside its file. -/
theorem Names.eq_of_backup {directory place : Location} {name : String}
    (aimed : disk.target path = .ok (.entry directory name false))
    (backup : disk.Names (Path.backup path) place) : place = directory ++ [name ++ ".bak"] := by
  obtain ⟨-, walked, -, last, slash⟩ := target_eq_entry_iff.mp aimed
  obtain ⟨other, otherName, rfl, otherAimed, -⟩ := backup
  obtain ⟨-, otherWalked, -, otherLast, -⟩ := target_eq_entry_iff.mp otherAimed
  rw [Path.route_backup last slash] at otherWalked otherLast
  rw [List.dropLast_concat] at otherWalked
  rw [List.getLast?_concat] at otherLast
  cases walked.symm.trans otherWalked
  cases otherLast
  rfl

/-- A backup is never the file itself. -/
theorem Names.ne_backup {place other : Location} (names : disk.Names path place)
    (backup : disk.Names (Path.backup path) other) : place ≠ other := by
  obtain ⟨directory, name, rfl, aimed, -⟩ := names
  rw [backup.eq_of_backup aimed]
  intro same
  have longer := congrArg String.length (List.cons.inj (List.append_cancel_left same)).1
  rw [String.length_append] at longer
  have size : ".bak".length = 4 := by rfl
  omega

end Disk

end Emend
