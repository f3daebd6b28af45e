import Emend.Proofs.Disk.Changes

/-!
# Temporary files

A temporary file gets a name that is free, so making it hides nothing and removing it restores
what was there. When it is moved to a path, only the place that the path names changes. Names
never run out: a disk has fewer entries than there are names to try.
-/

namespace Emend.Disk

variable {disk after middle : Disk}

/-! ## Free names -/

theorem temporaryName_injective {first second : Nat}
    (same : temporaryName first = temporaryName second) : first = second := by
  have digits : first.repr.toList = second.repr.toList := by
    have chars := congrArg String.toList same
    unfold temporaryName at chars
    rw [String.toList_append, String.toList_append] at chars
    exact List.append_cancel_left chars
  rw [Nat.toList_repr, Nat.toList_repr] at digits
  have numbers := congrArg (Nat.ofDigitChars 10 · 0) digits
  rw [Nat.ofDigitChars_ten_toDigits, Nat.ofDigitChars_ten_toDigits] at numbers
  exact numbers

theorem node?_freeName (disk : Disk) (directory : Location) :
    disk.node? (directory ++ [disk.freeName directory]) = none := by
  unfold freeName
  dsimp only
  cases found : (List.range (disk.entries.length + 1)).find? fun index =>
      (disk.node? (directory ++ [temporaryName index])).isNone with
  | some index =>
    have free := List.find?_some found
    exact Option.isNone_iff_eq_none.mp free
  | none =>
    -- Every name that was tried would be one of fewer entries.
    let tried := (List.range (disk.entries.length + 1)).map fun index =>
      directory ++ [temporaryName index]
    have distinct : tried.Nodup := by
      refine List.Pairwise.map _ ?_ List.nodup_range
      intro first second different same
      exact different (temporaryName_injective (List.cons.inj (List.append_cancel_left same)).1)
    have taken : tried ⊆ disk.entries.map Prod.fst := by
      intro location member
      obtain ⟨index, inside, rfl⟩ := List.mem_map.mp member
      have present := List.find?_eq_none.mp found index inside
      exact mem_entries_of_node? (List.concat_ne_nil _ _)
        (by simpa [Option.isSome_iff_ne_none] using present)
    have fewer := distinct.length_le_of_subset taken
    rw [List.length_map, List.length_map, List.length_range] at fewer
    exact absurd fewer (Nat.not_succ_le_self _)

/-! ## Making and removing -/

theorem makeTemporary_eq_ok_iff {directory : String} {content : ByteArray} {location : Location} :
    disk.makeTemporary directory content = .ok (location, after) ↔
      disk.temporaryPathLength directory < pathLengthBound ∧
      ∃ parent, disk.locate directory = .ok parent ∧ disk.node? parent = some .directory ∧
        location = parent ++ [disk.freeName parent] ∧
        after = disk.put location (.file content) := by
  unfold makeTemporary checkTemporary
  constructor
  · intro made
    obtain ⟨_, -, made⟩ := exists_of_bind_eq_ok made
    obtain ⟨_, bounded, made⟩ := exists_of_bind_eq_ok made
    obtain ⟨parent, located, made⟩ := exists_of_bind_eq_ok made
    obtain ⟨_, here, made⟩ := exists_of_bind_eq_ok made
    split at bounded
    · cases bounded
    · rename_i short
      cases made
      exact ⟨Nat.lt_of_not_le short, parent, located, checkDirectory_eq_ok_iff.mp here, rfl, rfl⟩
  · rintro ⟨short, parent, located, here, rfl, rfl⟩
    rw [(locate_eq_ok_iff.mp located).1, if_neg (Nat.not_le_of_lt short), located]
    change disk.checkDirectory parent >>= _ = _
    rw [checkDirectory_eq_ok_iff.mpr here]
    rfl

theorem temporaryPathLength_eq (grows : disk.Grows after) (directory : String) :
    after.temporaryPathLength directory = disk.temporaryPathLength directory := by
  unfold temporaryPathLength fromRoot
  rw [grows.workingDirectory_eq]

theorem utf8ByteSize_le_fromRoot (disk : Disk) (path : String) :
    path.utf8ByteSize ≤ (disk.fromRoot path).utf8ByteSize := by
  unfold fromRoot
  split
  · exact Nat.le_refl _
  · rw [String.utf8ByteSize_append]
    exact Nat.le_add_left ..

/-- A directory whose path is too long for a temporary file holds none. -/
theorem makeTemporary_of_tooLong {directory : String} {content : ByteArray}
    (checked : checkPath directory = .ok ())
    (tooLong : pathLengthBound ≤ disk.temporaryPathLength directory) :
    disk.makeTemporary directory content = .error .nameTooLong := by
  unfold makeTemporary checkTemporary
  rw [checked, if_pos tooLong]
  rfl

/-- A file was put where nothing was. -/
structure Staged (disk middle : Disk) (location : Location) (content : ByteArray) : Prop where
  absent : disk.node? location = none
  middle_eq : middle = disk.put location (.file content)

/-- A temporary file is put where nothing was. -/
theorem staged_of_makeTemporary {directory : String} {content : ByteArray} {location : Location}
    (made : disk.makeTemporary directory content = .ok (location, middle)) :
    disk.Staged middle location content := by
  obtain ⟨_, parent, _, _, rfl, middle_eq⟩ := makeTemporary_eq_ok_iff.mp made
  exact ⟨disk.node?_freeName parent, middle_eq⟩

namespace Staged

variable {location : Location} {content : ByteArray}

theorem named (staged : disk.Staged middle location content) : location ≠ [] := by
  rintro rfl
  cases staged.absent

theorem node?_eq (staged : disk.Staged middle location content) (place : Location) :
    middle.node? place = if place = location then some (.file content) else disk.node? place := by
  rw [staged.middle_eq, node?_put _ _ _ _ staged.named]

theorem grows (staged : disk.Staged middle location content) : disk.Grows middle := by
  rw [staged.middle_eq]
  refine grows_put staged.named ?_
  intro clash
  cases staged.absent.symm.trans clash

theorem directory_of_directory (staged : disk.Staged middle location content) {place : Location}
    (here : middle.node? place = some .directory) : disk.node? place = some .directory := by
  rw [staged.node?_eq] at here
  split at here
  · cases here
  · exact here

/-- Removing the file restores what was there. -/
theorem alike_remove (staged : disk.Staged middle location content) :
    disk.Alike (middle.remove location) where
  workingDirectory_eq := staged.grows.workingDirectory_eq
  node?_eq := by
    intro place
    rw [node?_remove _ _ _ staged.named, staged.node?_eq]
    split
    · rename_i same
      rw [same, staged.absent]
    · rfl

end Staged

/-! ## Moving -/

theorem rename_eq_ok_iff {source : Location} {path : String} :
    disk.rename source path = .ok after ↔
      ∃ place node, disk.Names path place ∧ disk.node? place ≠ some .directory ∧
        disk.node? source = some node ∧ after = (disk.remove source).put place node := by
  unfold rename
  constructor
  · intro moved
    obtain ⟨aim, aimed, moved⟩ := exists_of_bind_eq_ok moved
    have aimed := eq_ok_of_mapError_eq_ok aimed
    cases aim with
    | place => cases moved
    | entry directory name slash =>
      obtain ⟨_, short, moved⟩ := exists_of_bind_eq_ok moved
      cases slash with
      | true => cases moved
      | false =>
        dsimp only [Bool.false_eq_true, ↓reduceIte] at moved
        refine ⟨directory ++ [name], ?_⟩
        have named : disk.Names path (directory ++ [name]) := ⟨directory, name, rfl, aimed, short⟩
        have other : disk.node? (directory ++ [name]) ≠ some .directory := by
          intro there
          rw [there] at moved
          cases moved
        cases holds : disk.node? source with
        | none =>
          rw [holds] at moved
          cases there : disk.node? (directory ++ [name]) with
          | none =>
            rw [there] at moved
            cases moved
          | some found =>
            rw [there] at moved
            cases found with
            | directory => cases moved
            | file content => cases moved
        | some node =>
          rw [holds] at moved
          refine ⟨node, named, other, rfl, ?_⟩
          cases there : disk.node? (directory ++ [name]) with
          | none =>
            rw [there] at moved
            cases moved
            rfl
          | some found =>
            rw [there] at moved
            cases found with
            | directory => cases moved
            | file content =>
              cases moved
              rfl
  · rintro ⟨place, node, ⟨directory, name, rfl, aimed, short⟩, other, holds, rfl⟩
    rw [aimed]
    change checkName name >>= _ = _
    rw [short, ok_bind, holds]
    dsimp only [Bool.false_eq_true, ↓reduceIte]
    cases there : disk.node? (directory ++ [name]) with
    | none => rfl
    | some found =>
      cases found with
      | directory => exact absurd there other
      | file content => rfl

/-- A temporary file that was moved to a path is what the path names, and nothing else changed. -/
theorem wrote_of_rename {path directory : String} {content : ByteArray} {location : Location}
    (made : disk.makeTemporary directory content = .ok (location, middle))
    (moved : middle.rename location path = .ok after) :
    ∃ place, disk.Wrote after path content place := by
  have staged := staged_of_makeTemporary made
  obtain ⟨place, node, named, other, holds, rfl⟩ := rename_eq_ok_iff.mp moved
  rw [staged.node?_eq, if_pos rfl] at holds
  cases holds
  have spared : disk.node? place ≠ some .directory :=
    fun here => other (staged.grows.directory here)
  have workingDirectory_eq := staged.grows.workingDirectory_eq
  refine ⟨place, named.of_directories workingDirectory_eq staged.directory_of_directory, spared,
    workingDirectory_eq, ?_⟩
  intro elsewhere
  rw [node?_put _ _ _ _ named.ne_nil, staged.alike_remove.node?_eq]

end Emend.Disk
