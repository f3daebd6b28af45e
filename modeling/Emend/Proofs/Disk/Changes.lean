import Emend.Proofs.Disk.Tree

/-!
# Changes of a disk

When a change of a disk succeeds, and what it leaves. A file that is written, a copy and a new
directory appear at one place, the one that the path names. Directories that are made together
appear only where nothing was, each where one of the paths leads.
-/

namespace Emend.Disk

variable {disk after : Disk}

/-- Two disks on which every path and every place shows the same. -/
structure Alike (disk after : Disk) : Prop where
  workingDirectory_eq : after.workingDirectory = disk.workingDirectory
  node?_eq : ∀ place, after.node? place = disk.node? place

theorem Alike.refl (disk : Disk) : disk.Alike disk := ⟨rfl, fun _ => rfl⟩

theorem Alike.grows (alike : disk.Alike after) : disk.Grows after where
  workingDirectory_eq := alike.workingDirectory_eq
  directory := fun here => (alike.node?_eq _).trans here
  present := fun here => (alike.node?_eq _) ▸ here

theorem Alike.tree (alike : disk.Alike after) (tree : disk.IsTree) : after.IsTree where
  workingDirectory := by
    rw [alike.node?_eq, alike.workingDirectory_eq]
    exact tree.workingDirectory
  parent := by
    intro location name present
    rw [alike.node?_eq] at present ⊢
    exact tree.parent present

/-! ## Files -/

/-- A file was written: the place that a path names holds a content, and nothing else changed. -/
structure Wrote (disk after : Disk) (path : String) (content : ByteArray) (place : Location) :
    Prop where
  named : disk.Names path place
  spared : disk.node? place ≠ some .directory
  workingDirectory_eq : after.workingDirectory = disk.workingDirectory
  node?_eq : ∀ other, after.node? other =
    if other = place then some (.file content) else disk.node? other

theorem write_eq_ok_iff {path : String} {content : ByteArray} :
    disk.write path content = .ok after ↔
      ∃ place, disk.Names path place ∧ disk.node? place ≠ some .directory ∧
        after = disk.put place (.file content) := by
  unfold write
  constructor
  · intro written
    obtain ⟨aim, aimed, written⟩ := exists_of_bind_eq_ok written
    cases aim with
    | place => cases written
    | entry directory name slash =>
      cases slash with
      | true => cases written
      | false =>
        obtain ⟨_, short, written⟩ := exists_of_bind_eq_ok written
        dsimp only at written
        split at written
        · cases written
        · rename_i other
          cases written
          exact ⟨directory ++ [name], ⟨directory, name, rfl, aimed, short⟩, other, rfl⟩
  · rintro ⟨place, ⟨directory, name, rfl, aimed, short⟩, other, rfl⟩
    rw [aimed]
    change checkName name >>= _ = _
    rw [short]
    change (if _ then _ else _) = _
    rw [if_neg other]
    rfl

theorem wrote_of_write {path : String} {content : ByteArray}
    (written : disk.write path content = .ok after) :
    ∃ place, disk.Wrote after path content place := by
  obtain ⟨place, named, other, rfl⟩ := write_eq_ok_iff.mp written
  exact ⟨place, named, other, rfl, fun place => node?_put disk _ place _ named.ne_nil⟩

/-- A file can be written wherever a path names a place that is no directory. -/
theorem exists_write {path : String} {place : Location} (names : disk.Names path place)
    (spared : disk.node? place ≠ some .directory) (content : ByteArray) :
    ∃ after, disk.write path content = .ok after :=
  ⟨_, write_eq_ok_iff.mpr ⟨place, names, spared, rfl⟩⟩

namespace Wrote

variable {path : String} {content : ByteArray} {place : Location}

theorem grows (wrote : disk.Wrote after path content place) : disk.Grows after where
  workingDirectory_eq := wrote.workingDirectory_eq
  directory := by
    intro other here
    rw [wrote.node?_eq]
    split
    · rename_i same
      rw [same] at here
      exact absurd here wrote.spared
    · exact here
  present := by
    intro other here
    rw [wrote.node?_eq]
    split
    · rfl
    · exact here

theorem directory_of_directory (wrote : disk.Wrote after path content place) {other : Location}
    (here : after.node? other = some .directory) : disk.node? other = some .directory := by
  rw [wrote.node?_eq] at here
  split at here
  · cases here
  · exact here

theorem tree (wrote : disk.Wrote after path content place) (tree : disk.IsTree) : after.IsTree := by
  obtain ⟨directory, name, rfl, aimed, -⟩ := wrote.named
  obtain ⟨-, -, here, -⟩ := target_eq_entry_iff.mp aimed
  have others : ∀ other, other ≠ directory ++ [name] → after.node? other = disk.node? other := by
    intro other different
    rw [wrote.node?_eq, if_neg different]
  exact tree.of_grows wrote.grows here others

/-- No other path names something new. -/
theorem names (wrote : disk.Wrote after path content place) {other : String} {elsewhere : Location}
    (names : after.Names other elsewhere) : disk.Names other elsewhere :=
  names.of_directories wrote.workingDirectory_eq wrote.directory_of_directory

end Wrote

theorem copy_eq_ok_iff {source path : String} :
    disk.copy source path = .ok after ↔
      ∃ place content, disk.locate source = .ok place ∧
        disk.node? place = some (.file content) ∧ disk.write path content = .ok after := by
  unfold copy
  constructor
  · intro copied
    obtain ⟨place, located, copied⟩ := exists_of_bind_eq_ok copied
    split at copied
    · rename_i content holds
      exact ⟨place, content, located, holds, copied⟩
    · cases copied
  · rintro ⟨place, content, located, holds, written⟩
    rw [located, ok_bind, holds]
    exact written

theorem read_eq_ok_iff {path : String} {content : ByteArray} :
    disk.read path = .ok content ↔
      ∃ place, disk.locate path = .ok place ∧ disk.node? place = some (.file content) := by
  unfold read
  constructor
  · intro found
    obtain ⟨place, located, found⟩ := exists_of_bind_eq_ok found
    split at found
    · rename_i content holds
      cases found
      exact ⟨place, located, holds⟩
    · cases found
  · rintro ⟨place, located, holds⟩
    rw [located, ok_bind, holds]
    rfl

/-- On a tree, a path that is read names the place of what is read. -/
theorem exists_names_of_read {path : String} {content : ByteArray} (tree : disk.IsTree)
    (held : disk.read path = .ok content) :
    ∃ place, disk.locate path = .ok place ∧ disk.node? place = some (.file content) ∧
      disk.Names path place := by
  obtain ⟨place, located, holds⟩ := read_eq_ok_iff.mp held
  exact ⟨place, located, holds, names_of_locate tree located holds⟩

theorem ne_directory_of_file {place : Location} {content : ByteArray}
    (holds : disk.node? place = some (.file content)) : disk.node? place ≠ some .directory := by
  intro here
  cases holds.symm.trans here

theorem readText_eq_ok_iff {path text : String} :
    disk.readText path = .ok text ↔ disk.read path = .ok text.toUTF8 := by
  unfold readText
  constructor
  · intro loaded
    obtain ⟨bytes, found, loaded⟩ := exists_of_bind_eq_ok loaded
    rw [found]
    unfold String.fromUTF8? at loaded
    split at loaded
    · rename_i same
      split at same
      · cases same
        cases loaded
        rfl
      · cases same
    · cases loaded
  · intro found
    rw [found, ok_bind]
    unfold String.fromUTF8?
    have valid : text.toUTF8.IsValidUTF8 := text.isValidUTF8
    rw [dif_pos valid]
    rfl

theorem exists_wrote_of_copy {source path : String} (copied : disk.copy source path = .ok after) :
    ∃ content place, disk.read source = .ok content ∧ disk.Wrote after path content place := by
  obtain ⟨found, content, located, holds, written⟩ := copy_eq_ok_iff.mp copied
  obtain ⟨place, wrote⟩ := wrote_of_write written
  exact ⟨content, place, read_eq_ok_iff.mpr ⟨found, located, holds⟩, wrote⟩

theorem Wrote.read {path : String} {content : ByteArray} {place : Location}
    (wrote : disk.Wrote after path content place) : after.read path = .ok content := by
  have holds : after.node? place = some (.file content) := by
    rw [wrote.node?_eq, if_pos rfl]
  have located := (wrote.named.mono wrote.grows).locate (Option.isSome_of_eq_some holds)
  exact read_eq_ok_iff.mpr ⟨place, located, holds⟩

theorem leads_eq_true_iff {path : String} :
    disk.leads path = true ↔ ∃ place, disk.locate path = .ok place := by
  unfold leads
  constructor
  · exact exists_of_isOk
  · rintro ⟨place, located⟩
    rw [located]
    rfl

theorem leads_of_read {path : String} {content : ByteArray}
    (found : disk.read path = .ok content) : disk.leads path = true := by
  obtain ⟨place, located, -⟩ := read_eq_ok_iff.mp found
  exact leads_eq_true_iff.mpr ⟨place, located⟩

/-! ## Directories -/

theorem makeDirectory_eq_ok_iff {path : String} :
    disk.makeDirectory path = .ok after ↔
      ∃ directory name slash, disk.target path = .ok (.entry directory name slash) ∧
        checkName name = .ok () ∧ disk.node? (directory ++ [name]) = none ∧
        after = disk.put (directory ++ [name]) .directory := by
  unfold makeDirectory
  constructor
  · intro made
    obtain ⟨aim, aimed, made⟩ := exists_of_bind_eq_ok made
    cases aim with
    | place => cases made
    | entry directory name slash =>
      obtain ⟨_, short, made⟩ := exists_of_bind_eq_ok made
      dsimp only at made
      split at made
      · cases made
      · rename_i absent
        cases made
        exact ⟨directory, name, slash, aimed, short, by simpa using absent, rfl⟩
  · rintro ⟨directory, name, slash, aimed, short, absent, rfl⟩
    rw [aimed]
    change checkName name >>= _ = _
    rw [short]
    change (if _ then _ else _) = _
    rw [absent]
    rfl

theorem makeDirectory_of_present {path : String} {place : Location} (tree : disk.IsTree)
    (located : disk.locate path = .ok place) :
    disk.makeDirectory path = .error .alreadyExists := by
  unfold makeDirectory
  rcases target_cases tree located with
    ⟨aimed, -⟩ | ⟨directory, name, slash, aimed, short, rfl, present, -⟩
  · rw [aimed]
    rfl
  · rw [aimed]
    change checkName name >>= _ = _
    rw [short]
    exact if_pos present

theorem makeChain_of_present {path : String} {place : Location} (tree : disk.IsTree)
    (located : disk.locate path = .ok place) (here : disk.node? place = some .directory)
    (outer : List String) : disk.makeChain (path :: outer) = (.ok (), disk) := by
  have directory : disk.isDirectory path = true := by
    unfold isDirectory
    rw [located]
    exact decide_eq_true here
  unfold makeChain
  rw [makeDirectory_of_present tree located]
  dsimp only
  rw [directory]
  rfl

/-- What making directories leaves: a tree if there was one, with nothing changed but for
directories where nothing was, to each of which one of the paths leads. -/
structure Gains (disk after : Disk) (paths : List String) : Prop where
  grows : disk.Grows after
  tree : disk.IsTree → after.IsTree
  gained : ∀ place, after.node? place = disk.node? place ∨
    disk.node? place = none ∧ after.node? place = some .directory ∧
      ∃ path ∈ paths, after.locate path = .ok place

namespace Gains

variable {paths : List String}

theorem refl (disk : Disk) (paths : List String) : disk.Gains disk paths :=
  ⟨.refl disk, id, fun _ => .inl rfl⟩

theorem trans {last : Disk} (first : disk.Gains after paths) (second : after.Gains last paths) :
    disk.Gains last paths where
  grows := first.grows.trans second.grows
  tree := second.tree ∘ first.tree
  gained := by
    intro place
    rcases second.gained place with same | ⟨absent, here, leads⟩
    · rw [same]
      rcases first.gained place with same | ⟨absent, here, path, member, located⟩
      · exact .inl same
      · exact .inr ⟨absent, here, path, member, locate_mono second.grows located⟩
    · rcases first.gained place with same | ⟨_, there, _⟩
      · exact .inr ⟨same.symm.trans absent, here, leads⟩
      · cases absent.symm.trans there

theorem mono {more : List String} (gains : disk.Gains after paths) (within : paths ⊆ more) :
    disk.Gains after more where
  grows := gains.grows
  tree := gains.tree
  gained := by
    intro place
    rcases gains.gained place with same | ⟨absent, here, path, member, located⟩
    · exact .inl same
    · exact .inr ⟨absent, here, path, within member, located⟩

theorem node?_eq_file_iff (gains : disk.Gains after paths) {place : Location}
    {content : ByteArray} :
    after.node? place = some (.file content) ↔ disk.node? place = some (.file content) := by
  rcases gains.gained place with same | ⟨absent, here, _⟩
  · rw [same]
  · rw [absent, here]
    constructor
    · intro clash
      cases clash
    · intro clash
      cases clash

end Gains

/-- A new directory is all that is gained by making it. -/
theorem gains_of_makeDirectory {path : String} (made : disk.makeDirectory path = .ok after) :
    disk.Gains after [path] := by
  obtain ⟨directory, name, slash, aimed, short, absent, rfl⟩ := makeDirectory_eq_ok_iff.mp made
  have named := List.concat_ne_nil name directory
  have grows : disk.Grows (disk.put (directory ++ [name]) .directory) :=
    grows_put named fun _ => rfl
  have here : (disk.put (directory ++ [name]) .directory).node? (directory ++ [name]) =
      some .directory := by
    rw [node?_put disk _ _ _ named, if_pos rfl]
  obtain ⟨_, _, above, _⟩ := target_eq_entry_iff.mp aimed
  have others : ∀ place, place ≠ directory ++ [name] →
      (disk.put (directory ++ [name]) .directory).node? place = disk.node? place := by
    intro place different
    rw [node?_put disk _ _ _ named, if_neg different]
  refine ⟨grows, fun tree => tree.of_grows grows above others, ?_⟩
  intro place
  by_cases same : place = directory ++ [name]
  · cases same
    have located := locate_of_target (target_mono grows aimed) short
      (Option.isSome_of_eq_some here) fun _ => here
    exact .inr ⟨absent, here, path, List.mem_singleton_self path, located⟩
  · exact .inl (others place same)

/-- What is made on the way to several directories stays, also when the last one is refused. -/
theorem gains_makeChain (disk : Disk) (paths : List String) :
    disk.Gains (disk.makeChain paths).2 paths := by
  induction paths generalizing disk with
  | nil => exact .refl disk []
  | cons path outer ih =>
    have first : [path] ⊆ path :: outer := List.cons_subset_cons path (List.nil_subset outer)
    have others : outer ⊆ path :: outer := List.subset_cons_self path outer
    unfold makeChain
    cases made : disk.makeDirectory path with
    | ok next => exact (gains_of_makeDirectory made).mono first
    | error fault =>
      cases fault with
      | notFound =>
        have above := (ih disk).mono others
        cases chained : disk.makeChain outer with
        | mk result middle =>
          rw [chained] at above
          cases result with
          | error fault => exact above
          | ok _ =>
            dsimp only
            cases again : middle.makeDirectory path with
            | ok next => exact above.trans ((gains_of_makeDirectory again).mono first)
            | error fault => exact above
      | _ => exact .refl disk _

end Emend.Disk
