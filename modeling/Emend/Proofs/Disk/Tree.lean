import Emend.Disk.Basic
import Emend.Proofs.Checks

/-!
# Trees and walks

On a disk that is a tree everything lies in a directory. A walk asks for directories and for names
that are there, so it leads to the same place on a disk that has gained files and directories. A
path that leads to a file ends in the name of the file: no other step leads to one.
-/

namespace Emend.Disk

variable {disk after : Disk}

/-- Everything lies in a directory, and so do relative paths. -/
structure IsTree (disk : Disk) : Prop where
  workingDirectory : disk.node? disk.workingDirectory = some .directory
  parent : ∀ {location : Location} {name : String},
    (disk.node? (location ++ [name])).isSome → disk.node? location = some .directory

theorem mem_entries_of_node? {location : Location} (named : location ≠ [])
    (present : (disk.node? location).isSome) : location ∈ disk.entries.map Prod.fst := by
  unfold node? at present
  rw [if_neg named, Option.isSome_iff_exists] at present
  obtain ⟨node, found⟩ := present
  obtain ⟨front, rest, entries_eq, _⟩ := List.lookup_eq_some_iff.mp found
  rw [entries_eq, List.map_append]
  exact List.mem_append_right _ (List.mem_cons_self ..)

/-- It is enough to look at what a disk has entries for. -/
theorem isTree_of_entries (here : disk.node? disk.workingDirectory = some .directory)
    (parents : ∀ entry ∈ disk.entries, disk.node? entry.1.dropLast = some .directory) :
    disk.IsTree where
  workingDirectory := here
  parent := by
    intro location name present
    obtain ⟨entry, member, same⟩ :=
      List.mem_map.mp (mem_entries_of_node? (List.concat_ne_nil name location) present)
    have above := parents entry member
    rwa [same, List.dropLast_concat] at above

def small : Disk where
  entries := [(["work"], .directory), (["work", "d"], .directory),
    (["work", "a"], .file "old".toUTF8)]
  workingDirectory := ["work"]

theorem small_isTree : small.IsTree := isTree_of_entries (by rfl) (by decide)

/-- A disk keeps its directories and loses nothing. -/
structure Grows (disk after : Disk) : Prop where
  workingDirectory_eq : after.workingDirectory = disk.workingDirectory
  directory : ∀ {location : Location}, disk.node? location = some .directory →
    after.node? location = some .directory
  present : ∀ {location : Location}, (disk.node? location).isSome →
    (after.node? location).isSome

namespace Grows

theorem refl (disk : Disk) : disk.Grows disk := ⟨rfl, id, id⟩

theorem trans {last : Disk} (first : disk.Grows after) (second : after.Grows last) :
    disk.Grows last where
  workingDirectory_eq := second.workingDirectory_eq.trans first.workingDirectory_eq
  directory := second.directory ∘ first.directory
  present := second.present ∘ first.present

end Grows

/-! ## Checks -/

theorem checkPath_eq_ok_iff {path : String} :
    checkPath path = .ok () ↔
      '\x00' ∉ path.toList ∧ path ≠ "" ∧ path.utf8ByteSize < pathLengthBound := by
  unfold checkPath
  constructor
  · intro checked
    split at checked
    · cases checked
    · rename_i plain
      split at checked
      · cases checked
      · rename_i named
        split at checked
        · cases checked
        · rename_i short
          exact ⟨by simpa using plain, by simpa using named, Nat.lt_of_not_le short⟩
  · rintro ⟨plain, named, short⟩
    rw [if_neg (by simpa using plain), if_neg (by simpa using named),
      if_neg (Nat.not_le_of_lt short)]

theorem checkDirectory_eq_ok_iff {location : Location} :
    disk.checkDirectory location = .ok () ↔ disk.node? location = some .directory := by
  unfold checkDirectory
  split
  · rename_i here
    exact ⟨fun _ => here, fun _ => rfl⟩
  · rename_i other
    constructor
    · intro clash
      cases clash
    · intro here
      exact absurd here other

/-! ## Steps -/

inductive Leads (disk : Disk) (location : Location) : Path.Step → Location → Prop where
  | stay : Leads disk location .stay location
  | up : Leads disk location .up location.dropLast
  | down {name : String} (short : checkName name = .ok ())
      (present : (disk.node? (location ++ [name])).isSome) :
      Leads disk location (.down name) (location ++ [name])

theorem step_eq_ok_iff {location place : Location} {step : Path.Step} :
    disk.step location step = .ok place ↔
      disk.node? location = some .directory ∧ disk.Leads location step place := by
  unfold Disk.step
  constructor
  · intro taken
    obtain ⟨_, directory, taken⟩ := exists_of_bind_eq_ok taken
    refine ⟨checkDirectory_eq_ok_iff.mp directory, ?_⟩
    cases step with
    | stay =>
      cases taken
      exact .stay
    | up =>
      cases taken
      exact .up
    | down name =>
      obtain ⟨_, short, taken⟩ := exists_of_bind_eq_ok taken
      dsimp only at taken
      split at taken
      · cases taken
      · rename_i present
        cases taken
        have there : (disk.node? (location ++ [name])).isSome := by
          simpa [Option.isNone_iff_eq_none, Option.isSome_iff_ne_none] using present
        exact .down short there
  · rintro ⟨directory, leads⟩
    rw [checkDirectory_eq_ok_iff.mpr directory]
    cases leads with
    | stay => rfl
    | up => rfl
    | @down name short present =>
      change checkName name >>= _ = _
      rw [short]
      change (if _ then _ else _) = _
      rw [if_neg (by simpa [Option.isSome_iff_ne_none] using present)]
      rfl

theorem Leads.mono {location place : Location} {step : Path.Step}
    (leads : disk.Leads location step place) (grows : disk.Grows after) :
    after.Leads location step place := by
  cases leads with
  | stay => exact .stay
  | up => exact .up
  | down short present => exact .down short (grows.present present)

/-! ## Walks -/

theorem walk_append (disk : Disk) (start : Location) (first second : List Path.Step) :
    disk.walk start (first ++ second) =
      disk.walk start first >>= fun middle => disk.walk middle second := List.foldlM_append

theorem walk_singleton (disk : Disk) (start : Location) (step : Path.Step) :
    disk.walk start [step] = disk.step start step := by
  unfold walk
  rw [List.foldlM_cons]
  cases disk.step start step <;> rfl

/-- A walk to a directory starts in one. -/
theorem directory_of_walk {start place : Location} {steps : List Path.Step}
    (walked : disk.walk start steps = .ok place) (here : disk.node? place = some .directory) :
    disk.node? start = some .directory := by
  cases steps with
  | nil =>
    cases walked
    exact here
  | cons step rest =>
    obtain ⟨middle, taken, -⟩ := exists_of_bind_eq_ok walked
    exact (step_eq_ok_iff.mp taken).1

/-- A walk leads to the same place on a disk that has gained something. -/
theorem walk_mono {start place : Location} {steps : List Path.Step} (grows : disk.Grows after)
    (walked : disk.walk start steps = .ok place) : after.walk start steps = .ok place := by
  induction steps generalizing start with
  | nil => exact walked
  | cons step rest ih =>
    have split : step :: rest = [step] ++ rest := rfl
    rw [split, walk_append, walk_singleton] at walked ⊢
    obtain ⟨middle, taken, walked⟩ := exists_of_bind_eq_ok walked
    obtain ⟨directory, leads⟩ := step_eq_ok_iff.mp taken
    rw [step_eq_ok_iff.mpr ⟨grows.directory directory, leads.mono grows⟩]
    exact ih walked

theorem startOf_eq {route : Path.Route} (grows : disk.Grows after) :
    after.startOf route = disk.startOf route := by
  unfold startOf
  rw [grows.workingDirectory_eq]

/-! ## Places that paths lead to -/

theorem locate_eq_ok_iff {path : String} {place : Location} :
    disk.locate path = .ok place ↔
      checkPath path = .ok () ∧
      disk.walk (disk.startOf (Path.route path)) (Path.route path).steps = .ok place ∧
      ((Path.route path).slash = true → disk.node? place = some .directory) := by
  unfold locate
  constructor
  · intro located
    obtain ⟨_, checked, located⟩ := exists_of_bind_eq_ok located
    obtain ⟨location, walked, located⟩ := exists_of_bind_eq_ok located
    refine ⟨checked, ?_⟩
    dsimp only at located
    split at located
    · obtain ⟨_, directory, same⟩ := exists_of_bind_eq_ok located
      cases same
      exact ⟨walked, fun _ => checkDirectory_eq_ok_iff.mp directory⟩
    · rename_i plain
      cases located
      exact ⟨walked, fun slash => absurd slash plain⟩
  · rintro ⟨checked, walked, directory⟩
    rw [checked]
    change disk.walk _ _ >>= _ = _
    rw [walked]
    change (if _ then _ else _) = _
    split
    · rename_i slash
      rw [checkDirectory_eq_ok_iff.mpr (directory slash)]
      rfl
    · rfl

theorem target_eq_entry_iff {path name : String} {directory : Location} {slash : Bool} :
    disk.target path = .ok (.entry directory name slash) ↔
      checkPath path = .ok () ∧
      disk.walk (disk.startOf (Path.route path)) (Path.route path).steps.dropLast =
        .ok directory ∧
      disk.node? directory = some .directory ∧
      (Path.route path).steps.getLast? = some (.down name) ∧
      (Path.route path).slash = slash := by
  unfold target
  constructor
  · intro aimed
    obtain ⟨_, checked, aimed⟩ := exists_of_bind_eq_ok aimed
    obtain ⟨location, walked, aimed⟩ := exists_of_bind_eq_ok aimed
    obtain ⟨_, here, aimed⟩ := exists_of_bind_eq_ok aimed
    split at aimed
    · rename_i last
      cases aimed
      exact ⟨checked, walked, checkDirectory_eq_ok_iff.mp here, last, rfl⟩
    · cases aimed
  · rintro ⟨checked, walked, here, last, rfl⟩
    dsimp only
    rw [checked, last]
    change disk.walk _ _ >>= _ = _
    rw [walked]
    change disk.checkDirectory directory >>= _ = _
    rw [checkDirectory_eq_ok_iff.mpr here]
    rfl

theorem locate_mono {path : String} {place : Location} (grows : disk.Grows after)
    (located : disk.locate path = .ok place) : after.locate path = .ok place := by
  obtain ⟨checked, walked, directory⟩ := locate_eq_ok_iff.mp located
  refine locate_eq_ok_iff.mpr ⟨checked, ?_, grows.directory ∘ directory⟩
  rw [startOf_eq grows]
  exact walk_mono grows walked

theorem target_mono {path name : String} {directory : Location} {slash : Bool}
    (grows : disk.Grows after) (aimed : disk.target path = .ok (.entry directory name slash)) :
    after.target path = .ok (.entry directory name slash) := by
  obtain ⟨checked, walked, here, last, ending⟩ := target_eq_entry_iff.mp aimed
  refine target_eq_entry_iff.mpr ⟨checked, ?_, grows.directory here, last, ending⟩
  rw [startOf_eq grows]
  exact walk_mono grows walked

/-- A walk to a directory passes directories only, so it is a walk on every disk that has them. -/
theorem walk_of_directories {start place : Location} {steps : List Path.Step}
    (kept : ∀ {place : Location}, after.node? place = some .directory →
      disk.node? place = some .directory)
    (here : after.node? place = some .directory) (walked : after.walk start steps = .ok place) :
    disk.walk start steps = .ok place := by
  induction steps generalizing start with
  | nil => exact walked
  | cons step rest ih =>
    have split : step :: rest = [step] ++ rest := rfl
    rw [split, walk_append, walk_singleton] at walked ⊢
    obtain ⟨middle, taken, walked⟩ := exists_of_bind_eq_ok walked
    obtain ⟨directory, leads⟩ := step_eq_ok_iff.mp taken
    have passed := kept (directory_of_walk walked here)
    have leads : disk.Leads start step middle := by
      cases leads with
      | stay => exact .stay
      | up => exact .up
      | down short _ => exact .down short (Option.isSome_of_eq_some passed)
    rw [step_eq_ok_iff.mpr ⟨kept directory, leads⟩]
    exact ih walked

theorem target_of_directories {path name : String} {directory : Location} {slash : Bool}
    (workingDirectory_eq : after.workingDirectory = disk.workingDirectory)
    (kept : ∀ {place : Location}, after.node? place = some .directory →
      disk.node? place = some .directory)
    (aimed : after.target path = .ok (.entry directory name slash)) :
    disk.target path = .ok (.entry directory name slash) := by
  obtain ⟨checked, walked, here, last, ending⟩ := target_eq_entry_iff.mp aimed
  refine target_eq_entry_iff.mpr ⟨checked, ?_, kept here, last, ending⟩
  unfold startOf at walked ⊢
  rw [workingDirectory_eq] at walked
  exact walk_of_directories kept here walked

theorem locate_of_target {path name : String} {directory : Location} {slash : Bool}
    (aimed : disk.target path = .ok (.entry directory name slash))
    (short : checkName name = .ok ()) (present : (disk.node? (directory ++ [name])).isSome)
    (ending : slash = true → disk.node? (directory ++ [name]) = some .directory) :
    disk.locate path = .ok (directory ++ [name]) := by
  obtain ⟨checked, walked, here, last, rfl⟩ := target_eq_entry_iff.mp aimed
  refine locate_eq_ok_iff.mpr ⟨checked, ?_, ending⟩
  obtain ⟨front, steps_eq⟩ := List.getLast?_eq_some_iff.mp last
  rw [steps_eq, List.dropLast_concat] at walked
  rw [steps_eq, walk_append, walked]
  change disk.walk directory [.down name] = _
  rw [walk_singleton]
  exact step_eq_ok_iff.mpr ⟨here, .down short present⟩

/-- On a tree, what lies above something is a directory. -/
theorem IsTree.dropLast {location : Location} (tree : disk.IsTree)
    (here : disk.node? location = some .directory) :
    disk.node? location.dropLast = some .directory := by
  rcases List.eq_nil_or_concat location with rfl | ⟨front, name, rfl⟩
  · exact here
  · rw [List.concat_eq_append] at here ⊢
    rw [List.dropLast_concat]
    exact tree.parent (Option.isSome_of_eq_some here)

theorem IsTree.startOf (tree : disk.IsTree) (route : Path.Route) :
    disk.node? (disk.startOf route) = some .directory := by
  unfold Disk.startOf
  split
  · rfl
  · exact tree.workingDirectory

theorem target_eq_place_iff {path : String} :
    disk.target path = .ok .place ↔
      checkPath path = .ok () ∧
      (∃ directory, disk.walk (disk.startOf (Path.route path)) (Path.route path).steps.dropLast =
        .ok directory ∧ disk.node? directory = some .directory) ∧
      ∀ name, (Path.route path).steps.getLast? ≠ some (.down name) := by
  unfold target
  constructor
  · intro aimed
    obtain ⟨_, checked, aimed⟩ := exists_of_bind_eq_ok aimed
    obtain ⟨directory, walked, aimed⟩ := exists_of_bind_eq_ok aimed
    obtain ⟨_, here, aimed⟩ := exists_of_bind_eq_ok aimed
    refine ⟨checked, ⟨directory, walked, checkDirectory_eq_ok_iff.mp here⟩, ?_⟩
    intro name last
    rw [last] at aimed
    cases aimed
  · rintro ⟨checked, ⟨directory, walked, here⟩, other⟩
    dsimp only
    rw [checked]
    change disk.walk _ _ >>= _ = _
    rw [walked]
    change disk.checkDirectory directory >>= _ = _
    rw [checkDirectory_eq_ok_iff.mpr here, ok_bind]
    split
    · rename_i name last
      exact absurd last (other name)
    · rfl

/-- On a tree, what a path leads to is a directory, or the path ends in its name. -/
theorem target_cases {path : String} {place : Location} (tree : disk.IsTree)
    (located : disk.locate path = .ok place) :
    disk.target path = .ok .place ∧ disk.node? place = some .directory ∨
      ∃ directory name slash, disk.target path = .ok (.entry directory name slash) ∧
        checkName name = .ok () ∧ place = directory ++ [name] ∧ (disk.node? place).isSome ∧
        (slash = true → disk.node? place = some .directory) := by
  obtain ⟨checked, walked, ending⟩ := locate_eq_ok_iff.mp located
  have start := tree.startOf (Path.route path)
  rcases List.eq_nil_or_concat (Path.route path).steps with none | ⟨front, step, steps_eq⟩
  · rw [none] at walked
    cases walked
    refine .inl ⟨target_eq_place_iff.mpr ⟨checked, ?_, ?_⟩, start⟩
    · rw [none]
      exact ⟨_, rfl, start⟩
    · rw [none]
      exact nofun
  · rw [List.concat_eq_append] at steps_eq
    rw [steps_eq, walk_append] at walked
    obtain ⟨directory, above, walked⟩ := exists_of_bind_eq_ok walked
    rw [walk_singleton] at walked
    obtain ⟨here, leads⟩ := step_eq_ok_iff.mp walked
    have front_eq : (Path.route path).steps.dropLast = front := by
      rw [steps_eq, List.dropLast_concat]
    have last : (Path.route path).steps.getLast? = some step := by
      rw [steps_eq, List.getLast?_concat]
    rw [← front_eq] at above
    cases leads with
    | stay =>
      refine .inl ⟨target_eq_place_iff.mpr ⟨checked, ⟨_, above, here⟩, ?_⟩, here⟩
      rw [last]
      exact nofun
    | up =>
      refine .inl ⟨target_eq_place_iff.mpr ⟨checked, ⟨_, above, here⟩, ?_⟩, tree.dropLast here⟩
      rw [last]
      exact nofun
    | @down name short present =>
      exact .inr ⟨directory, name, _, target_eq_entry_iff.mpr ⟨checked, above, here, last, rfl⟩,
        short, rfl, present, ending⟩

/-! ## Places that paths name -/

/-- A path names a place: a file that is written there lies in this place. -/
def Names (disk : Disk) (path : String) (place : Location) : Prop :=
  ∃ directory name, place = directory ++ [name] ∧
    disk.target path = .ok (.entry directory name false) ∧ checkName name = .ok ()

namespace Names

variable {path : String} {place : Location}

theorem ne_nil (names : disk.Names path place) : place ≠ [] := by
  obtain ⟨directory, name, rfl, -⟩ := names
  exact List.concat_ne_nil name directory

theorem mono (names : disk.Names path place) (grows : disk.Grows after) :
    after.Names path place := by
  obtain ⟨directory, name, same, aimed, short⟩ := names
  exact ⟨directory, name, same, target_mono grows aimed, short⟩

/-- A path that names a place names it on every disk that has the directories. -/
theorem of_directories (names : after.Names path place)
    (workingDirectory_eq : after.workingDirectory = disk.workingDirectory)
    (kept : ∀ {place : Location}, after.node? place = some .directory →
      disk.node? place = some .directory) : disk.Names path place := by
  obtain ⟨directory, name, same, aimed, short⟩ := names
  exact ⟨directory, name, same, target_of_directories workingDirectory_eq kept aimed, short⟩

theorem unique {other : Location} (names : disk.Names path place)
    (others : disk.Names path other) : place = other := by
  obtain ⟨directory, name, rfl, aimed, -⟩ := names
  obtain ⟨_, _, rfl, otherAimed, -⟩ := others
  cases aimed.symm.trans otherAimed
  rfl

theorem locate (names : disk.Names path place) (present : (disk.node? place).isSome) :
    disk.locate path = .ok place := by
  obtain ⟨directory, name, rfl, aimed, short⟩ := names
  exact locate_of_target aimed short present Bool.noConfusion

end Names

/-- On a tree, a path that leads to a file names it. -/
theorem names_of_locate {path : String} {place : Location} {content : ByteArray}
    (tree : disk.IsTree) (located : disk.locate path = .ok place)
    (holds : disk.node? place = some (.file content)) : disk.Names path place := by
  rcases target_cases tree located with
    ⟨-, here⟩ | ⟨directory, name, slash, aimed, short, rfl, -, ending⟩
  · cases here.symm.trans holds
  · cases slash with
    | false => exact ⟨directory, name, rfl, aimed, short⟩
    | true => cases (ending rfl).symm.trans holds

/-! ## Putting and removing -/

theorem grows_put {location : Location} {node : Node} (named : location ≠ [])
    (spared : disk.node? location = some .directory → node = .directory) :
    disk.Grows (disk.put location node) where
  workingDirectory_eq := rfl
  directory := by
    intro place here
    rw [node?_put disk location place node named]
    split
    · rename_i same
      cases same
      exact congrArg some (spared here)
    · exact here
  present := by
    intro place here
    rw [node?_put disk location place node named]
    split
    · rfl
    · exact here

/-- A tree stays one when it grows by what a directory gets. -/
theorem IsTree.of_grows {directory : Location} {name : String} (tree : disk.IsTree)
    (grows : disk.Grows after) (here : disk.node? directory = some .directory)
    (same : ∀ place, place ≠ directory ++ [name] → after.node? place = disk.node? place) :
    after.IsTree where
  workingDirectory := by
    rw [grows.workingDirectory_eq]
    exact grows.directory tree.workingDirectory
  parent := by
    intro location other present
    by_cases new : location ++ [other] = directory ++ [name]
    · cases (List.append_inj' new rfl).1
      exact grows.directory here
    · rw [same _ new] at present
      exact grows.directory (tree.parent present)

end Emend.Disk
