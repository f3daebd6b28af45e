import Emend.Proofs.Revision.Course
import Mathlib.Data.List.Basic

/-!
# All or nothing

A revision that fails leaves every file as it was, makes none and removes none. When it fails
before it delivers anything, it leaves the disk as it was; later it may leave directories that it
made on the way to its output. One thing may be left behind: the backup of an atomic revision, when
the path of a temporary file beside the output would be too long. Once a backup is there, no other
write can fail.
-/

namespace Emend

namespace Disk

/-- Nothing has changed but for new directories above a path. -/
structure OnlyRoom (disk after : Disk) (path : String) : Prop where
  files : ∀ (place : Location) (content : ByteArray),
    after.node? place = some (.file content) ↔ disk.node? place = some (.file content)
  gained : ∀ place, after.node? place = disk.node? place ∨
    disk.node? place = none ∧ after.node? place = some .directory ∧
      ∃ directory ∈ Path.above path, after.locate directory = .ok place

variable {disk after : Disk} {path : String}

theorem OnlyRoom.refl (disk : Disk) (path : String) : disk.OnlyRoom disk path :=
  ⟨fun _ _ => Iff.rfl, fun _ => .inl rfl⟩

theorem onlyRoom_roomFor (disk : Disk) (path : String) :
    disk.OnlyRoom (disk.roomFor path) path := by
  have gains := gains_makeChain disk (Path.above path)
  exact ⟨fun _ _ => gains.node?_eq_file_iff, gains.gained⟩

theorem OnlyRoom.alike {last : Disk} (room : disk.OnlyRoom after path) (alike : after.Alike last) :
    disk.OnlyRoom last path where
  files := by
    intro place content
    rw [alike.node?_eq]
    exact room.files place content
  gained := by
    intro place
    rw [alike.node?_eq]
    rcases room.gained place with same | ⟨absent, here, directory, member, located⟩
    · exact .inl same
    · exact .inr ⟨absent, here, directory, member, locate_mono alike.grows located⟩

end Disk

namespace Revision

variable {revision : Revision} {specs : List RuleSpec} {source output path : String}
variable {disk after : Disk} {content : ByteArray} {failure : Failure}

namespace Unwritten

variable {mode : WriteMode}

/-- A write that is refused leaves no trace. -/
theorem alike (refused : Unwritten disk path content mode failure after) : disk.Alike after := by
  cases refused with
  | inPlace => exact .refl disk
  | unmade => exact .refl disk
  | unmoved made => exact (Disk.staged_of_makeTemporary made).alike_remove

/-- Where a file can be written, only the length of a path can keep an atomic write from it. -/
theorem tooLong {place : Disk.Location}
    (refused : Unwritten disk path content mode failure after) (names : disk.Names path place)
    (spared : disk.node? place ≠ some .directory) :
    mode = .atomic ∧ failure = .temporary (Path.directoryOf path) .nameTooLong ∧
      Disk.pathLengthBound ≤ disk.temporaryPathLength (Path.directoryOf path) ∧ after = disk := by
  cases refused with
  | inPlace refused =>
    obtain ⟨last, written⟩ := Disk.exists_write names spared content
    cases refused.symm.trans written
  | unmade refused =>
    obtain ⟨directory, above, here⟩ := names.locate_directoryOf
    rcases Nat.lt_or_ge (disk.temporaryPathLength (Path.directoryOf path)) Disk.pathLengthBound
      with fits | tooLong
    · have made : disk.makeTemporary (Path.directoryOf path) content = .ok (_, _) :=
        Disk.makeTemporary_eq_ok_iff.mpr ⟨fits, directory, above, here, rfl, rfl⟩
      cases refused.symm.trans made
    · have checked := (Disk.locate_eq_ok_iff.mp above).1
      cases refused.symm.trans (Disk.makeTemporary_of_tooLong checked tooLong)
      exact ⟨rfl, rfl, tooLong, rfl⟩
  | @unmoved location middle fault made refused =>
    have staged := Disk.staged_of_makeTemporary made
    have holds : middle.node? location = some (.file content) := by
      rw [staged.node?_eq, if_pos rfl]
    have other : middle.node? place ≠ some .directory :=
      fun here => spared (staged.directory_of_directory here)
    have moved : middle.rename location path = .ok _ :=
      Disk.rename_eq_ok_iff.mpr ⟨place, _, names.mono staged.grows, other, holds, rfl⟩
    cases refused.symm.trans moved

/-- What keeps a file from being written has to do with the disk. -/
theorem failure_cases (refused : Unwritten disk path content mode failure after) :
    (∃ path fault, failure = .disk path fault) ∨
      ∃ directory fault, failure = .temporary directory fault := by
  cases refused with
  | inPlace => exact .inl ⟨_, _, rfl⟩
  | unmade => exact .inr ⟨_, _, rfl⟩
  | unmoved => exact .inl ⟨_, _, rfl⟩

end Unwritten

/-- The backup of an atomic revision stayed, for the path of a temporary file is too long. -/
structure Stranded (revision : Revision) (output : String) (failure : Failure)
    (disk after : Disk) : Prop where
  atomic : revision.writeMode = .atomic
  backup : revision.backup = true
  failure_eq : failure = .temporary (Path.directoryOf output) .nameTooLong
  tooLong : Disk.pathLengthBound ≤ disk.temporaryPathLength (Path.directoryOf output)
  copied : ∃ room old place, disk.OnlyRoom room output ∧ room.read output = .ok old ∧
    room.Wrote after (Path.backup output) old place

/-- When the write after a backup fails, it is for the length of a path. -/
theorem Unwritten.of_copied {room copy : Disk} {mode : WriteMode} (tree : room.IsTree)
    (made : room.copy output (Path.backup output) = .ok copy)
    (refused : Unwritten copy output content mode failure after) :
    mode = .atomic ∧ failure = .temporary (Path.directoryOf output) .nameTooLong ∧
      Disk.pathLengthBound ≤ room.temporaryPathLength (Path.directoryOf output) ∧ after = copy := by
  obtain ⟨old, backup, read, wrote⟩ := Disk.exists_wrote_of_copy made
  obtain ⟨place, -, holds, names⟩ := Disk.exists_names_of_read tree read
  have spared : copy.node? place ≠ some .directory := by
    intro here
    cases holds.symm.trans (wrote.directory_of_directory here)
  rw [← Disk.temporaryPathLength_eq wrote.grows]
  exact refused.tooLong (names.mono wrote.grows) spared

/-- What a delivery that fails leaves. -/
theorem Delivery.of_error (tree : disk.IsTree)
    (delivery : Delivery revision output content disk (.error failure) after) :
    disk.OnlyRoom after output ∨ revision.Stranded output failure disk after := by
  cases delivery with
  | crowded => exact .inl (disk.onlyRoom_roomFor output)
  | uncopied => exact .inl (disk.onlyRoom_roomFor output)
  | unwritten made prepared refused =>
    cases prepared with
    | plain => exact .inl ((disk.onlyRoom_roomFor output).alike refused.alike)
    | copied wanted made =>
      have gains := Disk.gains_makeChain disk (Path.above output)
      obtain ⟨atomic, rfl, tooLong, rfl⟩ := refused.of_copied (gains.tree tree) made
      obtain ⟨old, backup, read, wrote⟩ := Disk.exists_wrote_of_copy made
      refine .inr ⟨atomic, wanted, rfl, ?_, disk.roomFor output, old, backup,
        disk.onlyRoom_roomFor output, read, wrote⟩
      rwa [← Disk.temporaryPathLength_eq gains.grows]

theorem Delivery.failure_cases
    (delivery : Delivery revision output content disk (.error failure) after) :
    (∃ path fault, failure = .disk path fault) ∨
      ∃ directory fault, failure = .temporary directory fault := by
  cases delivery with
  | crowded => exact .inl ⟨_, _, rfl⟩
  | uncopied => exact .inl ⟨_, _, rfl⟩
  | unwritten _ _ refused => exact refused.failure_cases

/-- Every course that ends in a failure spares the files, or strands a backup. -/
theorem Course.of_error (tree : disk.IsTree)
    (course : Course revision specs source disk (.error failure) after) :
    disk.OnlyRoom after (revision.outputFor source) ∨
      revision.Stranded (revision.outputFor source) failure disk after := by
  generalize ended : Except.error failure = result at course
  cases course with
  | uncompiled => exact .inl (.refl _ _)
  | unread => exact .inl (.refl _ _)
  | unapplied => exact .inl (.refl _ _)
  | dry => cases ended
  | @delivered text emended result _ _ _ delivery =>
    cases result with
    | ok backup => cases ended
    | error other =>
      cases ended
      exact delivery.of_error tree

/-- **All or nothing.** A revision that fails leaves the files that there were, as they were, and
no others: at most directories above its output are new, and not even those when the rules do not
compile, the source cannot be read, or a strict revision misses a rule. The one exception is a
stranded backup. -/
theorem run_all_or_nothing {session after : Session} (tree : session.disk.IsTree)
    (failed : (revision.run specs source).run session = (.error failure, after)) :
    ((∃ error, failure = .rule error) ∨ (∃ missed, failure = .unapplied missed) ∨
        (∃ fault, session.disk.readText source = .error fault) →
      after.disk = session.disk) ∧
    (session.disk.OnlyRoom after.disk (revision.outputFor source) ∨
      revision.Stranded (revision.outputFor source) failure session.disk after.disk) := by
  have course := course_of_run failed
  generalize after.disk = last at course
  generalize ended : Except.error failure = result at course
  cases course with
  | uncompiled => exact ⟨fun _ => rfl, .inl (.refl _ _)⟩
  | unread => exact ⟨fun _ => rfl, .inl (.refl _ _)⟩
  | unapplied => exact ⟨fun _ => rfl, .inl (.refl _ _)⟩
  | dry => cases ended
  | @delivered text emended result _ emends wet delivery =>
    cases result with
    | ok backup => cases ended
    | error other =>
      cases ended
      refine ⟨?_, delivery.of_error tree⟩
      rintro (⟨error, rfl⟩ | ⟨missed, rfl⟩ | ⟨fault, unread⟩)
      · rcases delivery.failure_cases with ⟨_, _, clash⟩ | ⟨_, _, clash⟩
        · cases clash
        · cases clash
      · rcases delivery.failure_cases with ⟨_, _, clash⟩ | ⟨_, _, clash⟩
        · cases clash
        · cases clash
      · cases unread.symm.trans emends.loaded

/-- An atomic revision that would take the place of a directory, by way of one to be made. -/
def detoured : Revision := { writeMode := .atomic, output := some "new/sub/.." }

def anyLetter : List RuleSpec := [.replaceAll "letters" "[a-z]" "x"]

/-- A revision may fail with a temporary file made and removed, and leave the directories that it
made. -/
theorem run_all_or_nothing_behind_room :
    ∃ after,
      (detoured.run anyLetter "a").run ⟨Disk.small, []⟩ =
        (.error (.disk "new/sub/.." .busy), after) ∧
      after.disk.node? ["work", "new", "sub"] = some .directory ∧
      Disk.small.OnlyRoom after.disk "new/sub/.." := by
  have refused : ((detoured.run anyLetter "a").run ⟨Disk.small, []⟩).1 =
      .error (.disk "new/sub/.." .busy) := by decide +kernel
  have made : ((detoured.run anyLetter "a").run ⟨Disk.small, []⟩).2.disk.node?
      ["work", "new", "sub"] = some .directory := by decide +kernel
  cases ran : (detoured.run anyLetter "a").run ⟨Disk.small, []⟩ with
  | mk result after =>
    rw [ran] at refused made
    cases refused
    obtain ⟨-, spared | stranded⟩ := run_all_or_nothing Disk.small_isTree ran
    · exact ⟨after, rfl, made, spared⟩
    · cases stranded.backup

/-! ## Stranded backups -/

/-- A backup is stranded whenever it can be kept and the path of a temporary file is too long. -/
theorem Course.of_tooLong {result : Except Failure Summary} {text : String} {emended : Emended}
    {copy : Disk} (course : Course revision specs source disk result after) (tree : disk.IsTree)
    (emends : Emends revision specs source disk text emended)
    (wet : revision.dryRun = false) (atomic : revision.writeMode = .atomic)
    (wanted : revision.backup = true)
    (copied : disk.copy (revision.outputFor source)
      (Path.backup (revision.outputFor source)) = .ok copy)
    (tooLong : Disk.pathLengthBound ≤
      disk.temporaryPathLength (Path.directoryOf (revision.outputFor source))) :
    result = .error (.temporary (Path.directoryOf (revision.outputFor source)) .nameTooLong) ∧
      after = copy := by
  obtain ⟨place, old, located, holds, -⟩ := Disk.copy_eq_ok_iff.mp copied
  have names := Disk.names_of_locate tree located holds
  have room_eq := Disk.roomFor_of_names tree names
  obtain ⟨delivered, delivery, rfl⟩ := course.delivery emends wet
  cases delivery with
  | crowded refused =>
    cases refused.symm.trans (congrArg Prod.fst (Disk.makeChain_above tree names))
  | uncopied _ _ refused =>
    rw [room_eq] at refused
    cases refused.symm.trans copied
  | unwritten _ prepared refused =>
    rw [room_eq] at prepared
    cases prepared.eq_of_copy wanted copied
    obtain ⟨-, rfl, -, rfl⟩ := refused.of_copied tree copied
    exact ⟨rfl, rfl⟩
  | written _ prepared written =>
    -- A temporary file would have to fit.
    rw [room_eq] at prepared
    rw [atomic] at written
    cases written with
    | moved made =>
      have fits := (Disk.makeTemporary_eq_ok_iff.mp made).1
      rw [Disk.temporaryPathLength_eq prepared.grows] at fits
      exact absurd tooLong (Nat.not_le_of_lt fits)

end Revision

namespace Path

def detour (slashes : Nat) : List Char := 'd' :: '/' :: (List.replicate slashes '/' ++ ['.', '.'])

/-- A path to a name in the working directory, by way of the directory `d`. -/
def roundabout (slashes : Nat) (name : List Char) : String :=
  String.ofList (detour slashes ++ '/' :: name)

theorem pieces_detour (slashes : Nat) :
    pieces (detour slashes) = ['d'] :: (List.replicate slashes [] ++ [['.', '.']]) := by
  have behind : pieces (List.replicate slashes '/' ++ ['.', '.']) =
      List.replicate slashes [] ++ [['.', '.']] := by
    induction slashes with
    | zero => rfl
    | succ slashes ih =>
      rw [List.replicate_succ, List.replicate_succ, List.cons_append, List.cons_append, ← ih]
      exact pieces_append_slash [] _
  rw [← behind]
  exact pieces_append_slash ['d'] _

theorem pieces_roundabout (slashes : Nat) {name : List Char} (plain : '/' ∉ name) :
    pieces (roundabout slashes name).toList =
      ['d'] :: (List.replicate slashes [] ++ [['.', '.'], name]) := by
  unfold roundabout
  rw [String.toList_ofList, pieces_append_slash, pieces_detour, pieces_eq_splitOn name,
    List.splitOn_eq_singleton plain, List.cons_append, List.append_assoc]
  rfl

theorem route_roundabout (slashes : Nat) {name : List Char} (plain : '/' ∉ name)
    (stands : step? name = some (.down (String.ofList name))) :
    route (roundabout slashes name) =
      { fromRoot := false
        steps := [.down "d", .up, .down (String.ofList name)]
        slash := false } := by
  have named : name ≠ [] := by
    rintro rfl
    cases stands
  have steps_eq : (pieces (roundabout slashes name).toList).filterMap step? =
      [.down "d", .up, .down (String.ofList name)] := by
    have first : step? ['d'] = some (.down "d") := by decide
    have second : step? ['.', '.'] = some .up := by decide
    have blanks : (List.replicate slashes ([] : List Char)).filterMap step? = [] :=
      List.filterMap_replicate_of_none (by rfl)
    rw [pieces_roundabout slashes plain, List.filterMap_cons_some first, List.filterMap_append,
      blanks, List.nil_append, List.filterMap_cons_some second, List.filterMap_cons_some stands]
    rfl
  have last : (roundabout slashes name).toList.getLast? ≠ some '/' := by
    unfold roundabout
    rw [String.toList_ofList, List.getLast?_append, List.getLast?_cons_of_ne_nil named,
      List.getLast?_eq_some_getLast named, Option.some_or]
    exact fun clash => plain (Option.some.inj clash ▸ List.getLast_mem named)
  unfold route
  dsimp only
  rw [steps_eq, decide_eq_false last]
  congr 1
  unfold roundabout
  rw [String.toList_ofList]
  rfl

theorem utf8ByteSize_detour (slashes : Nat) :
    (String.ofList (detour slashes)).utf8ByteSize = slashes + 4 := by
  have slashes_size : (String.ofList (List.replicate slashes '/')).utf8ByteSize = slashes := by
    induction slashes with
    | zero => rfl
    | succ slashes ih =>
      rw [List.replicate_succ, String.ofList_cons, String.utf8ByteSize_append, ih,
        String.utf8ByteSize_singleton]
      exact Nat.add_comm ..
  unfold detour
  rw [String.ofList_cons, String.ofList_cons, String.ofList_append, String.utf8ByteSize_append,
    String.utf8ByteSize_append, String.utf8ByteSize_append, slashes_size]
  have ends : (String.ofList ['.', '.']).utf8ByteSize = 2 := by decide
  rw [ends, String.utf8ByteSize_singleton, String.utf8ByteSize_singleton]
  have sizes : 'd'.utf8Size = 1 ∧ '/'.utf8Size = 1 := by decide
  omega

theorem utf8ByteSize_roundabout (slashes : Nat) (name : List Char) :
    (roundabout slashes name).utf8ByteSize = slashes + 5 + (String.ofList name).utf8ByteSize := by
  unfold roundabout
  rw [String.ofList_append, String.ofList_cons, String.utf8ByteSize_append,
    String.utf8ByteSize_append, utf8ByteSize_detour, String.utf8ByteSize_singleton]
  have size : '/'.utf8Size = 1 := by decide
  omega

theorem directoryOf_roundabout (slashes : Nat) {name : List Char} (plain : '/' ∉ name)
    (named : ¬ isBlank name = true) :
    directoryOf (roundabout slashes name) = String.ofList (detour slashes) := by
  have ends : pieces (detour slashes) = (['d'] :: List.replicate slashes []) ++ [['.', '.']] :=
    pieces_detour slashes
  have parent_eq : parent? (roundabout slashes name) = some (String.ofList (detour slashes)) :=
    parent?_join (by rfl) ends (by decide) plain named
  unfold directoryOf
  rw [parent_eq]
  refine if_neg ?_
  intro empty
  have size := utf8ByteSize_detour slashes
  rw [String.isEmpty_iff_utf8ByteSize_eq_zero.mp empty] at size
  omega

end Path

namespace Disk

theorem checkPath_roundabout {slashes : Nat} {name : List Char} (plain : '\x00' ∉ name)
    (short : (Path.roundabout slashes name).utf8ByteSize < pathLengthBound) :
    checkPath (Path.roundabout slashes name) = .ok () := by
  refine checkPath_eq_ok_iff.mpr ⟨?_, ?_, short⟩
  · unfold Path.roundabout Path.detour
    rw [String.toList_ofList]
    simpa using plain
  · intro empty
    have size := Path.utf8ByteSize_roundabout slashes name
    rw [empty, String.utf8ByteSize_empty] at size
    omega

/-- A disk with a file and, beside it, a directory and perhaps a backup of the file. -/
structure HasDetour (disk : Disk) (old : ByteArray) : Prop where
  tree : disk.IsTree
  around : disk.walk disk.workingDirectory [.down "d", .up] = .ok disk.workingDirectory
  file : disk.node? (disk.workingDirectory ++ ["a"]) = some (.file old)
  spared : disk.node? (disk.workingDirectory ++ ["a.bak"]) ≠ some .directory

theorem small_hasDetour : small.HasDetour "old".toUTF8 := ⟨small_isTree, by rfl, by rfl, nofun⟩

namespace HasDetour

variable {disk : Disk} {old : ByteArray}

theorem target (detour : disk.HasDetour old) {slashes : Nat} {name : List Char}
    (plain : '/' ∉ name ∧ '\x00' ∉ name)
    (stands : Path.step? name = some (.down (String.ofList name)))
    (short : (Path.roundabout slashes name).utf8ByteSize < pathLengthBound) :
    disk.target (Path.roundabout slashes name) =
      .ok (.entry disk.workingDirectory (String.ofList name) false) := by
  have route_eq := Path.route_roundabout slashes plain.1 stands
  refine target_eq_entry_iff.mpr
    ⟨checkPath_roundabout plain.2 short, ?_, detour.tree.workingDirectory, ?_, ?_⟩
  · rw [route_eq]
    exact detour.around
  · rw [route_eq]
    rfl
  · rw [route_eq]

end HasDetour

end Disk

namespace Revision

def careful : Revision := { writeMode := .atomic, backup := true }

theorem backup_roundabout (slashes : Nat) :
    Path.backup (Path.roundabout slashes ['a']) =
      Path.roundabout slashes ['a', '.', 'b', 'a', 'k'] := by
  have ending : ".bak" = String.ofList ['.', 'b', 'a', 'k'] := by rfl
  unfold Path.backup Path.roundabout
  rw [ending, ← String.ofList_append, List.append_assoc]
  rfl

section Detours

variable {disk : Disk} {specs : List RuleSpec} {old : ByteArray} {slashes : Nat}

theorem target_roundabout (detour : disk.HasDetour old) (fits : slashes ≤ 4085) :
    disk.target (Path.roundabout slashes ['a']) = .ok (.entry disk.workingDirectory "a" false) ∧
      disk.target (Path.roundabout slashes ['a', '.', 'b', 'a', 'k']) =
        .ok (.entry disk.workingDirectory "a.bak" false) := by
  have sizes : (String.ofList ['a']).utf8ByteSize = 1 ∧
      (String.ofList ['a', '.', 'b', 'a', 'k']).utf8ByteSize = 5 := by decide
  constructor
  · refine detour.target ⟨by decide, by decide⟩ (by decide) ?_
    rw [Path.utf8ByteSize_roundabout, sizes.1]
    unfold Disk.pathLengthBound
    omega
  · refine detour.target ⟨by decide, by decide⟩ (by decide) ?_
    rw [Path.utf8ByteSize_roundabout, sizes.2]
    unfold Disk.pathLengthBound
    omega

theorem locate_roundabout (detour : disk.HasDetour old) (fits : slashes ≤ 4085) :
    disk.locate (Path.roundabout slashes ['a']) = .ok (disk.workingDirectory ++ ["a"]) :=
  Disk.locate_of_target (target_roundabout detour fits).1 (by rfl)
    (Option.isSome_of_eq_some detour.file) nofun

theorem copy_roundabout (detour : disk.HasDetour old) (fits : slashes ≤ 4085) :
    disk.copy (Path.roundabout slashes ['a']) (Path.backup (Path.roundabout slashes ['a'])) =
      .ok (disk.put (disk.workingDirectory ++ ["a.bak"]) (.file old)) := by
  refine Disk.copy_eq_ok_iff.mpr ⟨_, old, locate_roundabout detour fits, detour.file, ?_⟩
  rw [backup_roundabout]
  exact Disk.write_eq_ok_iff.mpr
    ⟨_, ⟨_, "a.bak", rfl, (target_roundabout detour fits).2, by rfl⟩, detour.spared, rfl⟩

theorem tooLong_roundabout (disk : Disk) (many : 4081 ≤ slashes) :
    Disk.pathLengthBound ≤
      disk.temporaryPathLength (Path.directoryOf (Path.roundabout slashes ['a'])) := by
  rw [Path.directoryOf_roundabout slashes (by decide) (by decide)]
  have size := Path.utf8ByteSize_detour slashes
  have longer := disk.utf8ByteSize_le_fromRoot (String.ofList (Path.detour slashes))
  unfold Disk.temporaryPathLength Disk.pathLengthBound Disk.temporaryNameLength
  omega

/-- A detour that is long enough, and not too long, strands a backup. -/
theorem Course.of_detour {result : Except Failure Summary} {after : Disk} {text : String}
    {pipeline : Pipeline}
    (course : Course careful specs (Path.roundabout slashes ['a']) disk result after)
    (detour : disk.HasDetour text.toUTF8)
    (compiled : Pipeline.ofSpecs careful.weightLimit specs = .ok pipeline)
    (many : 4081 ≤ slashes) (fits : slashes ≤ 4085) :
    (∃ failure, result = .error failure) ∧
      after = disk.put (disk.workingDirectory ++ ["a.bak"]) (.file text.toUTF8) := by
  have loaded : disk.readText (Path.roundabout slashes ['a']) = .ok text :=
    Disk.readText_eq_ok_iff.mpr
      (Disk.read_eq_ok_iff.mpr ⟨_, locate_roundabout detour fits, detour.file⟩)
  have copied := copy_roundabout detour fits
  have tooLong := tooLong_roundabout disk many
  generalize Path.roundabout slashes ['a'] = path at *
  have emends : Emends careful specs path disk text
      (pipeline.run { sourceFile := some path } text).toEmended :=
    ⟨loaded, ⟨pipeline, compiled, rfl⟩, nofun⟩
  obtain ⟨rfl, left⟩ := course.of_tooLong detour.tree emends rfl rfl rfl copied tooLong
  exact ⟨⟨_, rfl⟩, left⟩

end Detours

theorem careful_strands {slashes : Nat} (many : 4081 ≤ slashes) (fits : slashes ≤ 4085) :
    ∃ failure after,
      (careful.run [] (Path.roundabout slashes ['a'])).run ⟨Disk.small, []⟩ =
        (.error failure, after) ∧
      after.disk = Disk.small.put ["work", "a.bak"] (.file "old".toUTF8) := by
  have compiled : Pipeline.ofSpecs careful.weightLimit [] = .ok ⟨[]⟩ := by rfl
  cases ran : (careful.run [] (Path.roundabout slashes ['a'])).run ⟨Disk.small, []⟩ with
  | mk result after =>
    obtain ⟨⟨failure, rfl⟩, left⟩ :=
      (course_of_run ran).of_detour Disk.small_hasDetour compiled many fits
    exact ⟨failure, after, rfl, left⟩

/-- A failed atomic revision may add a file: the backup of its output. -/
theorem exists_stranded_backup :
    Disk.small.IsTree ∧ ∃ failure after,
      (careful.run [] (Path.roundabout 4085 ['a'])).run ⟨Disk.small, []⟩ =
        (.error failure, after) ∧
      ¬ ∀ (place : Disk.Location) (content : ByteArray),
        after.disk.node? place = some (.file content) ↔
          Disk.small.node? place = some (.file content) := by
  have strands := careful_strands (Nat.le_add_right 4081 4) (Nat.le_refl 4085)
  obtain ⟨failure, after, ran, left⟩ := strands
  refine ⟨Disk.small_isTree, failure, after, ran, ?_⟩
  rw [left]
  intro same
  have there := (Disk.small.node?_put ["work", "a.bak"] ["work", "a.bak"] (.file "old".toUTF8)
    (List.cons_ne_nil _ _)).trans (if_pos rfl)
  have absent : Disk.small.node? ["work", "a.bak"] = none := by rfl
  cases absent.symm.trans ((same _ _).mp there)

end Revision

end Emend
