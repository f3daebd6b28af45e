import Emend.Proofs.Revision.WriteBack

/-!
# What becomes of the source

A revision that writes somewhere else writes to two paths, the output and its backup, and none of
them is compared with the source. The output is another file, and so is every temporary file. So
the source is lost in one case: when the path of the backup leads to it.
-/

namespace Emend

namespace Revision

variable {revision : Revision} {specs : List RuleSpec} {source output : String}
variable {disk after : Disk} {content : ByteArray} {place : Disk.Location}

theorem Prepared.names {room ready : Disk} {backup : Option String} {path : String}
    (prepared : Prepared revision output room backup ready) (names : ready.Names path place) :
    room.Names path place := by
  cases prepared with
  | plain => exact names
  | copied _ made =>
    obtain ⟨_, _, -, wrote⟩ := Disk.exists_wrote_of_copy made
    exact wrote.names names

/-- A delivery ends before the disk is prepared, or it changes nothing afterwards but the output. -/
theorem Delivery.exists_ready {result : Except Failure (Option String)}
    (delivery : Delivery revision output content disk result after) :
    after = disk.roomFor output ∧
      ((disk.makeChain (Path.above output)).1 ≠ .ok () ∨
        ∃ fault, (disk.roomFor output).copy output (Path.backup output) = .error fault) ∨
    ∃ backup ready, (disk.makeChain (Path.above output)).1 = .ok () ∧
      Prepared revision output (disk.roomFor output) backup ready ∧ ready.Grows after ∧
      ∀ {place}, ¬ (disk.roomFor output).Names output place →
        after.node? place = ready.node? place := by
  cases delivery with
  | crowded refused =>
    refine .inl ⟨rfl, .inl ?_⟩
    intro made
    cases refused.symm.trans made
  | uncopied _ _ refused => exact .inl ⟨rfl, .inr ⟨_, refused⟩⟩
  | unwritten made prepared refused =>
    exact .inr ⟨_, _, made, prepared, refused.alike.grows, fun _ => refused.alike.node?_eq _⟩
  | written made prepared written =>
    obtain ⟨written_place, wrote⟩ := written.wrote
    refine .inr ⟨_, _, made, prepared, wrote.grows, ?_⟩
    intro place apart
    rw [wrote.node?_eq]
    refine if_neg ?_
    rintro rfl
    exact apart (prepared.names wrote.named)

theorem Delivery.grows {result : Except Failure (Option String)}
    (delivery : Delivery revision output content disk result after) : disk.Grows after := by
  have room := (Disk.gains_makeChain disk (Path.above output)).grows
  rcases delivery.exists_ready with ⟨rfl, -⟩ | ⟨backup, ready, -, prepared, grows, -⟩
  · exact room
  · exact (room.trans prepared.grows).trans grows

theorem Course.grows {result : Except Failure Summary}
    (course : Course revision specs source disk result after) : disk.Grows after := by
  cases course with
  | uncompiled => exact .refl disk
  | unread => exact .refl disk
  | unapplied => exact .refl disk
  | dry => exact .refl disk
  | delivered _ _ delivery => exact delivery.grows

/-- The backup of the output takes the place of the source. -/
structure Overwrites (revision : Revision) (specs : List RuleSpec) (source output : String)
    (disk : Disk) (content : ByteArray) : Prop where
  wanted : revision.backup = true
  wet : revision.dryRun = false
  emends : ∃ text emended, Emends revision specs source disk text emended
  made : (disk.makeChain (Path.above output)).1 = .ok ()
  /-- The backup path leads to the source. -/
  leads : ∃ place, disk.locate source = .ok place ∧
    (disk.roomFor output).locate (Path.backup output) = .ok place
  /-- There is something else to keep. -/
  differs : ∃ old, (disk.roomFor output).read output = .ok old ∧ old ≠ content

/-- A source is kept by a delivery, unless the backup overwrites it. -/
theorem Delivery.kept {result : Except Failure (Option String)} {old : ByteArray}
    (delivery : Delivery revision output content disk result after)
    (holds : disk.node? place = some (.file old))
    (apart : ¬ (disk.roomFor output).Names output place) :
    after.node? place = some (.file old) ∨
    revision.backup = true ∧ (disk.makeChain (Path.above output)).1 = .ok () ∧
      (disk.roomFor output).locate (Path.backup output) = .ok place ∧
      ∃ kept, (disk.roomFor output).read output = .ok kept ∧
        after.node? place = some (.file kept) := by
  have held : (disk.roomFor output).node? place = some (.file old) :=
    (Disk.gains_makeChain disk (Path.above output)).node?_eq_file_iff.mpr holds
  rcases delivery.exists_ready with ⟨rfl, -⟩ | ⟨backup, ready, made, prepared, -, same⟩
  · exact .inl held
  · rw [same apart]
    cases prepared with
    | plain => exact .inl held
    | copied wanted copied =>
      obtain ⟨kept, backup_place, read, wrote⟩ := Disk.exists_wrote_of_copy copied
      rw [wrote.node?_eq]
      split
      · rename_i taken
        rw [← taken] at wrote
        have present := Option.isSome_of_eq_some held
        exact .inr ⟨wanted, made, wrote.named.locate present, kept, read, rfl⟩
      · exact .inl held

/-- A backup path that leads to the source is a path that can be copied to. -/
theorem copy_of_overwrites {old : ByteArray} (tree : disk.IsTree)
    (holds : disk.node? place = some (.file content))
    (taken : (disk.roomFor output).locate (Path.backup output) = .ok place)
    (read : (disk.roomFor output).read output = .ok old) :
    ∃ copy, (disk.roomFor output).copy output (Path.backup output) = .ok copy ∧
      copy.node? place = some (.file old) := by
  have gains := Disk.gains_makeChain disk (Path.above output)
  have held : (disk.roomFor output).node? place = some (.file content) :=
    gains.node?_eq_file_iff.mpr holds
  have names := Disk.names_of_locate (gains.tree tree) taken held
  obtain ⟨copy, written⟩ := Disk.exists_write names (Disk.ne_directory_of_file held) old
  obtain ⟨output_place, located, output_holds⟩ := Disk.read_eq_ok_iff.mp read
  obtain ⟨written_place, wrote⟩ := Disk.wrote_of_write written
  refine ⟨copy, Disk.copy_eq_ok_iff.mpr ⟨_, old, located, output_holds, written⟩, ?_⟩
  rw [wrote.node?_eq, if_pos (names.unique wrote.named)]

/-- A source that the backup path leads to holds what the output held. -/
theorem Delivery.overwritten {result : Except Failure (Option String)} {old kept : ByteArray}
    (delivery : Delivery revision output content disk result after) (tree : disk.IsTree)
    (holds : disk.node? place = some (.file old))
    (apart : ¬ (disk.roomFor output).Names output place) (wanted : revision.backup = true)
    (made : (disk.makeChain (Path.above output)).1 = .ok ())
    (taken : (disk.roomFor output).locate (Path.backup output) = .ok place)
    (read : (disk.roomFor output).read output = .ok kept) :
    after.node? place = some (.file kept) := by
  obtain ⟨copy, copied, overwritten⟩ := copy_of_overwrites tree holds taken read
  rcases delivery.exists_ready with
    ⟨-, unmade | ⟨fault, refused⟩⟩ | ⟨_, ready, -, prepared, -, same⟩
  · exact absurd made unmade
  · cases refused.symm.trans copied
  · rw [same apart, prepared.eq_of_copy wanted copied, overwritten]

/-- A source is lost where the backup of the output takes its place. -/
theorem Delivery.lost {result : Except Failure (Option String)} {delivered : ByteArray}
    (delivery : Delivery revision output delivered disk result after) (tree : disk.IsTree)
    (overwrites : revision.Overwrites specs source output disk content)
    (located : disk.locate source = .ok place) (holds : disk.node? place = some (.file content))
    (apart : ¬ (disk.roomFor output).Names output place) :
    after.node? place ≠ some (.file content) := by
  obtain ⟨wanted, -, -, made, ⟨other, found, taken⟩, old, read, differs⟩ := overwrites
  cases located.symm.trans found
  rw [delivery.overwritten tree holds apart wanted made taken read]
  intro kept
  cases kept
  exact differs rfl

/-- Otherwise it is kept. -/
theorem Delivery.kept_of_not_overwrites {result : Except Failure (Option String)}
    {delivered : ByteArray} {text : String} {emended : Emended}
    (delivery : Delivery revision output delivered disk result after)
    (emends : Emends revision specs source disk text emended) (wet : revision.dryRun = false)
    (located : disk.locate source = .ok place) (holds : disk.node? place = some (.file content))
    (apart : ¬ (disk.roomFor output).Names output place)
    (spared : ¬ revision.Overwrites specs source output disk content) :
    after.node? place = some (.file content) := by
  rcases delivery.kept holds apart with kept | ⟨wanted, made, taken, old, read, overwritten⟩
  · exact kept
  · by_cases same : old = content
    · rw [overwritten, same]
    · exact absurd ⟨wanted, wet, ⟨text, emended, emends⟩, made, ⟨place, located, taken⟩, old, read,
        same⟩ spared

/-- What a path leads to in the course of a revision, it leads to at the end. -/
theorem Course.read_eq_ok_iff {result : Except Failure Summary}
    (course : Course revision specs source disk result after)
    (located : disk.locate source = .ok place) :
    after.read source = .ok content ↔ after.node? place = some (.file content) := by
  have there := Disk.locate_mono course.grows located
  rw [Disk.read_eq_ok_iff]
  constructor
  · rintro ⟨other, found, kept⟩
    cases there.symm.trans found
    exact kept
  · exact fun kept => ⟨place, there, kept⟩

/-- **A separate output costs the source only by its backup.** -/
theorem source_kept_iff {session after : Session} {result : Except Failure Summary}
    (ran : (revision.run specs source).run session = (result, after))
    (tree : session.disk.IsTree) (separate : revision.output = some output)
    (held : session.disk.read source = .ok content)
    (apart : ∀ place, session.disk.locate source = .ok place →
      ¬ (session.disk.roomFor output).Names output place) :
    after.disk.read source = .ok content ↔
      ¬ revision.Overwrites specs source output session.disk content := by
  obtain ⟨place, located, holds⟩ := Disk.read_eq_ok_iff.mp held
  have output_eq : revision.outputFor source = output := by
    unfold outputFor
    rw [separate]
    rfl
  have course := course_of_run ran
  rw [course.read_eq_ok_iff located]
  constructor
  · intro kept overwrites
    obtain ⟨text, emended, emends⟩ := overwrites.emends
    obtain ⟨delivered, delivery, -⟩ := course.delivery emends overwrites.wet
    rw [output_eq] at delivery
    exact delivery.lost tree overwrites located holds (apart _ located) kept
  · intro spared
    generalize after.disk = last at course ⊢
    cases course with
    | uncompiled => exact holds
    | unread => exact holds
    | unapplied => exact holds
    | dry => exact holds
    | @delivered text emended _ _ emends wet delivery =>
      rw [output_eq] at delivery
      exact delivery.kept_of_not_overwrites emends wet located holds (apart _ located) spared

end Revision

namespace Disk

variable {disk : Disk} {source output : String} {place other : Location}

/-- A file that another path does not name is apart from what is written to that path. -/
theorem not_names_of_ne (tree : disk.IsTree) (located : disk.locate source = .ok place)
    (names : disk.Names output other) (differs : place ≠ other) (found : Location)
    (leads : disk.locate source = .ok found) : ¬ (disk.roomFor output).Names output found := by
  cases located.symm.trans leads
  rw [roomFor_of_names tree names]
  exact fun named => differs (named.unique names)

/-- A disk with a file and, beside it, one with the name of its backup. -/
def twoFiles : Disk where
  entries := [(["work"], .directory), (["work", "a"], .file "old".toUTF8),
    (["work", "a.bak"], .file "new".toUTF8)]
  workingDirectory := ["work"]

theorem twoFiles_isTree : twoFiles.IsTree := isTree_of_entries (by rfl) (by decide)

theorem names_twoFiles : twoFiles.Names "a" ["work", "a"] := ⟨_, _, rfl, by rfl, by rfl⟩

theorem locate_twoFiles : twoFiles.locate "a.bak" = .ok ["work", "a.bak"] := by rfl

theorem makeChain_twoFiles : twoFiles.makeChain (Path.above "a") = (.ok (), twoFiles) :=
  makeChain_above twoFiles_isTree names_twoFiles

theorem roomFor_twoFiles : twoFiles.roomFor "a" = twoFiles :=
  roomFor_of_names twoFiles_isTree names_twoFiles

theorem read_twoFiles : twoFiles.read "a.bak" = .ok "new".toUTF8 :=
  read_eq_ok_iff.mpr ⟨_, locate_twoFiles, by rfl⟩

end Disk

namespace Revision

def onward : Revision := { output := some "a.bak", backup := true }

/-- A backup that is made beside another file spares the source. -/
theorem source_kept_beside_backup :
    ∃ summary after,
      (onward.run anyLetter "a").run ⟨Disk.twoFiles, []⟩ = (.ok summary, after) ∧
      after.disk.readText "a.bak.bak" = .ok "new" ∧
      after.disk.read "a" = .ok "old".toUTF8 := by
  have succeeds : ((onward.run anyLetter "a").run ⟨Disk.twoFiles, []⟩).1.isOk = true := by
    decide +kernel
  have copied : (((onward.run anyLetter "a").run ⟨Disk.twoFiles, []⟩).2.disk.readText
      "a.bak.bak").toOption = some "new" := by decide +kernel
  have located : Disk.twoFiles.locate "a" = .ok ["work", "a"] := by rfl
  have names : Disk.twoFiles.Names "a.bak" ["work", "a.bak"] := ⟨_, _, rfl, by rfl, by rfl⟩
  have unmade : Disk.twoFiles.locate (Path.backup "a.bak") = .error .notFound := by rfl
  cases ran : (onward.run anyLetter "a").run ⟨Disk.twoFiles, []⟩ with
  | mk result after =>
    rw [ran] at succeeds copied
    obtain ⟨summary, rfl⟩ := exists_of_isOk succeeds
    refine ⟨summary, after, rfl, eq_ok_of_toOption copied, ?_⟩
    refine (source_kept_iff ran Disk.twoFiles_isTree rfl
      (Disk.read_eq_ok_iff.mpr ⟨_, located, by rfl⟩)
      (Disk.not_names_of_ne Disk.twoFiles_isTree located names (by decide))).mpr ?_
    intro overwrites
    obtain ⟨place, -, taken⟩ := overwrites.leads
    rw [Disk.roomFor_of_names Disk.twoFiles_isTree names] at taken
    cases unmade.symm.trans taken

/-- With a backup the source may be lost, although the output is another file. -/
theorem exists_lost_source :
    Disk.twoFiles.IsTree ∧ Disk.twoFiles.read "a.bak" = .ok "new".toUTF8 ∧
    (∀ place, Disk.twoFiles.locate "a.bak" = .ok place →
      ¬ (Disk.twoFiles.roomFor "a").Names "a" place) ∧
    ∃ result after,
      (({ output := some "a", backup := true } : Revision).run [] "a.bak").run
        ⟨Disk.twoFiles, []⟩ = (result, after) ∧
      after.disk.read "a.bak" ≠ .ok "new".toUTF8 := by
  have apart := Disk.not_names_of_ne Disk.twoFiles_isTree Disk.locate_twoFiles Disk.names_twoFiles
    (by decide)
  refine ⟨Disk.twoFiles_isTree, Disk.read_twoFiles, apart, ?_⟩
  cases ran : (({ output := some "a", backup := true } : Revision).run [] "a.bak").run
      ⟨Disk.twoFiles, []⟩ with
  | mk result after =>
    refine ⟨result, after, rfl, ?_⟩
    have emends : Emends { output := some "a", backup := true } [] "a.bak" Disk.twoFiles "new"
        ((⟨[]⟩ : Pipeline).run { sourceFile := some "a.bak" } "new").toEmended :=
      ⟨Disk.readText_eq_ok_iff.mpr Disk.read_twoFiles, ⟨⟨[]⟩, by rfl, by rfl⟩, nofun⟩
    have overwrites : Overwrites { output := some "a", backup := true } [] "a.bak" "a"
        Disk.twoFiles "new".toUTF8 := {
      wanted := rfl
      wet := rfl
      emends := ⟨_, _, emends⟩
      made := congrArg Prod.fst Disk.makeChain_twoFiles
      leads := by
        rw [Disk.roomFor_twoFiles]
        exact ⟨_, Disk.locate_twoFiles, Disk.locate_twoFiles⟩
      differs := by
        rw [Disk.roomFor_twoFiles]
        exact ⟨"old".toUTF8, Disk.read_eq_ok_iff.mpr ⟨["work", "a"], by rfl, by rfl⟩, by decide⟩ }
    have course := course_of_run ran
    obtain ⟨delivered, delivery, -⟩ := course.delivery emends rfl
    rw [Ne, course.read_eq_ok_iff Disk.locate_twoFiles]
    exact delivery.lost Disk.twoFiles_isTree overwrites Disk.locate_twoFiles (by rfl)
      (apart _ Disk.locate_twoFiles)

end Revision

end Emend
