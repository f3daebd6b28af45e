import Emend.Proofs.Disk.Backup
import Emend.Proofs.Pipeline.Independence
import Emend.Proofs.Revision.WriteBack

/-!
# What a revision leaves

A revision that succeeds and is not dry leaves its result at its output, and the summary tells what
is there. What the output held is kept when a backup is wanted. Nothing else changes but for new
directories above the output.
-/

namespace Emend

namespace Disk

variable {disk : Disk} {path : String} {content : ByteArray}

/-- A file that can be read once there is room was there before. -/
theorem exists_file_of_roomFor (read : (disk.roomFor path).read path = .ok content) :
    ∃ place, (disk.roomFor path).locate path = .ok place ∧
      disk.node? place = some (.file content) := by
  obtain ⟨place, located, holds⟩ := read_eq_ok_iff.mp read
  exact ⟨place, located, ((disk.onlyRoom_roomFor path).files place content).mp holds⟩

/-- Room for a path does not lead it elsewhere. -/
theorem read_of_roomFor (leads : disk.leads path = true)
    (read : (disk.roomFor path).read path = .ok content) : disk.read path = .ok content := by
  obtain ⟨place, located⟩ := leads_eq_true_iff.mp leads
  obtain ⟨other, elsewhere, holds⟩ := exists_file_of_roomFor read
  have still := locate_mono (gains_makeChain disk (Path.above path)).grows located
  cases still.symm.trans elsewhere
  exact read_eq_ok_iff.mpr ⟨place, located, holds⟩

theorem leads_roomFor (leads : disk.leads path = true) :
    (disk.roomFor path).leads path = true := by
  obtain ⟨place, located⟩ := leads_eq_true_iff.mp leads
  exact leads_eq_true_iff.mpr
    ⟨place, locate_mono (gains_makeChain disk (Path.above path)).grows located⟩

end Disk

namespace Revision

variable {revision : Revision} {specs : List RuleSpec} {source output : String}
variable {disk room ready after : Disk} {content : ByteArray} {place : Disk.Location}
variable {backup : Option String}

/-! ## Backups -/

/-- What becomes of a file at an output, when a backup is wanted or not. -/
structure BackedUp (wanted : Bool) (output : String) (disk after : Disk)
    (backup : Option String) : Prop where
  /-- What the output held is kept. -/
  kept : wanted = true → disk.leads output = true →
    backup = some (Path.backup output) ∧
      ∃ old, disk.read output = .ok old ∧ after.read (Path.backup output) = .ok old
  /-- So is a file that the path only leads to once there is room for the output. -/
  keptBehindRoom : wanted = true → (disk.roomFor output).leads output = true →
    backup = some (Path.backup output) ∧
      ∃ place old, (disk.roomFor output).locate output = .ok place ∧
        disk.node? place = some (.file old) ∧ after.read (Path.backup output) = .ok old
  unkept : wanted = false ∨ (disk.roomFor output).leads output = false → backup = none

/-- A backup is kept if it is wanted and there is something to keep. -/
theorem Prepared.backup_eq (prepared : Prepared revision output room backup ready) :
    backup =
      if revision.backup && room.leads output then some (Path.backup output) else none := by
  cases prepared with
  | plain skipped =>
    cases wanted : revision.backup with
    | false => rfl
    | true =>
      rw [skipped wanted]
      rfl
  | copied wanted made =>
    obtain ⟨old, other, read, -⟩ := Disk.exists_wrote_of_copy made
    rw [wanted, Disk.leads_of_read read]
    rfl

/-- The write behind a backup does not reach it. -/
theorem Prepared.exists_old {path : String}
    (prepared : Prepared revision output room (some path) ready)
    (wrote : ready.Wrote after output content place) :
    ∃ old, room.read output = .ok old ∧ after.read (Path.backup output) = .ok old := by
  cases prepared with
  | copied wanted made =>
    obtain ⟨old, beside, read, copied⟩ := Disk.exists_wrote_of_copy made
    -- Both paths are followed on the disk that the backup leaves.
    have names := copied.named.mono copied.grows
    have apart := wrote.named.ne_backup names
    have holds : after.node? beside = some (.file old) := by
      rw [wrote.node?_eq, if_neg apart.symm, copied.node?_eq, if_pos rfl]
    have located := (names.mono wrote.grows).locate (Option.isSome_of_eq_some holds)
    exact ⟨old, read, Disk.read_eq_ok_iff.mpr ⟨beside, located, holds⟩⟩

theorem Prepared.backedUp
    (prepared : Prepared revision output (disk.roomFor output) backup ready)
    (wrote : ready.Wrote after output content place) :
    BackedUp revision.backup output disk after backup := by
  have backup_eq := prepared.backup_eq
  have kept (wanted : revision.backup = true) (leads : (disk.roomFor output).leads output = true) :
      backup = some (Path.backup output) ∧ ∃ old, (disk.roomFor output).read output = .ok old ∧
        after.read (Path.backup output) = .ok old := by
    rw [wanted, leads] at backup_eq
    cases backup_eq
    exact ⟨rfl, prepared.exists_old wrote⟩
  refine ⟨?_, ?_, ?_⟩
  · intro wanted leads
    obtain ⟨same, old, read, kept⟩ := kept wanted (Disk.leads_roomFor leads)
    exact ⟨same, old, Disk.read_of_roomFor leads read, kept⟩
  · intro wanted leads
    obtain ⟨same, old, read, kept⟩ := kept wanted leads
    obtain ⟨place, located, holds⟩ := Disk.exists_file_of_roomFor read
    exact ⟨same, place, old, located, holds, kept⟩
  · rintro (unwanted | nothing)
    · rw [backup_eq, unwanted]
      rfl
    · rw [backup_eq, nothing, Bool.and_false]
      rfl

/-! ## Results -/

/-- What a revision leaves whose result was delivered. -/
structure Delivered (revision : Revision) (source : String) (emended : Emended)
    (disk after : Disk) (summary : Summary) : Prop where
  output_eq : summary.output = some (revision.outputFor source)
  written : after.read (revision.outputFor source) = .ok emended.buffer.toUTF8
  lineCount_eq : ∃ text, after.readText (revision.outputFor source) = .ok text ∧
    summary.lineCount = lineCount text
  report_eq : summary.report = emended.report
  changed_iff : revision.output = none →
    (summary.changed = true ↔ after.read source ≠ disk.read source)
  backedUp : BackedUp revision.backup (revision.outputFor source) disk after summary.backup
  /-- Nothing else changes but for new directories above the output. -/
  others : ∀ place, ¬ after.Names (revision.outputFor source) place →
    (∀ backup, summary.backup = some backup → ¬ after.Names backup place) →
    after.node? place = disk.node? place ∨
      disk.node? place = none ∧ after.node? place = some .directory ∧
        ∃ directory ∈ Path.above (revision.outputFor source), after.locate directory = .ok place

/-- A delivery changes what the output and the backup name, and makes room. -/
theorem Prepared.others
    (prepared : Prepared revision output (disk.roomFor output) backup ready)
    (wrote : ready.Wrote after output content place) {other : Disk.Location}
    (apart : ¬ after.Names output other)
    (spared : ∀ path, backup = some path → ¬ after.Names path other) :
    after.node? other = disk.node? other ∨
      disk.node? other = none ∧ after.node? other = some .directory ∧
        ∃ directory ∈ Path.above output, after.locate directory = .ok other := by
  have same : after.node? other = (disk.roomFor output).node? other := by
    rw [wrote.node?_eq, if_neg]
    · cases prepared with
      | plain => rfl
      | copied wanted made =>
        obtain ⟨old, beside, -, copied⟩ := Disk.exists_wrote_of_copy made
        rw [copied.node?_eq, if_neg]
        rintro rfl
        exact spared _ rfl ((copied.named.mono copied.grows).mono wrote.grows)
    · rintro rfl
      exact apart (wrote.named.mono wrote.grows)
  rw [same]
  rcases (disk.onlyRoom_roomFor output).gained other with
    unchanged | ⟨absent, here, directory, member, located⟩
  · exact .inl unchanged
  · exact .inr ⟨absent, here, directory, member,
      Disk.locate_mono (prepared.grows.trans wrote.grows) located⟩

theorem Delivery.exists_wrote
    (delivery : Delivery revision output content disk (.ok backup) after) :
    ∃ ready place, Prepared revision output (disk.roomFor output) backup ready ∧
      ready.Wrote after output content place := by
  cases delivery with
  | written made prepared written =>
    obtain ⟨place, wrote⟩ := written.wrote
    exact ⟨_, place, prepared, wrote⟩

theorem delivered_of_delivery {text : String} {emended : Emended}
    (loaded : disk.readText source = .ok text)
    (delivery : Delivery revision (revision.outputFor source) emended.buffer.toUTF8 disk
      (.ok backup) after) :
    revision.Delivered source emended disk after
      { summarize source text emended with
        output := some (revision.outputFor source), backup } := by
  obtain ⟨ready, place, prepared, wrote⟩ := delivery.exists_wrote
  have written := wrote.read
  refine ⟨rfl, written, ⟨_, Disk.readText_eq_ok_iff.mpr written, rfl⟩, rfl, ?_,
    prepared.backedUp wrote, fun other => prepared.others wrote⟩
  intro same
  have back : revision.outputFor source = source := by
    unfold outputFor
    rw [same]
    rfl
  rw [back] at written
  rw [written, Disk.readText_eq_ok_iff.mp loaded]
  simp [summarize, String.toByteArray_inj]

theorem Emends.yields {text : String} {emended : Emended}
    (emends : Emends revision specs source disk text emended) :
    Yields revision.weightLimit { sourceFile := some source } specs text emended := by
  obtain ⟨pipeline, compiled, rfl⟩ := emends.compiled
  exact yields_of_ofSpecs _ compiled text

/-- **A revision leaves its result.** When a revision that is not dry succeeds, its output holds what
its rules make of the text of its source; other limits under which they compile, and other contexts,
make no difference. The summary tells what is there and where the backup is, if one is wanted and
there was a file. Nothing else has changed but for new directories above the output. -/
theorem run_delivers {session after : Session} {summary : Summary}
    (wet : revision.dryRun = false)
    (ran : (revision.run specs source).run session = (.ok summary, after)) :
    ∃ text emended, session.disk.readText source = .ok text ∧
      (∀ context, Yields revision.weightLimit context specs text emended) ∧
      (∀ limit context run, applySpecs limit context specs text = .ok run →
        run.toEmended = emended) ∧
      revision.Delivered source emended session.disk after.disk summary := by
  obtain ⟨text, emended, backup, emends, delivery, rfl⟩ :=
    (course_of_run ran).delivery_of_ok wet
  have yields := emends.yields
  refine ⟨text, emended, emends.loaded, yields.elsewhere, ?_,
    delivered_of_delivery emends.loaded delivery⟩
  intro limit context run applied
  obtain ⟨other, again, same⟩ := yields.stepwise
  exact (toEmended_eq_of_applySpecs applied again).trans same

def newForOld : List RuleSpec := [.replaceAll "renewal" "old" "new"]

theorem run_delivers_newForOld :
    careful.dryRun = false ∧ ∃ summary after,
      (careful.run newForOld "a").run ⟨Disk.small, []⟩ = (.ok summary, after) ∧
      ∃ text emended, Disk.small.readText "a" = .ok text ∧
        (∀ context, Yields careful.weightLimit context newForOld text emended) ∧
        (∀ limit context run, applySpecs limit context newForOld text = .ok run →
          run.toEmended = emended) ∧
        careful.Delivered "a" emended Disk.small after.disk summary := by
  have succeeds : ((careful.run newForOld "a").run ⟨Disk.small, []⟩).1.isOk = true := by
    decide +kernel
  obtain ⟨summary, ended⟩ := exists_of_isOk succeeds
  have ran : (careful.run newForOld "a").run ⟨Disk.small, []⟩ = (.ok summary, _) :=
    Prod.ext ended rfl
  exact ⟨rfl, summary, _, ran, run_delivers rfl ran⟩

def winding : Revision := { backup := true, output := some "new/../a" }

/-- A backup may be made of an output that was not there before the run: the path leads to the
file once its directory is made. -/
theorem exists_backup_behind_room :
    Disk.small.IsTree ∧ winding.dryRun = false ∧ winding.outputFor "a" = "new/../a" ∧
    Disk.small.leads "new/../a" = false ∧
    ∃ summary after,
      (winding.run [] "a").run ⟨Disk.small, []⟩ = (.ok summary, after) ∧
      summary.backup = some "new/../a.bak" ∧
      after.disk.readText "new/../a.bak" = .ok "old" := by
  have backup_eq : ((winding.run [] "a").run ⟨Disk.small, []⟩).1.toOption.map Summary.backup =
      some (some "new/../a.bak") := by decide +kernel
  have kept : (((winding.run [] "a").run ⟨Disk.small, []⟩).2.disk.readText
      "new/../a.bak").toOption = some "old" := by decide +kernel
  obtain ⟨summary, ended, backup_eq⟩ := Option.map_eq_some_iff.mp backup_eq
  exact ⟨Disk.small_isTree, rfl, by rfl, by rfl, summary, _,
    Prod.ext (eq_ok_of_toOption ended) rfl, backup_eq, eq_ok_of_toOption kept⟩

end Revision

end Emend
