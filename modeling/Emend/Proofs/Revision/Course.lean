import Emend.Proofs.Disk.Parent
import Emend.Proofs.Disk.Temporary
import Emend.Proofs.Revision.Actions
import Emend.Revision.Basic

/-!
# The course of a revision

Everything that a revision can do to a disk, one case for each place where it ends. It ends early
when a rule does not compile, when its source cannot be read, or when a strict revision misses a
rule; a dry one ends after its rules have run. Otherwise it makes room for its output, keeps a
backup, and writes, and each of these steps may be refused.
-/

namespace Emend

/-! ## Room -/

/-- The directories above a path begin with the one that the path is in. -/
theorem Path.above_cases (path : String) :
    Path.above path = [] ∨ ∃ outer, Path.above path = Path.directoryOf path :: outer := by
  unfold above directoryOf
  cases parent? path with
  | none =>
    dsimp only [Option.getD_none]
    rw [outer_empty]
    exact .inl rfl
  | some parent =>
    dsimp only [Option.getD_some]
    cases empty : parent.isEmpty with
    | true =>
      have nothing : parent = "" := by simpa using empty
      rw [nothing, outer_empty]
      exact .inl rfl
    | false =>
      rw [List.filter_cons_of_pos (by rw [empty]; rfl)]
      exact .inr ⟨_, rfl⟩

/-- A path that names a place has its room already. -/
theorem Disk.makeChain_above {disk : Disk} {path : String} {place : Location} (tree : disk.IsTree)
    (names : disk.Names path place) : disk.makeChain (Path.above path) = (.ok (), disk) := by
  rcases Path.above_cases path with none | ⟨outer, above_eq⟩
  · rw [none]
    rfl
  · obtain ⟨directory, located, here⟩ := names.locate_directoryOf
    rw [above_eq]
    exact makeChain_of_present tree located here outer

theorem Disk.roomFor_of_names {disk : Disk} {path : String} {place : Location}
    (tree : disk.IsTree) (names : disk.Names path place) : disk.roomFor path = disk :=
  congrArg Prod.snd (makeChain_above tree names)

namespace Revision

/-! ## Writing -/

/-- How a file is written, and the disk that it leaves. -/
inductive Written (disk : Disk) (path : String) (content : ByteArray) :
    WriteMode → Disk → Prop where
  | inPlace {after : Disk} (written : disk.write path content = .ok after) :
      Written disk path content .inPlace after
  | moved {location : Disk.Location} {middle after : Disk}
      (made : disk.makeTemporary (Path.directoryOf path) content = .ok (location, middle))
      (moved : middle.rename location path = .ok after) :
      Written disk path content .atomic after

/-- In both modes the same shows. -/
theorem Written.wrote {disk after : Disk} {path : String} {content : ByteArray} {mode : WriteMode}
    (written : Written disk path content mode after) :
    ∃ place, disk.Wrote after path content place := by
  cases written with
  | inPlace written => exact Disk.wrote_of_write written
  | moved made moved => exact Disk.wrote_of_rename made moved

inductive Unwritten (disk : Disk) (path : String) (content : ByteArray) :
    WriteMode → Failure → Disk → Prop where
  | inPlace {fault : Disk.Fault} (refused : disk.write path content = .error fault) :
      Unwritten disk path content .inPlace (.disk path fault) disk
  | unmade {fault : Disk.Fault}
      (refused : disk.makeTemporary (Path.directoryOf path) content = .error fault) :
      Unwritten disk path content .atomic (.temporary (Path.directoryOf path) fault) disk
  | unmoved {location : Disk.Location} {middle : Disk} {fault : Disk.Fault}
      (made : disk.makeTemporary (Path.directoryOf path) content = .ok (location, middle))
      (refused : middle.rename location path = .error fault) :
      Unwritten disk path content .atomic (.disk path fault) (middle.remove location)

variable {revision : Revision} {specs : List RuleSpec} {source : String} {disk : Disk}

/-- A file is either written or not, in both modes. -/
theorem write_cases {path text : String} {session after : Session} {result : Except Failure Unit}
    (ran : (revision.write path text).run session = (result, after)) :
    (result = .ok () ∧
      Written session.disk path text.toUTF8 revision.writeMode after.disk) ∨
    ∃ failure, result = .error failure ∧
      Unwritten session.disk path text.toUTF8 revision.writeMode failure after.disk := by
  unfold write at ran
  cases mode : revision.writeMode with
  | inPlace =>
    rw [mode] at ran
    dsimp only at ran
    rw [Action.run_save] at ran
    cases written : session.disk.write path text.toUTF8 with
    | ok disk =>
      rw [written] at ran
      cases ran
      exact .inl ⟨rfl, .inPlace written⟩
    | error fault =>
      rw [written] at ran
      cases ran
      exact .inr ⟨_, rfl, .inPlace written⟩
  | atomic =>
    rw [mode] at ran
    dsimp only at ran
    rw [Action.run_saveAtomic] at ran
    cases made : session.disk.makeTemporary (Path.directoryOf path) text.toUTF8 with
    | error fault =>
      rw [made] at ran
      cases ran
      exact .inr ⟨_, rfl, .unmade made⟩
    | ok pair =>
      obtain ⟨location, middle⟩ := pair
      rw [made] at ran
      dsimp only at ran
      cases moved : middle.rename location path with
      | ok disk =>
        rw [moved] at ran
        cases ran
        exact .inl ⟨rfl, .moved made moved⟩
      | error fault =>
        rw [moved] at ran
        cases ran
        exact .inr ⟨_, rfl, .unmoved made moved⟩

/-! ## Delivering -/

/-- How a disk is prepared for writing, and the path of the backup. -/
inductive Prepared (revision : Revision) (output : String) (room : Disk) :
    Option String → Disk → Prop where
  | plain (skipped : revision.backup = true → room.leads output = false) :
      Prepared revision output room none room
  | copied {copy : Disk} (wanted : revision.backup = true)
      (made : room.copy output (Path.backup output) = .ok copy) :
      Prepared revision output room (some (Path.backup output)) copy

theorem Prepared.eq_of_copy {output : String} {room ready copy : Disk} {backup : Option String}
    (prepared : Prepared revision output room backup ready) (wanted : revision.backup = true)
    (copied : room.copy output (Path.backup output) = .ok copy) : ready = copy := by
  cases prepared with
  | plain skipped =>
    obtain ⟨old, place, read, -⟩ := Disk.exists_wrote_of_copy copied
    cases (skipped wanted).symm.trans (Disk.leads_of_read read)
  | copied _ made =>
    cases made.symm.trans copied
    rfl

theorem Prepared.grows {output : String} {room ready : Disk} {backup : Option String}
    (prepared : Prepared revision output room backup ready) : room.Grows ready := by
  cases prepared with
  | plain => exact .refl room
  | copied _ made =>
    obtain ⟨_, _, -, wrote⟩ := Disk.exists_wrote_of_copy made
    exact wrote.grows

/-- How a content gets to an output, with the path of the backup. -/
inductive Delivery (revision : Revision) (output : String) (content : ByteArray) (disk : Disk) :
    Except Failure (Option String) → Disk → Prop where
  | crowded {fault : Disk.Fault} (refused : (disk.makeChain (Path.above output)).1 = .error fault) :
      Delivery revision output content disk
        (.error (.disk ((Path.parent? output).getD "") fault)) (disk.roomFor output)
  | uncopied {fault : Disk.Fault} (made : (disk.makeChain (Path.above output)).1 = .ok ())
      (wanted : revision.backup = true)
      (refused : (disk.roomFor output).copy output (Path.backup output) = .error fault) :
      Delivery revision output content disk (.error (.disk (Path.backup output) fault))
        (disk.roomFor output)
  | unwritten {backup : Option String} {ready after : Disk} {failure : Failure}
      (made : (disk.makeChain (Path.above output)).1 = .ok ())
      (prepared : Prepared revision output (disk.roomFor output) backup ready)
      (refused : Unwritten ready output content revision.writeMode failure after) :
      Delivery revision output content disk (.error failure) after
  | written {backup : Option String} {ready after : Disk}
      (made : (disk.makeChain (Path.above output)).1 = .ok ())
      (prepared : Prepared revision output (disk.roomFor output) backup ready)
      (written : Written ready output content revision.writeMode after) :
      Delivery revision output content disk (.ok backup) after

def outputFor (revision : Revision) (source : String) : String := revision.output.getD source

/-- A backup that is wanted is kept, or there is nothing to keep, or it is refused. -/
theorem backUp_cases {output : String} {session after : Session}
    {result : Except Failure (Option String)} (wanted : revision.backup = true)
    (ran : (Action.backUp output).run session = (result, after)) :
    (∃ backup, result = .ok backup ∧ Prepared revision output session.disk backup after.disk) ∨
    ∃ fault, session.disk.copy output (Path.backup output) = .error fault ∧
      result = .error (.disk (Path.backup output) fault) ∧ after.disk = session.disk := by
  rw [Action.run_backUp] at ran
  cases leads : session.disk.leads output with
  | false =>
    rw [leads] at ran
    cases ran
    exact .inl ⟨none, rfl, .plain fun _ => leads⟩
  | true =>
    rw [leads, if_pos rfl] at ran
    cases copied : session.disk.copy output (Path.backup output) with
    | ok copy =>
      rw [copied] at ran
      cases ran
      exact .inl ⟨_, rfl, .copied wanted copied⟩
    | error fault =>
      rw [copied] at ran
      cases ran
      exact .inr ⟨fault, rfl, rfl, rfl⟩

/-- Once a disk is prepared, what is left is writing. -/
theorem delivery_of_write {output text : String} {start session after : Session} {event : Event}
    {result : Except Failure Summary} {backup : Option String} {complete : Option String → Summary}
    (made : (start.disk.makeChain (Path.above output)).1 = .ok ())
    (prepared : Prepared revision output (start.disk.roomFor output) backup session.disk)
    (ran : (revision.write output text >>= fun _ => Action.emit event >>= fun _ =>
      pure (complete backup) : Action Summary).run session = (result, after)) :
    ∃ delivered, Delivery revision output text.toUTF8 start.disk delivered after.disk ∧
      result = delivered.map complete := by
  rw [run_bind] at ran
  cases tried : (revision.write output text).run session with
  | mk tried_result tried_after =>
    rw [tried] at ran
    rcases write_cases tried with ⟨rfl, written⟩ | ⟨failure, rfl, refused⟩
    · dsimp only at ran
      rw [run_bind, Action.run_emit] at ran
      cases ran
      exact ⟨_, .written made prepared written, rfl⟩
    · cases ran
      exact ⟨_, .unwritten made prepared refused, rfl⟩

theorem delivery_of_run {summary : Summary} {text : String} {session after : Session}
    {result : Except Failure Summary}
    (ran : (revision.deliver summary text).run session = (result, after)) :
    ∃ delivered, Delivery revision (revision.outputFor summary.source) text.toUTF8 session.disk
        delivered after.disk ∧
      result = delivered.map fun backup =>
        { summary with output := some (revision.outputFor summary.source), backup } := by
  have output_eq : revision.output.getD summary.source = revision.outputFor summary.source := rfl
  unfold deliver at ran
  rw [output_eq] at ran
  generalize revision.outputFor summary.source = output at ran ⊢
  dsimp only at ran
  rw [run_bind, Action.run_makeRoom] at ran
  cases made : (session.disk.makeChain (Path.above output)).1 with
  | error fault =>
    rw [made] at ran
    cases ran
    exact ⟨_, .crowded made, rfl⟩
  | ok _ =>
    rw [made] at ran
    dsimp only [Except.mapError] at ran
    cases wanted : revision.backup with
    | false =>
      rw [wanted, if_neg Bool.false_ne_true, pure_bind] at ran
      refine delivery_of_write made ?_ ran
      refine .plain ?_
      intro clash
      cases wanted.symm.trans clash
    | true =>
      rw [wanted, if_pos rfl, run_bind] at ran
      cases kept : (Action.backUp output).run
          { session with disk := session.disk.roomFor output } with
      | mk kept_result kept_after =>
        rw [kept] at ran
        rcases backUp_cases wanted kept with ⟨backup, rfl, prepared⟩ | ⟨fault, refused, rfl, same⟩
        · exact delivery_of_write made prepared ran
        · cases ran
          rw [same]
          exact ⟨_, .uncopied made wanted refused, rfl⟩

/-! ## The whole course -/

/-- What the rules of a revision make of its source, when nothing keeps it from being delivered. -/
structure Emends (revision : Revision) (specs : List RuleSpec) (source : String) (disk : Disk)
    (text : String) (emended : Emended) : Prop where
  loaded : disk.readText source = .ok text
  compiled : ∃ pipeline, Pipeline.ofSpecs revision.weightLimit specs = .ok pipeline ∧
    emended = (pipeline.run { sourceFile := some source } text).toEmended
  applied : revision.strict = true → emended.report.require = .ok ()

/-- How a revision ends, and the disk that it leaves. -/
inductive Course (revision : Revision) (specs : List RuleSpec) (source : String) (disk : Disk) :
    Except Failure Summary → Disk → Prop where
  | uncompiled {error : RuleError}
      (refused : Pipeline.ofSpecs revision.weightLimit specs = .error error) :
      Course revision specs source disk (.error (.rule error)) disk
  | unread {fault : Disk.Fault} (refused : disk.readText source = .error fault) :
      Course revision specs source disk (.error (.disk source fault)) disk
  | unapplied {text : String} {pipeline : Pipeline} {missed : Unapplied}
      (loaded : disk.readText source = .ok text)
      (compiled : Pipeline.ofSpecs revision.weightLimit specs = .ok pipeline)
      (strict : revision.strict = true)
      (refused : (pipeline.run { sourceFile := some source } text).report.require = .error missed) :
      Course revision specs source disk (.error (.unapplied missed)) disk
  | dry {text : String} {emended : Emended}
      (emends : Emends revision specs source disk text emended) (dryRun : revision.dryRun = true) :
      Course revision specs source disk (.ok (summarize source text emended)) disk
  | delivered {text : String} {emended : Emended} {result : Except Failure (Option String)}
      {after : Disk} (emends : Emends revision specs source disk text emended)
      (wet : revision.dryRun = false)
      (delivery : Delivery revision (revision.outputFor source) emended.buffer.toUTF8 disk result
        after) :
      Course revision specs source disk
        (result.map fun backup =>
          { summarize source text emended with
            output := some (revision.outputFor source), backup }) after

/-- Reading a file and running the rules over it leaves the disk as it was. -/
theorem emendFile_cases {pipeline : Pipeline} {session after : Session}
    {result : Except Failure (String × Emended)}
    (compiled : Pipeline.ofSpecs revision.weightLimit specs = .ok pipeline)
    (ran : (revision.emendFile pipeline source).run session = (result, after)) :
    after.disk = session.disk ∧
      ((∃ failure, result = .error failure ∧
          Course revision specs source session.disk (.error failure) session.disk) ∨
        ∃ text emended, result = .ok (text, emended) ∧
          Emends revision specs source session.disk text emended) := by
  unfold emendFile at ran
  rw [run_bind, Action.run_load] at ran
  cases loaded : session.disk.readText source with
  | error fault =>
    rw [loaded] at ran
    cases ran
    exact ⟨rfl, .inl ⟨_, rfl, .unread loaded⟩⟩
  | ok text =>
    rw [loaded] at ran
    dsimp only [Except.mapError] at ran
    rw [run_bind, Action.run_emitAll] at ran
    dsimp only at ran
    cases strict : revision.strict with
    | false =>
      rw [strict] at ran
      cases ran
      refine ⟨rfl, .inr ⟨text, _, rfl, loaded, ⟨pipeline, compiled, rfl⟩, ?_⟩⟩
      intro clash
      cases strict.symm.trans clash
    | true =>
      rw [strict, if_pos rfl] at ran
      cases required : (pipeline.run { sourceFile := some source } text).report.require with
      | ok _ =>
        rw [required] at ran
        cases ran
        exact ⟨rfl, .inr ⟨text, _, rfl, loaded, ⟨pipeline, compiled, rfl⟩, fun _ => required⟩⟩
      | error missed =>
        rw [required] at ran
        cases ran
        exact ⟨rfl, .inl ⟨_, rfl, .unapplied loaded compiled strict required⟩⟩

/-- With rules that compile, a revision goes through reading, running the rules and delivering. -/
theorem course_of_revise {pipeline : Pipeline} {session after : Session}
    {result : Except Failure Summary}
    (compiled : Pipeline.ofSpecs revision.weightLimit specs = .ok pipeline)
    (ran : (revision.revise pipeline source).run session = (result, after)) :
    Course revision specs source session.disk result after.disk := by
  unfold revise at ran
  rw [run_bind] at ran
  cases emended : (revision.emendFile pipeline source).run session with
  | mk emended_result emended_after =>
    rw [emended] at ran
    obtain ⟨same, ⟨failure, rfl, course⟩ | ⟨text, emended, rfl, emends⟩⟩ :=
      emendFile_cases compiled emended
    · cases ran
      rw [same]
      exact course
    · dsimp only at ran
      cases dryRun : revision.dryRun with
      | true =>
        rw [dryRun, if_pos rfl, run_bind, Action.run_emit] at ran
        cases ran
        rw [same]
        exact .dry emends dryRun
      | false =>
        rw [dryRun, if_neg Bool.false_ne_true] at ran
        obtain ⟨delivered, delivery, rfl⟩ := delivery_of_run ran
        rw [same] at delivery
        exact .delivered emends dryRun delivery

theorem course_of_run {session after : Session} {result : Except Failure Summary}
    (ran : (revision.run specs source).run session = (result, after)) :
    Course revision specs source session.disk result after.disk := by
  unfold run compile at ran
  rw [run_bind] at ran
  cases compiled : Pipeline.ofSpecs revision.weightLimit specs with
  | error error =>
    rw [compiled] at ran
    cases ran
    exact .uncompiled compiled
  | ok pipeline =>
    rw [compiled] at ran
    exact course_of_revise compiled ran

theorem Emends.unique {text other : String} {emended otherEmended : Emended}
    (emends : Emends revision specs source disk text emended)
    (others : Emends revision specs source disk other otherEmended) :
    text = other ∧ emended = otherEmended := by
  obtain ⟨loaded, ⟨pipeline, compiled, rfl⟩, -⟩ := emends
  obtain ⟨otherLoaded, ⟨otherPipeline, otherCompiled, rfl⟩, -⟩ := others
  cases loaded.symm.trans otherLoaded
  cases compiled.symm.trans otherCompiled
  exact ⟨rfl, rfl⟩

/-- When the rules make something of the source, it is delivered, unless the revision is dry. -/
theorem Course.delivery {text : String} {emended : Emended} {result : Except Failure Summary}
    {after : Disk} (course : Course revision specs source disk result after)
    (emends : Emends revision specs source disk text emended) (wet : revision.dryRun = false) :
    ∃ delivered, Delivery revision (revision.outputFor source) emended.buffer.toUTF8 disk delivered
        after ∧
      result = delivered.map fun backup =>
        { summarize source text emended with
          output := some (revision.outputFor source), backup } := by
  cases course with
  | uncompiled refused =>
    obtain ⟨pipeline, compiled, -⟩ := emends.compiled
    cases refused.symm.trans compiled
  | unread refused => cases refused.symm.trans emends.loaded
  | unapplied loaded compiled strict refused =>
    obtain ⟨otherLoaded, ⟨pipeline, otherCompiled, rfl⟩, applied⟩ := emends
    cases loaded.symm.trans otherLoaded
    cases compiled.symm.trans otherCompiled
    cases refused.symm.trans (applied strict)
  | dry _ dryRun => cases wet.symm.trans dryRun
  | delivered others _ delivery =>
    obtain ⟨rfl, rfl⟩ := emends.unique others
    exact ⟨_, delivery, rfl⟩

/-- A revision that succeeds and is not dry has delivered what its rules make of its source. -/
theorem Course.delivery_of_ok {summary : Summary} {after : Disk}
    (course : Course revision specs source disk (.ok summary) after)
    (wet : revision.dryRun = false) :
    ∃ text emended backup, Emends revision specs source disk text emended ∧
      Delivery revision (revision.outputFor source) emended.buffer.toUTF8 disk (.ok backup)
        after ∧
      summary = { summarize source text emended with
        output := some (revision.outputFor source), backup } := by
  generalize ended : Except.ok summary = result at course
  cases course with
  | uncompiled => cases ended
  | unread => cases ended
  | unapplied => cases ended
  | dry _ dryRun => cases wet.symm.trans dryRun
  | @delivered text emended result _ emends _ delivery =>
    obtain ⟨backup, rfl, same⟩ := exists_of_map_eq_ok ended.symm
    exact ⟨text, emended, backup, emends, delivery, same.symm⟩

/-- A dry revision that succeeds has worked out what its rules make of its source. -/
theorem Course.emends_of_dry {summary : Summary} {after : Disk}
    (course : Course revision specs source disk (.ok summary) after)
    (dryRun : revision.dryRun = true) :
    ∃ text emended, Emends revision specs source disk text emended ∧
      summary = summarize source text emended ∧ after = disk := by
  generalize ended : Except.ok summary = result at course
  cases course with
  | uncompiled => cases ended
  | unread => cases ended
  | unapplied => cases ended
  | dry emends =>
    cases ended
    exact ⟨_, _, emends, rfl, rfl⟩
  | delivered _ wet => cases wet.symm.trans dryRun

end Revision

end Emend
