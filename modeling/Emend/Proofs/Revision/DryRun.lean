import Emend.Proofs.Revision.Course
import Emend.Proofs.Revision.Gate

/-!
# Dry revisions

A dry revision stops where another one begins to deliver its result. Up to there nothing on the disk
has changed, and the summary is complete but for the paths of the output and the backup. So a dry
revision tells what the same revision would do if it were not dry.
-/

namespace Emend.Revision

variable {revision : Revision} {pipeline : Pipeline} {source : String}

/-- Why a revision ends before it delivers anything: its source cannot be read, or it is strict and
some rule did not apply. -/
inductive Refuses (revision : Revision) (pipeline : Pipeline) (source : String) (disk : Disk) :
    Failure → Prop where
  | unread {fault : Disk.Fault} (refused : disk.readText source = .error fault) :
      Refuses revision pipeline source disk (.disk source fault)
  | unapplied {text : String} {missed : Unapplied} (loaded : disk.readText source = .ok text)
      (strict : revision.strict = true)
      (refused : (pipeline.run { sourceFile := some source } text).report.require =
        .error missed) :
      Refuses revision pipeline source disk (.unapplied missed)

theorem gate_eq_error_iff {report : Report} {missed : Unapplied} :
    revision.gate report = .error missed ↔
      revision.strict = true ∧ report.require = .error missed := by
  unfold gate
  cases revision.strict <;> simp

/-- A revision that is not refused gets past its gate. -/
theorem refuses_or_passes (revision : Revision) (pipeline : Pipeline) (source : String)
    (disk : Disk) :
    (∃ failure, revision.Refuses pipeline source disk failure) ∨
      ∃ text, disk.readText source = .ok text ∧
        revision.gate (pipeline.run { sourceFile := some source } text).report = .ok () := by
  cases loaded : disk.readText source with
  | error fault => exact .inl ⟨_, .unread loaded⟩
  | ok text =>
    cases passed : revision.gate (pipeline.run { sourceFile := some source } text).report with
    | ok _ => exact .inr ⟨text, rfl, passed⟩
    | error missed =>
      obtain ⟨strict, refused⟩ := gate_eq_error_iff.mp passed
      exact .inl ⟨_, .unapplied loaded strict refused⟩

/-- A revision that is refused fails, dry or not, and leaves the disk as it was. -/
theorem Refuses.fails {session : Session} {failure : Failure}
    (refuses : revision.Refuses pipeline source session.disk failure) (dryRun : Bool) :
    (({ revision with dryRun }.revise pipeline source).run session).1 = .error failure ∧
      (({ revision with dryRun }.revise pipeline source).run session).2.disk = session.disk := by
  rw [run_revise]
  cases refuses with
  | unread refused =>
    rw [refused]
    exact ⟨rfl, rfl⟩
  | unapplied loaded strict refused =>
    have stopped := gate_eq_error_iff.mpr ⟨strict, refused⟩
    rw [loaded]
    dsimp only [gate] at stopped ⊢
    rw [stopped]
    exact ⟨rfl, rfl⟩

/-- Past its gate a dry revision succeeds. -/
theorem run_revise_dry {session : Session} {text : String}
    (loaded : session.disk.readText source = .ok text)
    (passed : revision.gate (pipeline.run { sourceFile := some source } text).report = .ok ()) :
    (({ revision with dryRun := true }.revise pipeline source).run session).1 =
        .ok (summarize source text (pipeline.run { sourceFile := some source } text).toEmended) ∧
      (({ revision with dryRun := true }.revise pipeline source).run session).2.disk =
        session.disk := by
  rw [run_revise, loaded]
  dsimp only [gate] at passed ⊢
  rw [passed]
  exact ⟨rfl, rfl⟩

/-- Past its gate a revision that is not dry tells what the dry one does, and its paths. -/
theorem run_revise_wet {session : Session} {text : String} {summary : Summary}
    (loaded : session.disk.readText source = .ok text)
    (passed : revision.gate (pipeline.run { sourceFile := some source } text).report = .ok ())
    (ran : (({ revision with dryRun := false }.revise pipeline source).run session).1 =
      .ok summary) :
    ∃ output backup, summary =
      { summarize source text (pipeline.run { sourceFile := some source } text).toEmended with
        output, backup } := by
  rw [run_revise, loaded] at ran
  dsimp only [gate] at passed ran
  rw [passed] at ran
  dsimp only at ran
  obtain ⟨_, -, result_eq⟩ := delivery_of_run (Prod.ext ran rfl)
  obtain ⟨backup, -, summary_eq⟩ := exists_of_map_eq_ok result_eq.symm
  exact ⟨_, backup, summary_eq.symm⟩

/-- **A dry revision predicts.** It leaves the disk as it was. It fails if and only if the source
cannot be read or the revision is strict and some rule did not apply, and the revision that is not
dry then fails in the same way. When that one succeeds, the dry one does, with the same summary but
for the paths of the output and the backup. -/
theorem dry_revise_predicts (revision : Revision) (pipeline : Pipeline) (source : String)
    (session : Session) :
    let dry := ({ revision with dryRun := true }.revise pipeline source).run session
    let wet := ({ revision with dryRun := false }.revise pipeline source).run session
    dry.2.disk = session.disk ∧
    (∀ failure, dry.1 = .error failure ↔
      revision.Refuses pipeline source session.disk failure) ∧
    (∀ failure, revision.Refuses pipeline source session.disk failure →
      wet.1 = .error failure) ∧
    ∀ summary, wet.1 = .ok summary →
      dry.1 = .ok { summary with output := none, backup := none } := by
  dsimp only
  rcases revision.refuses_or_passes pipeline source session.disk with
    ⟨failure, refuses⟩ | ⟨text, loaded, passed⟩
  · obtain ⟨dry_fails, same⟩ := refuses.fails true
    refine ⟨same, ?_, fun _ refuses => (refuses.fails false).1, ?_⟩
    · intro other
      constructor
      · intro fails
        cases dry_fails.symm.trans fails
        exact refuses
      · exact fun refuses => (refuses.fails true).1
    · intro summary ran
      cases (refuses.fails false).1.symm.trans ran
  · obtain ⟨dry_ran, same⟩ := run_revise_dry loaded passed
    refine ⟨same, ?_, fun _ refuses => (refuses.fails false).1, ?_⟩
    · intro failure
      constructor
      · intro fails
        cases dry_ran.symm.trans fails
      · exact fun refuses => (refuses.fails true).1
    · intro summary ran
      obtain ⟨output, backup, rfl⟩ := run_revise_wet loaded passed ran
      exact dry_ran

end Emend.Revision
