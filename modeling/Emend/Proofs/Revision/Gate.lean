import Emend.Proofs.Disk.Tree
import Emend.Proofs.Pipeline.Composition
import Emend.Proofs.Revision.Actions
import Emend.Revision.Basic

/-!
# Strict revisions

A strict revision looks at the report of its rules before it delivers anything. When some rule
replaced nothing it fails, names every such rule in order, and has changed no more than the log.
Otherwise being strict makes no difference.
-/

namespace Emend

/-! ## Rules that replaced nothing -/

/-- Of the items that a report has outcomes for, those that replaced nothing. -/
def Report.idle {α : Type} (report : Report) (items : List α) : List α :=
  ((items.zip report.outcomes).filter fun pair => pair.2.matchCount = 0).map Prod.fst

namespace Report

variable {report : Report} {names : List String}

theorem Lists.applied_eq (lists : report.Lists names) {outcome : Outcome}
    (member : outcome ∈ report.outcomes) :
    (!outcome.applied) = decide (outcome.matchCount = 0) := by
  have applied_iff := lists.applied_iff outcome member
  cases applied : outcome.applied with
  | true =>
    have positive := applied_iff.mp applied
    simp only [Bool.not_true, Bool.false_eq, decide_eq_false_iff_not]
    omega
  | false =>
    have zero : ¬ 0 < outcome.matchCount := by
      intro positive
      cases applied.symm.trans (applied_iff.mpr positive)
    simp only [Bool.not_false, Bool.true_eq, decide_eq_true_eq]
    omega

theorem Lists.unappliedNames_eq (lists : report.Lists names) :
    report.unappliedNames = report.idle names := by
  have zipped : names.zip report.outcomes =
      report.outcomes.map fun outcome => (outcome.ruleName, outcome) := by
    rw [← lists.ruleName_eq]
    exact List.map_prod_right_eq_zip.symm
  have kept : (report.outcomes.filter fun outcome => !outcome.applied) =
      report.outcomes.filter fun outcome => outcome.matchCount = 0 :=
    List.filter_congr fun outcome member => lists.applied_eq member
  unfold unappliedNames unapplied idle
  rw [zipped, kept, List.filter_map, List.map_map]
  rfl

theorem Lists.allApplied_iff (lists : report.Lists names) :
    report.allApplied = true ↔ ∀ outcome ∈ report.outcomes, 0 < outcome.matchCount := by
  unfold allApplied
  rw [List.all_eq_true]
  constructor
  · intro applied outcome member
    exact (lists.applied_iff outcome member).mp (applied outcome member)
  · intro positive outcome member
    exact (lists.applied_iff outcome member).mpr (positive outcome member)

theorem Lists.require_of_pos (lists : report.Lists names)
    (positive : ∀ outcome ∈ report.outcomes, 0 < outcome.matchCount) :
    report.require = .ok () :=
  if_pos (lists.allApplied_iff.mpr positive)

theorem Lists.require_of_zero (lists : report.Lists names)
    (nothing : ∃ outcome ∈ report.outcomes, outcome.matchCount = 0) :
    report.require = .error ⟨report.idle names⟩ := by
  have idle : ¬ report.allApplied = true := by
    intro applied
    obtain ⟨outcome, member, zero⟩ := nothing
    have positive := lists.allApplied_iff.mp applied outcome member
    omega
  unfold require
  rw [if_neg idle, lists.unappliedNames_eq]

end Report

/-! ## Runs of revisions -/

namespace Revision

def gate (revision : Revision) (report : Report) : Except Unapplied Unit :=
  if revision.strict then report.require else .ok ()

theorem run_emendFile (revision : Revision) (pipeline : Pipeline) (source : String)
    (session : Session) :
    (revision.emendFile pipeline source).run session =
      match session.disk.readText source with
      | .error fault => (.error (.disk source fault), session)
      | .ok text =>
        let run := pipeline.run { sourceFile := some source } text
        let logged := { session with log := session.log ++ run.log }
        match revision.gate run.report with
        | .ok () => (.ok (text, run.toEmended), logged)
        | .error missed => (.error (.unapplied missed), logged) := by
  unfold emendFile gate
  rw [run_bind, Action.run_load]
  cases session.disk.readText source with
  | error fault => rfl
  | ok text =>
    dsimp only [Except.mapError]
    rw [run_bind, Action.run_emitAll]
    dsimp only
    cases revision.strict with
    | false => rfl
    | true =>
      simp only [if_pos]
      cases (pipeline.run { sourceFile := some source } text).report.require with
      | ok _ => rfl
      | error missed => rfl

/-- A revision reads its source, runs its rules, checks the report, and then delivers the result
unless it is dry. -/
theorem run_revise (revision : Revision) (pipeline : Pipeline) (source : String)
    (session : Session) :
    (revision.revise pipeline source).run session =
      match session.disk.readText source with
      | .error fault => (.error (.disk source fault), session)
      | .ok text =>
        let run := pipeline.run { sourceFile := some source } text
        let logged := { session with log := session.log ++ run.log }
        let summary := summarize source text run.toEmended
        match revision.gate run.report with
        | .error missed => (.error (.unapplied missed), logged)
        | .ok () =>
          if revision.dryRun then
            (.ok summary, { logged with log := logged.log ++ [.nothingWritten source] })
          else (revision.deliver summary run.buffer).run logged := by
  unfold revise
  rw [run_bind, run_emendFile]
  cases session.disk.readText source with
  | error fault => rfl
  | ok text =>
    dsimp only
    cases revision.gate (pipeline.run { sourceFile := some source } text).report with
    | error missed => rfl
    | ok _ =>
      dsimp only
      cases revision.dryRun with
      | true => rfl
      | false => rfl

/-! ## The gate -/

/-- **Being strict is a gate.** A source that cannot be read stops a strict revision like any other.
Where some rule replaces nothing, a strict revision fails with the names of all such rules, in
order, and leaves the disk as it was. Where every rule replaces something, a strict revision ends
like one that is not strict, and leaves the same. -/
theorem strict_revise_gates (revision : Revision) (pipeline : Pipeline) (source : String)
    (session : Session) :
    let strict := ({ revision with strict := true }.revise pipeline source).run session
    let lenient := ({ revision with strict := false }.revise pipeline source).run session
    match session.disk.readText source with
    | .error fault => strict = (.error (.disk source fault), session) ∧ lenient = strict
    | .ok text =>
      let report := (pipeline.run { sourceFile := some source } text).report
      ((∃ outcome ∈ report.outcomes, outcome.matchCount = 0) →
        strict.1 = .error (.unapplied ⟨report.idle pipeline.names⟩) ∧
          strict.2.disk = session.disk) ∧
      ((∀ outcome ∈ report.outcomes, 0 < outcome.matchCount) → strict = lenient) := by
  dsimp only
  rw [run_revise, run_revise]
  cases session.disk.readText source with
  | error fault => exact ⟨rfl, rfl⟩
  | ok text =>
    have lists := pipeline.lists_run { sourceFile := some source } text
    dsimp only [gate]
    simp only [if_pos, if_neg Bool.false_ne_true]
    constructor
    · intro nothing
      rw [lists.require_of_zero nothing]
      exact ⟨rfl, rfl⟩
    · intro positive
      rw [lists.require_of_pos positive]
      rfl

/-- Rules of which the first one finds nothing in a text without digits. -/
def digitsThenLetters : List RuleSpec :=
  [.replaceAll "digits" "[0-9]" "n", .replaceAll "letters" "[a-z]" "x"]

/-- The rule for digits stops a strict revision. The one for letters lets it pass. -/
theorem strict_revise_gates_digits :
    ∃ both letters after,
      Pipeline.ofSpecs Pattern.defaultWeightLimit digitsThenLetters = .ok both ∧
      (({ strict := true } : Revision).revise both "a").run ⟨Disk.small, []⟩ =
        (.error (.unapplied ⟨["digits"]⟩), after) ∧
      after.disk = Disk.small ∧
      Pipeline.ofSpecs Pattern.defaultWeightLimit digitsThenLetters.tail = .ok letters ∧
      (({ strict := true } : Revision).revise letters "a").run ⟨Disk.small, []⟩ =
        (({ strict := false } : Revision).revise letters "a").run ⟨Disk.small, []⟩ := by
  have idles : (Pipeline.ofSpecs Pattern.defaultWeightLimit digitsThenLetters).toOption.any
      (fun both =>
        let report := (both.run { sourceFile := some "a" } "old").report
        (∃ outcome ∈ report.outcomes, outcome.matchCount = 0) ∧
          report.idle both.names = ["digits"]) = true := by decide +kernel
  have applies : (Pipeline.ofSpecs Pattern.defaultWeightLimit digitsThenLetters.tail).toOption.any
      (fun letters => ∀ outcome ∈ (letters.run { sourceFile := some "a" } "old").report.outcomes,
        0 < outcome.matchCount) = true := by decide +kernel
  simp only [Option.any_eq_true, decide_eq_true_eq] at idles applies
  obtain ⟨both, compiled, idle, named⟩ := idles
  obtain ⟨letters, compiled', positive⟩ := applies
  have loaded : Disk.small.readText "a" = .ok "old" := by rfl
  -- What is left to do takes from the disk only what it reads from it.
  generalize Disk.small = disk at loaded ⊢
  have stops := strict_revise_gates {} both "a" ⟨disk, []⟩
  have passes := strict_revise_gates {} letters "a" ⟨disk, []⟩
  dsimp only at stops passes
  rw [loaded] at stops passes
  obtain ⟨failed, left⟩ := stops.1 idle
  rw [named] at failed
  exact ⟨both, letters, _, eq_ok_of_toOption compiled, Prod.ext failed rfl, left,
    eq_ok_of_toOption compiled', passes.2 positive⟩

end Revision

end Emend
