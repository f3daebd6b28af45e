import Emend.Cli.Basic
import Emend.Proofs.Pipeline.Composition
import Emend.Proofs.Report.Entries
import Emend.Proofs.Revision.Delivered
import Emend.Proofs.RuleFile.RoundTrip

/-!
# What a run prints

A run prints last: nothing that can fail comes after it. So a run that fails has printed nothing,
and a run that succeeds tells of the disk as it is. What it tells is the number of lines of what the
rules made of the source, both as they lay on the disk before the run, and the report of the rules
if that is wanted.
-/

namespace Emend.Cli

variable {options : Options} {console after : Console}

/-! ## Parts of a run -/

theorem run_toward {α : Type} (purpose : Purpose) (action : Action α) (console : Console) :
    (toward purpose action).run console =
      ((action.run console.session).1.mapError (Trouble.mk purpose),
        { console with session := (action.run console.session).2 }) := by
  unfold toward
  rw [run_bind, run_get]
  dsimp only
  cases action.run console.session with
  | mk result session => cases result <;> rfl

theorem run_print (text : String) (console : Console) :
    (print text).run console =
      (.ok (), { console with printed := console.printed ++ text }) := rfl

/-- What a run prints behind its first line. -/
def appendix (options : Options) (report : Report) : String :=
  if options.report then report.write ++ "\n" else ""

theorem run_tell (options : Options) (summary : Summary) (console : Console) :
    (tell options summary).run console =
      (.ok (), { console with
        printed := console.printed ++
          (headline options summary ++ appendix options summary.report) }) := by
  unfold tell appendix
  rw [run_bind, run_print]
  dsimp only
  cases options.report with
  | true =>
    rw [if_pos rfl, if_pos rfl, run_print]
    dsimp only
    rw [String.append_assoc]
  | false =>
    rw [if_neg Bool.false_ne_true, if_neg Bool.false_ne_true, String.append_empty]
    rfl

def rulesOn (options : Options) (disk : Disk) : Except Failure (List RuleSpec) :=
  (disk.readText options.rules).mapError (.disk options.rules) >>= fun text =>
    (RuleFile.parse options.rules text).mapError .ruleFile

theorem exists_of_rulesOn_eq_ok {disk : Disk} {specs : List RuleSpec}
    (loaded : rulesOn options disk = .ok specs) :
    ∃ text, disk.readText options.rules = .ok text ∧
      RuleFile.parse options.rules text = .ok specs := by
  obtain ⟨text, read, parsed⟩ := exists_of_bind_eq_ok loaded
  exact ⟨text, eq_ok_of_mapError_eq_ok read, eq_ok_of_mapError_eq_ok parsed⟩

/-! ## The course of a run -/

/-- How a run ends: without rules, with a revision that fails, or with a revision that is told of. -/
inductive Performed (options : Options) (console : Console) :
    Except Trouble Summary → Console → Prop where
  | unread {failure : Failure} (refused : rulesOn options console.session.disk = .error failure) :
      Performed options console (.error ⟨.loadRules options.rules, failure⟩) console
  | stopped {specs : List RuleSpec} {purpose : Purpose} {failure : Failure} {session : Session}
      (loaded : rulesOn options console.session.disk = .ok specs)
      (course : options.revision.Course specs options.file console.session.disk (.error failure)
        session.disk) :
      Performed options console (.error ⟨purpose, failure⟩) { console with session }
  | told {specs : List RuleSpec} {summary : Summary} {session : Session}
      (loaded : rulesOn options console.session.disk = .ok specs)
      (course : options.revision.Course specs options.file console.session.disk (.ok summary)
        session.disk) :
      Performed options console (.ok summary) {
        session
        printed := console.printed ++
          (headline options summary ++ appendix options summary.report) }

/-- Once there are rules, what is left is compiling them, revising and telling. -/
theorem performed_of_revise {specs : List RuleSpec} {result : Except Trouble Summary}
    (loaded : rulesOn options console.session.disk = .ok specs) (ready : Session)
    (same : ready.disk = console.session.disk)
    (ran : (do
      let pipeline ← toward (.compileRules options.rules) (options.revision.compile specs)
      let summary ← toward (.revise options.file) (options.revision.revise pipeline options.file)
      tell options summary
      return summary : Task Summary).run { console with session := ready } = (result, after)) :
    Performed options console result after := by
  rw [run_bind, run_toward] at ran
  unfold Revision.compile at ran
  cases compiled : Pipeline.ofSpecs options.revision.weightLimit specs with
  | error error =>
    rw [compiled] at ran
    cases ran
    have course : options.revision.Course specs options.file console.session.disk
        (.error (.rule error)) ready.disk := by
      rw [same]
      exact .uncompiled compiled
    exact .stopped loaded course
  | ok pipeline =>
    rw [compiled] at ran
    have compile_eq (session : Session) : (pure pipeline : Action Pipeline).run session =
      (.ok pipeline, session) := rfl
    dsimp only at ran
    rw [compile_eq] at ran
    dsimp only [Except.mapError] at ran
    rw [run_bind, run_toward] at ran
    dsimp only at ran
    cases revised : (options.revision.revise pipeline options.file).run ready with
    | mk revised_result session =>
      have course := Revision.course_of_revise compiled revised
      rw [same] at course
      rw [revised] at ran
      cases revised_result with
      | error failure =>
        cases ran
        exact .stopped loaded course
      | ok summary =>
        dsimp only [Except.mapError] at ran
        rw [run_bind, run_tell] at ran
        cases ran
        exact .told loaded course

theorem performed_of_run {result : Except Trouble Summary}
    (ran : (perform options).run console = (result, after)) :
    Performed options console result after := by
  have rules_eq : (console.session.disk.readText options.rules).mapError (.disk options.rules) >>=
      (fun text => (RuleFile.parse options.rules text).mapError .ruleFile) =
      rulesOn options console.session.disk := rfl
  unfold perform at ran
  rw [run_bind, run_toward, run_bind, Action.run_loadRules, rules_eq] at ran
  cases loaded : rulesOn options console.session.disk with
  | error failure =>
    rw [loaded] at ran
    cases ran
    exact .unread loaded
  | ok specs =>
    rw [loaded] at ran
    exact performed_of_revise loaded
      { console.session with log := console.session.log ++ [.rulesLoaded specs.length] } rfl ran

/-! ## What is told -/

/-- The rules that a disk holds for a run, the text that it holds for them, and what they make of
it. Other limits under which the rules compile, and other contexts, make no difference. -/
structure Holds (options : Options) (disk : Disk) (specs : List RuleSpec) (text : String)
    (emended : Emended) : Prop where
  rules : ∃ written, disk.readText options.rules = .ok written ∧
    RuleFile.parse options.rules written = .ok specs
  source : disk.readText options.file = .ok text
  yields : ∀ context, Yields options.revision.weightLimit context specs text emended
  settled : ∀ limit context run, applySpecs limit context specs text = .ok run →
    run.toEmended = emended

/-- What is printed behind the first line: nothing, or the report with an entry for each rule. -/
structure Follows (options : Options) (specs : List RuleSpec) (report : Report) (rest : String) :
    Prop where
  unwanted : options.report = false → rest = ""
  wanted : options.report = true → rest = report.toJson.pretty ++ "\n"
  /-- The report is one value, with an entry for each outcome. -/
  entries : options.report = true → (∀ outcome ∈ report.outcomes, outcome.Fits) →
    ∃ entries, Json.parse rest = .ok (.array entries) ∧
      List.Forall₂ Outcome.IsEntry report.outcomes entries
  lists : report.Lists (specs.map RuleSpec.name)

/-- Rules from a rule file are told of under their names. -/
theorem displayName_of_parse {origin text : String} {specs : List RuleSpec}
    (parsed : RuleFile.parse origin text = .ok specs) :
    specs.map RuleSpec.displayName = specs.map RuleSpec.name := by
  obtain ⟨-, named⟩ := RuleFile.named_of_parse parsed
  refine List.map_congr_left ?_
  intro spec member
  unfold RuleSpec.displayName
  rw [if_neg]
  simpa using named spec member

section Emends

variable {disk : Disk} {specs : List RuleSpec} {text : String} {emended : Emended}

theorem holds_of_emends (loaded : rulesOn options disk = .ok specs)
    (emends : options.revision.Emends specs options.file disk text emended) :
    Holds options disk specs text emended where
  rules := exists_of_rulesOn_eq_ok loaded
  source := emends.loaded
  yields := emends.yields.elsewhere
  settled := by
    intro limit context run applied
    obtain ⟨other, again, same⟩ := emends.yields.stepwise
    exact (toEmended_eq_of_applySpecs applied again).trans same

theorem follows_of_emends (loaded : rulesOn options disk = .ok specs)
    (emends : options.revision.Emends specs options.file disk text emended) :
    Follows options specs emended.report (appendix options emended.report) where
  unwanted := by
    intro unwanted
    unfold appendix
    rw [unwanted]
    rfl
  wanted := by
    intro wanted
    unfold appendix
    rw [wanted]
    rfl
  entries := by
    intro wanted fits
    obtain ⟨entries, -, parsed, alike⟩ := Report.exists_entries_of_fits fits
    unfold appendix
    rw [wanted]
    exact ⟨entries, parsed, alike⟩
  lists := by
    obtain ⟨_, -, parsed⟩ := exists_of_rulesOn_eq_ok loaded
    obtain ⟨run, applied, rfl⟩ := emends.yields.stepwise
    have lists := lists_applySpecs options.revision.weightLimit
      { sourceFile := some options.file } specs text
    rw [applied] at lists
    rwa [← displayName_of_parse parsed]

end Emends

def completion (options : Options) (emended : Emended) : String :=
  "Rewrite complete: " ++ options.revision.outputFor options.file ++ " now has " ++
    toString (lineCount emended.buffer) ++ " lines\n" ++ appendix options emended.report

def prediction (options : Options) (emended : Emended) : String :=
  "Dry run: " ++ options.file ++ " would have " ++ toString (lineCount emended.buffer) ++
    " lines\n" ++ appendix options emended.report

namespace Performed

variable {summary : Summary}

/-- A run that is not dry tells what its output then holds. -/
theorem complete (performed : Performed options console (.ok summary) after)
    (wet : options.revision.dryRun = false) :
    ∃ specs text emended, rulesOn options console.session.disk = .ok specs ∧
      options.revision.Emends specs options.file console.session.disk text emended ∧
      after.printed = console.printed ++ completion options emended ∧
      after.session.disk.readText (options.revision.outputFor options.file) =
        .ok emended.buffer := by
  cases performed with
  | @told specs _ session loaded course =>
    obtain ⟨text, emended, backup, emends, delivery, rfl⟩ := course.delivery_of_ok wet
    have delivered := Revision.delivered_of_delivery emends.loaded delivery
    exact ⟨specs, text, emended, loaded, emends, rfl,
      Disk.readText_eq_ok_iff.mpr delivered.written⟩

theorem dry (performed : Performed options console (.ok summary) after)
    (dryRun : options.revision.dryRun = true) :
    ∃ specs text emended, rulesOn options console.session.disk = .ok specs ∧
      options.revision.Emends specs options.file console.session.disk text emended ∧
      after.printed = console.printed ++ prediction options emended ∧
      after.session.disk = console.session.disk := by
  cases performed with
  | @told specs _ session loaded course =>
    obtain ⟨text, emended, emends, rfl, same⟩ := course.emends_of_dry dryRun
    exact ⟨specs, text, emended, loaded, emends, rfl, same⟩

end Performed

/-- The run that writes what a dry one would. -/
def Options.wet (options : Options) : Options :=
  { options with revision := { options.revision with dryRun := false } }

/-- What the rules make of a source has nothing to do with its being written. -/
theorem completion_of_wet {disk : Disk} {specs others : List RuleSpec} {text other : String}
    {emended elsewhere : Emended}
    (loaded : rulesOn options disk = .ok specs)
    (emends : options.revision.Emends specs options.file disk text emended)
    (again : rulesOn options.wet disk = .ok others)
    (wet : options.wet.revision.Emends others options.wet.file disk other elsewhere) :
    completion options.wet elsewhere = completion options emended := by
  have rules_eq : rulesOn options.wet disk = rulesOn options disk := rfl
  rw [rules_eq, loaded] at again
  cases again
  have written : options.revision.Emends specs options.file disk other elsewhere :=
    ⟨wet.loaded, wet.compiled, wet.applied⟩
  obtain ⟨-, rfl⟩ := emends.unique written
  rfl

/-- **The console tells the truth.** A run that fails has printed nothing, and has left the files
that there were, as they were, and no others; the one exception is a stranded backup. A run that
succeeds tells what its rules, as they were on the disk, make of its source, as it was: it prints
the number of lines, and the report if that is wanted. If the run is not dry, that is what the
output now holds. If it is dry, nothing has changed, and the run that is not dry prints the same
number and the same report when it succeeds. -/
theorem perform_tells_truth (options : Options) (console : Console)
    (tree : console.session.disk.IsTree) :
    let output := options.revision.outputFor options.file
    (∀ trouble after, (perform options).run console = (.error trouble, after) →
      after.printed = console.printed ∧
        (console.session.disk.OnlyRoom after.session.disk output ∨
          options.revision.Stranded output trouble.failure console.session.disk
            after.session.disk)) ∧
    ∀ summary after, (perform options).run console = (.ok summary, after) →
      ∃ specs text emended rest,
        Holds options console.session.disk specs text emended ∧
        Follows options specs emended.report rest ∧
        let complete := "Rewrite complete: " ++ output ++ " now has " ++
          toString (lineCount emended.buffer) ++ " lines\n" ++ rest
        (options.revision.dryRun = false →
          after.printed = console.printed ++ complete ∧
            after.session.disk.readText output = .ok emended.buffer) ∧
        (options.revision.dryRun = true →
          after.session.disk = console.session.disk ∧
          after.printed = console.printed ++ ("Dry run: " ++ options.file ++ " would have " ++
            toString (lineCount emended.buffer) ++ " lines\n" ++ rest) ∧
          ∀ done later, (perform options.wet).run console = (.ok done, later) →
            later.printed = console.printed ++ complete) := by
  refine ⟨?_, ?_⟩
  · intro trouble after ran
    cases performed_of_run ran with
    | unread => exact ⟨rfl, .inl (.refl _ _)⟩
    | stopped loaded course => exact ⟨rfl, course.of_error tree⟩
  · intro summary after ran
    have performed := performed_of_run ran
    cases dryRun : options.revision.dryRun with
    | false =>
      obtain ⟨specs, text, emended, loaded, emends, printed, written⟩ := performed.complete dryRun
      exact ⟨specs, text, emended, _, holds_of_emends loaded emends,
        follows_of_emends loaded emends, fun _ => ⟨printed, written⟩, nofun⟩
    | true =>
      obtain ⟨specs, text, emended, loaded, emends, printed, same⟩ := performed.dry dryRun
      refine ⟨specs, text, emended, _, holds_of_emends loaded emends,
        follows_of_emends loaded emends, nofun, fun _ => ⟨same, printed, ?_⟩⟩
      intro done later finished
      obtain ⟨_, _, _, again, wet, told, -⟩ := (performed_of_run finished).complete rfl
      rw [told, completion_of_wet loaded emends again wet]
      rfl

def ruled : Disk where
  entries := [(["work"], .directory), (["work", "d"], .directory),
    (["work", "a"], .file "old".toUTF8), (["work", "a.bak"], .file "kept".toUTF8),
    (["work", "r.json"], .file "[\x7b\"pattern\":\"l\",\"replacement\":\"L\"\x7d]".toUTF8)]
  workingDirectory := ["work"]

def carefully (file : String) : Options where
  rules := "r.json"
  file := file
  report := true
  verbose := false
  revision := .careful

theorem ruled_isTree : ruled.IsTree := Disk.isTree_of_entries (by rfl) (by decide)

theorem perform_tells_truth_carefully :
    ruled.IsTree ∧ ∃ summary after,
      (perform (carefully "a")).run ⟨⟨ruled, []⟩, ""⟩ = (.ok summary, after) ∧
      ∃ specs text emended rest,
        Holds (carefully "a") ruled specs text emended ∧
        Follows (carefully "a") specs emended.report rest ∧
        after.printed = "" ++ ("Rewrite complete: a now has " ++
          toString (lineCount emended.buffer) ++ " lines\n" ++ rest) ∧
        after.session.disk.readText "a" = .ok emended.buffer := by
  have succeeds : ((perform (carefully "a")).run ⟨⟨ruled, []⟩, ""⟩).1.isOk = true := by
    decide +kernel
  have truth := (perform_tells_truth (carefully "a") ⟨⟨ruled, []⟩, ""⟩ ruled_isTree).2
  generalize (perform (carefully "a")).run ⟨⟨ruled, []⟩, ""⟩ = ran at truth succeeds ⊢
  obtain ⟨result, after⟩ := ran
  obtain ⟨summary, rfl⟩ := exists_of_isOk succeeds
  obtain ⟨specs, text, emended, rest, holds, follows, complete, -⟩ := truth summary after rfl
  exact ⟨ruled_isTree, summary, after, rfl, specs, text, emended, rest, holds, follows,
    complete rfl⟩

theorem carefully_strands {slashes : Nat} (many : 4081 ≤ slashes) (fits : slashes ≤ 4085) :
    ∃ trouble after,
      (perform (carefully (Path.roundabout slashes ['a']))).run ⟨⟨ruled, []⟩, ""⟩ =
        (.error trouble, after) ∧
      after.session.disk = ruled.put ["work", "a.bak"] (.file "old".toUTF8) := by
  have detour : ruled.HasDetour "old".toUTF8 := ⟨ruled_isTree, by rfl, by rfl, nofun⟩
  have rules_eq : (rulesOn (carefully "a") ruled).toOption =
      some [{ name := "rule-1", pattern := "l", replacement := "L" }] := by decide +kernel
  have compiles : (Pipeline.ofSpecs Revision.careful.weightLimit
      [{ name := "rule-1", pattern := "l", replacement := "L" }]).isOk = true := by decide +kernel
  obtain ⟨pipeline, compiled⟩ := exists_of_isOk compiles
  have same : rulesOn (carefully (Path.roundabout slashes ['a'])) ruled = .ok _ :=
    eq_ok_of_toOption rules_eq
  cases ran : (perform (carefully (Path.roundabout slashes ['a']))).run ⟨⟨ruled, []⟩, ""⟩ with
  | mk result after =>
    cases performed_of_run ran with
    | unread refused => cases refused.symm.trans same
    | stopped loaded course =>
      cases loaded.symm.trans same
      exact ⟨_, _, rfl, (course.of_detour detour compiled many fits).2⟩
    | told loaded course =>
      cases loaded.symm.trans same
      obtain ⟨⟨failure, clash⟩, -⟩ := course.of_detour detour compiled many fits
      cases clash

/-- A run that fails may leave another file than it found: the backup of its output. -/
theorem exists_failure_behind_backup :
    ruled.IsTree ∧ ruled.readText "a.bak" = .ok "kept" ∧ ∃ trouble after,
      (perform (carefully (Path.roundabout 4085 ['a']))).run ⟨⟨ruled, []⟩, ""⟩ =
        (.error trouble, after) ∧
      after.session.disk.readText "a.bak" = .ok "old" := by
  have strands := carefully_strands (Nat.le_add_right 4081 4) (Nat.le_refl 4085)
  obtain ⟨trouble, after, ran, left⟩ := strands
  have before : (ruled.readText "a.bak").toOption = some "kept" := by decide +kernel
  have overwritten : ((ruled.put ["work", "a.bak"] (.file "old".toUTF8)).readText
      "a.bak").toOption = some "old" := by decide +kernel
  refine ⟨ruled_isTree, eq_ok_of_toOption before, trouble, after, ran, ?_⟩
  rw [left]
  exact eq_ok_of_toOption overwritten

end Emend.Cli
