import Emend.Proofs.Pipeline.Composition

/-!
# Logs and reports

A log shows each event with its level, its message and its fields. What a run logs tells of the
outcomes that it reports, one after the other: that a rule begins, a warning if a terminator never
came, a warning if nothing was replaced, and that the rule is done. A pipeline adds one entry for
the whole report. Rules that are compiled on the way add none, and one that does not compile leaves
no trace.
-/

namespace Emend

/-! ## What a log shows -/

/-- What a log shows of an event. -/
structure Entry where
  level : Level
  message : String
  fields : List (String × FieldValue)
deriving DecidableEq, Repr

def Event.entry (event : Event) : Entry := ⟨event.level, event.message, event.fields⟩

def Entry.warning (message rule source : String) : Entry :=
  ⟨.warn, message, [("rule", .text rule), ("source", .text source)]⟩

def Outcome.entries (outcome : Outcome) (description source : String) : List Entry :=
  [⟨.debug, "applying " ++ description,
    [("rule", .text outcome.ruleName), ("index", .number outcome.ruleIndex)]⟩] ++
  (if 0 < outcome.unterminated then
    [.warning "region start found but its terminator never appears; left untouched"
      outcome.ruleName source]
  else []) ++
  (if outcome.matchCount = 0 then [.warning "rule matched nothing" outcome.ruleName source]
  else []) ++
  [⟨.debug, "rule finished",
    [("rule", .text outcome.ruleName), ("matches", .number outcome.matchCount)]⟩]

def Outcome.entriesOf (source : String) (descriptions : List String) (outcomes : List Outcome) :
    List Entry :=
  (descriptions.zip outcomes).flatMap fun (description, outcome) =>
    outcome.entries description source

def Report.closing (report : Report) (source : String) : Entry :=
  ⟨.debug, "rule set applied", [("source", .text source), ("rules", .number report.size),
    ("matches", .number report.totalMatches)]⟩

/-- The rule that has matched nothing, if that is what a warning is about. -/
def Entry.idle? (entry : Entry) : Option String :=
  if entry.level = .warn ∧ entry.message = "rule matched nothing" then
    match entry.fields.lookup "rule" with
    | some (.text rule) => some rule
    | _ => none
  else none

/-- A log tells of a report whose rules are described so: it shows the outcomes in order, each with
all of its entries, and does not close the report. -/
structure Report.ToldBy (report : Report) (descriptions : List String) (source : String)
    (log : List Event) : Prop where
  described : descriptions.length = report.size
  entries_eq : log.map Event.entry = Outcome.entriesOf source descriptions report.outcomes
  unclosed : ∀ event ∈ log, event.message ≠ "rule set applied"

/-! ## Outcomes -/

namespace Outcome

variable {source : String}

theorem map_entry_events (outcome : Outcome) (description source : String) :
    (outcome.events description source).map Event.entry = outcome.entries description source := by
  unfold events entries
  split <;> split <;> rfl

/-- No event of an outcome closes a report. -/
theorem message_ne_of_mem_events {outcome : Outcome} {description : String} {event : Event}
    (member : event ∈ outcome.events description source) :
    event.message ≠ "rule set applied" := by
  have begins : "applying " ++ description ≠ "rule set applied" := by
    intro same
    simpa using congrArg String.toList same
  unfold events at member
  split at member <;> split at member <;> simp at member <;>
    rcases member with rfl | rfl | rfl | rfl <;> simp [Event.message, begins]

theorem entriesOf_concat {descriptions : List String} {outcomes : List Outcome}
    (described : descriptions.length = outcomes.length) (description : String)
    (outcome : Outcome) :
    entriesOf source (descriptions ++ [description]) (outcomes ++ [outcome]) =
      entriesOf source descriptions outcomes ++ outcome.entries description source := by
  simp [entriesOf, List.zip_append described]

/-- The warnings of an outcome name its rule as idle if it replaced nothing. -/
theorem filterMap_idle?_entries (outcome : Outcome) (description : String) :
    (outcome.entries description source).filterMap Entry.idle? =
      if outcome.matchCount = 0 then [outcome.ruleName] else [] := by
  unfold entries
  split <;> split <;> simp [Entry.idle?, Entry.warning]

/-- The warnings of outcomes name the rules that did not apply, where outcomes are marked so. -/
theorem filterMap_idle?_entriesOf {descriptions : List String} {outcomes : List Outcome}
    (described : descriptions.length = outcomes.length)
    (marked : ∀ outcome ∈ outcomes, outcome.applied = true ↔ 0 < outcome.matchCount) :
    (entriesOf source descriptions outcomes).filterMap Entry.idle? =
      (outcomes.filter fun outcome => !outcome.applied).map ruleName := by
  induction outcomes generalizing descriptions with
  | nil => simp [entriesOf]
  | cons outcome rest ih =>
    cases descriptions with
    | nil => cases described
    | cons description descriptions =>
      obtain ⟨first, others⟩ := List.forall_mem_cons.mp marked
      have behind := ih (Nat.succ.inj described) others
      unfold entriesOf at behind ⊢
      rw [List.zip_cons_cons, List.flatMap_cons, List.filterMap_append, behind,
        filterMap_idle?_entries]
      cases applied : outcome.applied with
      | true =>
        have some : ¬ outcome.matchCount = 0 := Nat.ne_of_gt (first.mp applied)
        rw [if_neg some, List.filter_cons_of_neg (by simp [applied])]
        rfl
      | false =>
        have none : outcome.matchCount = 0 := by
          have idle := mt first.mpr (by simp [applied])
          omega
        rw [if_pos none, List.filter_cons_of_pos (by simp [applied])]
        rfl

end Outcome

/-! ## Runs -/

theorem Report.toldBy_empty (source : String) : Report.empty.ToldBy [] source [] :=
  ⟨rfl, rfl, nofun⟩

/-- A log that goes on with the events of an outcome tells of the report with this outcome. -/
theorem Report.ToldBy.push {report : Report} {descriptions : List String} {source : String}
    {log : List Event} (told : report.ToldBy descriptions source log) (outcome : Outcome)
    (description : String) :
    (report.push outcome).ToldBy (descriptions ++ [description]) source
      (log ++ outcome.events description source) where
  described := by
    have described := told.described
    simp [Report.push, Report.size] at described ⊢
    exact described
  entries_eq := by
    rw [List.map_append, told.entries_eq, Outcome.map_entry_events]
    exact (Outcome.entriesOf_concat told.described description outcome).symm
  unclosed := by
    intro event member
    rcases List.mem_append.mp member with earlier | last
    · exact told.unclosed event earlier
    · exact Outcome.message_ne_of_mem_events last

namespace Run

/-- Steps keep the log and the report of a run together. -/
theorem toldBy_steps {context : Context} {run : Run} {descriptions : List String}
    (told : run.report.ToldBy descriptions context.label run.log) (index : Nat)
    (transformations : List Transformation) :
    (run.steps context index transformations).report.ToldBy
      (descriptions ++ transformations.map Transformation.description) context.label
      (run.steps context index transformations).log := by
  induction transformations generalizing run index descriptions with
  | nil => simpa [steps] using told
  | cons transformation rest ih =>
    have step : (run.step context index transformation).report.ToldBy
        (descriptions ++ [transformation.description]) context.label
        (run.step context index transformation).log := told.push _ _
    have later := ih step (index + 1)
    rw [List.append_assoc] at later
    exact later

theorem toldBy_steps_start (context : Context) (buffer : String)
    (transformations : List Transformation) :
    ((start buffer).steps context 0 transformations).report.ToldBy
      (transformations.map Transformation.description) context.label
      ((start buffer).steps context 0 transformations).log := by
  have started : (start buffer).report.ToldBy [] context.label (start buffer).log :=
    Report.toldBy_empty context.label
  exact toldBy_steps started 0 transformations

end Run

/-! ## Strict runs -/

theorem Report.unappliedNames_eq_nil_iff {report : Report} :
    report.unappliedNames = [] ↔ report.allApplied = true := by
  simp [unappliedNames, unapplied, allApplied, List.filter_eq_nil_iff]

/-- What a strict run misses is what the warnings of its log name. -/
theorem Report.ToldBy.require_eq {report : Report} {descriptions names : List String}
    {source : String} {log : List Event} (told : report.ToldBy descriptions source log)
    (lists : report.Lists names) :
    let idle := (log.map Event.entry).filterMap Entry.idle?
    report.require = if idle = [] then .ok () else .error ⟨idle⟩ := by
  have idle_eq : (log.map Event.entry).filterMap Entry.idle? = report.unappliedNames := by
    rw [told.entries_eq]
    exact Outcome.filterMap_idle?_entriesOf told.described lists.applied_iff
  dsimp only
  rw [idle_eq]
  unfold require
  simp only [unappliedNames_eq_nil_iff]

/-! ## The log and the report -/

theorem Pipeline.exists_rules_of_ofSpecs {limit : Nat} {specs : List RuleSpec}
    {pipeline : Pipeline} (compiles : ofSpecs limit specs = .ok pipeline) :
    ∃ rules, specs.mapM (Rule.compile limit) = .ok rules ∧
      pipeline.transformations = rules.map Rule.transformation := by
  unfold ofSpecs at compiles
  obtain ⟨rules, compiled, made⟩ := exists_of_bind_eq_ok compiles
  cases made
  exact ⟨rules, compiled, rfl⟩

/-- What the steps of rules log tells of their outcomes, under their descriptions. -/
theorem Run.toldBy_steps_of_ofSpecs {limit : Nat} {specs : List RuleSpec} {pipeline : Pipeline}
    (context : Context) (buffer : String)
    (compiles : Pipeline.ofSpecs limit specs = .ok pipeline) :
    ∃ rules, specs.mapM (Rule.compile limit) = .ok rules ∧
      ((start buffer).steps context 0 pipeline.transformations).report.ToldBy
        (rules.map Rule.description) context.label
        ((start buffer).steps context 0 pipeline.transformations).log := by
  obtain ⟨rules, compiled, same⟩ := Pipeline.exists_rules_of_ofSpecs compiles
  have told := toldBy_steps_start context buffer pipeline.transformations
  have described : pipeline.transformations.map Transformation.description =
      rules.map Rule.description := by
    rw [same, List.map_map]
    rfl
  rw [described] at told
  exact ⟨rules, compiled, told⟩

/-- **The log and the report agree.** What a pipeline of any transformations logs tells of the
outcomes that it reports, in order; then one entry closes the report. The rules that a strict run
misses are those that its warnings name. What rules log that are compiled on the way tells of the
outcomes in their report, whether the run ends or is stopped, and does not close it; the rule that
stops a run leaves no trace. -/
theorem log_tells_of_report (limit : Nat) (context : Context) (buffer : String) :
    (∀ pipeline : Pipeline,
      let run := pipeline.run context buffer
      let idle := (run.log.map Event.entry).filterMap Entry.idle?
      (∃ log last, run.log = log ++ [last] ∧ last.entry = run.report.closing context.label ∧
        run.report.ToldBy (pipeline.transformations.map Transformation.description)
          context.label log) ∧
      run.report.require = if idle = [] then .ok () else .error ⟨idle⟩) ∧
    ∀ specs : List RuleSpec,
      match applySpecs limit context specs buffer with
      | .ok run =>
        ∃ rules, specs.mapM (Rule.compile limit) = .ok rules ∧
          run.report.ToldBy (rules.map Rule.description) context.label run.log
      | .error stopped =>
        (∃ spec, specs[stopped.ruleIndex]? = some spec ∧
          Rule.compile limit spec = .error stopped.error) ∧
        ∃ rules, (specs.take stopped.ruleIndex).mapM (Rule.compile limit) = .ok rules ∧
          stopped.run.report.ToldBy (rules.map Rule.description) context.label
            stopped.run.log := by
  refine ⟨?pipelines, ?stepwise⟩
  case pipelines =>
    intro pipeline
    have told := Run.toldBy_steps_start context buffer pipeline.transformations
    have required := told.require_eq (pipeline.lists_run context buffer)
    have closes (report : Report) : (Event.rulesApplied context.label report.size
        report.totalMatches).entry = report.closing context.label := rfl
    have silent (report : Report) : (report.closing context.label).idle? = none := rfl
    refine ⟨⟨_, _, rfl, closes _, told⟩, ?_⟩
    -- The entry that closes the report is no warning.
    unfold Pipeline.run
    dsimp only at required ⊢
    rw [List.map_append, List.filterMap_append, List.map_singleton, closes,
      List.filterMap_cons_none (silent _), List.filterMap_nil, List.append_nil]
    exact required
  case stepwise =>
    intro specs
    cases applied : applySpecs limit context specs buffer with
    | ok run =>
      obtain ⟨pipeline, compiles, rfl⟩ := exists_pipeline_of_applySpecs applied
      exact Run.toldBy_steps_of_ofSpecs context buffer compiles
    | error stopped =>
      have behind := stoppedBehind_of_interrupted applied
      obtain ⟨pipeline, compiles, same⟩ := behind.earlier
      dsimp only
      rw [same]
      exact ⟨behind.fails, Run.toldBy_steps_of_ofSpecs context buffer compiles⟩

end Emend
