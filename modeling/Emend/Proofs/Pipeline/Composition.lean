import Emend.Proofs.Checks
import Emend.Proofs.Pipeline.Compilation
import Emend.Proofs.Rule.Compiled

/-!
# Runs one behind the other

What transformations do behind others is what they do on their own to the buffer that the others
leave. Only the numbers differ: the outcomes and events of the second run count on from the first
one. So a list of rules can be cut anywhere, also where a rule stops it by not compiling, and every
report lists its rules in order.
-/

namespace Emend

/-! ## Counting on -/

def Outcome.shift (count : Nat) (outcome : Outcome) : Outcome :=
  { outcome with ruleIndex := count + outcome.ruleIndex }

def Event.shift (count : Nat) : Event → Event
  | .applying description rule index => .applying description rule (count + index)
  | event => event

@[simp] theorem Outcome.shift_shift (first second : Nat) (outcome : Outcome) :
    (outcome.shift second).shift first = outcome.shift (first + second) := by
  simp [shift, Nat.add_assoc]

@[simp] theorem Event.shift_shift (first second : Nat) (event : Event) :
    (event.shift second).shift first = event.shift (first + second) := by
  cases event <;> simp [shift, Nat.add_assoc]

@[simp] theorem Emendation.shift_outcome (emendation : Emendation) (first second : Nat)
    (name : String) :
    (emendation.outcome second name).shift first = emendation.outcome (first + second) name := rfl

@[simp] theorem Outcome.map_shift_events (outcome : Outcome) (count : Nat)
    (description source : String) :
    (outcome.events description source).map (Event.shift count) =
      (outcome.shift count).events description source := by
  unfold events shift
  split <;> split <;> rfl

/-- What was done to a buffer first, and then, behind `count` transformations, to what was left
of it. -/
def Emended.followedBy (first : Emended) (count : Nat) (second : Emended) : Emended where
  buffer := second.buffer
  report := ⟨first.report.outcomes ++ second.report.outcomes.map (Outcome.shift count)⟩

namespace Run

/-- A run and a second one behind its `count` transformations. -/
def followedBy (first : Run) (count : Nat) (second : Run) : Run where
  toEmended := first.toEmended.followedBy count second.toEmended
  log := first.log ++ second.log.map (Event.shift count)

@[simp] theorem followedBy_start (run : Run) (count : Nat) :
    run.followedBy count (.start run.buffer) = run := by
  simp [followedBy, Emended.followedBy, start, Report.empty]

theorem followedBy_assoc (first : Run) (count more : Nat) (second third : Run) :
    first.followedBy count (second.followedBy more third) =
      (first.followedBy count second).followedBy (count + more) third := by
  simp [followedBy, Emended.followedBy, Function.comp_def]

/-- A step on its own is the same step behind others, but for its number. -/
theorem followedBy_step_start (context : Context) (run : Run) (index : Nat)
    (transformation : Transformation) :
    run.followedBy index ((start run.buffer).step context 0 transformation) =
      run.step context index transformation := by
  simp [step, followedBy, Emended.followedBy, start, Report.empty, Report.push]

/-! ## Steps behind others -/

/-- Steps behind a run do what they do on their own to the buffer that it leaves. -/
theorem steps_eq_followedBy (context : Context) (run : Run) (index : Nat)
    (transformations : List Transformation) :
    run.steps context index transformations =
      run.followedBy index ((start run.buffer).steps context 0 transformations) := by
  induction transformations generalizing run index with
  | nil => exact (run.followedBy_start index).symm
  | cons transformation rest ih =>
    have front := run.followedBy_step_start context index transformation
    have same : ((start run.buffer).step context 0 transformation).buffer =
        (run.step context index transformation).buffer := rfl
    rw [steps, ih, steps, ih ((start run.buffer).step context 0 transformation), followedBy_assoc,
      front, same]

theorem steps_append (context : Context) (run : Run) (index : Nat)
    (first second : List Transformation) :
    run.steps context index (first ++ second) =
      (run.steps context index first).steps context (index + first.length) second := by
  induction first generalizing run index with
  | nil => rfl
  | cons transformation rest ih =>
    rw [List.cons_append, steps, ih, steps, List.length_cons, Nat.add_right_comm, Nat.add_assoc]

/-! ## Interruptions -/

theorem compileSteps_cons_of_ok {limit : Nat} {spec : RuleSpec} {rule : Rule} (context : Context)
    (run : Run) (index : Nat) (rest : List RuleSpec)
    (compiles : Rule.compile limit spec = .ok rule) :
    run.compileSteps limit context index (spec :: rest) =
      (run.step context index rule.transformation).compileSteps limit context (index + 1) rest := by
  conv => lhs; unfold compileSteps
  rw [compiles]

theorem compileSteps_cons_of_error {limit : Nat} {spec : RuleSpec} {error : RuleError}
    (context : Context) (run : Run) (index : Nat) (rest : List RuleSpec)
    (fails : Rule.compile limit spec = .error error) :
    run.compileSteps limit context index (spec :: rest) = .error ⟨index, run, error⟩ := by
  unfold compileSteps
  rw [fails]

/-- What becomes of a run when a second one, behind its `count` rules, ends or is stopped. -/
def joined (first : Run) (count : Nat) : Except Interrupted Run → Except Interrupted Run
  | .ok second => .ok (first.followedBy count second)
  | .error stopped =>
    .error ⟨count + stopped.ruleIndex, first.followedBy count stopped.run, stopped.error⟩

theorem joined_joined (first second : Run) (count more : Nat) (result : Except Interrupted Run) :
    first.joined count (second.joined more result) =
      (first.followedBy count second).joined (count + more) result := by
  cases result with
  | ok third => exact congrArg Except.ok (followedBy_assoc ..)
  | error stopped => simp [joined, followedBy_assoc, Nat.add_assoc]

/-- Rules behind a run do, and fail, as they do on their own. -/
theorem compileSteps_eq_joined (limit : Nat) (context : Context) (run : Run) (index : Nat)
    (specs : List RuleSpec) :
    run.compileSteps limit context index specs =
      run.joined index ((start run.buffer).compileSteps limit context 0 specs) := by
  induction specs generalizing run index with
  | nil => exact congrArg Except.ok (run.followedBy_start index).symm
  | cons spec rest ih =>
    cases compiled : Rule.compile limit spec with
    | error error =>
      rw [compileSteps_cons_of_error context run index rest compiled,
        compileSteps_cons_of_error context _ 0 rest compiled]
      simp [joined]
    | ok rule =>
      have front := run.followedBy_step_start context index rule.transformation
      have same : ((start run.buffer).step context 0 rule.transformation).buffer =
          (run.step context index rule.transformation).buffer := rfl
      rw [compileSteps_cons_of_ok context run index rest compiled,
        compileSteps_cons_of_ok context _ 0 rest compiled, ih,
        ih ((start run.buffer).step context 0 rule.transformation), joined_joined, front, same]

theorem compileSteps_append (limit : Nat) (context : Context) (run : Run) (index : Nat)
    (first second : List RuleSpec) :
    run.compileSteps limit context index (first ++ second) =
      run.compileSteps limit context index first >>= fun middle =>
        middle.compileSteps limit context (index + first.length) second := by
  induction first generalizing run index with
  | nil => rfl
  | cons spec rest ih =>
    rw [List.cons_append]
    cases compiled : Rule.compile limit spec with
    | error error =>
      rw [compileSteps_cons_of_error context run index _ compiled,
        compileSteps_cons_of_error context run index _ compiled]
      rfl
    | ok rule =>
      rw [compileSteps_cons_of_ok context run index _ compiled,
        compileSteps_cons_of_ok context run index _ compiled, ih, List.length_cons,
        Nat.add_right_comm, Nat.add_assoc]

end Run

/-! ## Reports in order -/

/-- A report lists rules under their names, numbered from zero on. -/
structure Report.Lists (report : Report) (names : List String) : Prop where
  ruleName_eq : report.outcomes.map Outcome.ruleName = names
  ruleIndex_eq : report.outcomes.map Outcome.ruleIndex = List.range names.length
  applied_iff : ∀ outcome ∈ report.outcomes, outcome.applied = true ↔ 0 < outcome.matchCount

theorem Report.lists_empty : Report.empty.Lists [] := ⟨rfl, rfl, nofun⟩

theorem Report.Lists.push {report : Report} {names : List String} (lists : report.Lists names)
    (emendation : Emendation) (name : String) :
    (report.push (emendation.outcome names.length name)).Lists (names ++ [name]) where
  ruleName_eq := by simp [Report.push, lists.ruleName_eq, Emendation.outcome]
  ruleIndex_eq := by
    simp [Report.push, lists.ruleIndex_eq, Emendation.outcome, List.range_succ]
  applied_iff := by
    intro outcome member
    rcases List.mem_append.mp member with earlier | last
    · exact lists.applied_iff outcome earlier
    · cases List.mem_singleton.mp last
      exact decide_eq_true_iff

namespace Run

theorem lists_steps (context : Context) {run : Run} {names : List String}
    (lists : run.report.Lists names) (transformations : List Transformation) :
    (run.steps context names.length transformations).report.Lists
      (names ++ transformations.map Transformation.name) := by
  induction transformations generalizing run names with
  | nil => simpa [steps] using lists
  | cons transformation rest ih =>
    have step := lists.push (transformation.emend context run.buffer) transformation.name
    have steps : ((run.step context names.length transformation).steps context
        (names ++ [transformation.name]).length rest).report.Lists _ := ih step
    simpa [Run.steps] using steps

end Run

theorem Pipeline.lists_run (pipeline : Pipeline) (context : Context) (buffer : String) :
    (pipeline.run context buffer).report.Lists pipeline.names := by
  have started : (Run.start buffer).report.Lists [] := Report.lists_empty
  exact Run.lists_steps context started pipeline.transformations

/-- A rule goes by the name that its specification shows. -/
theorem Rule.name_of_compile {limit : Nat} {spec : RuleSpec} {rule : Rule}
    (compiles : Rule.compile limit spec = .ok rule) : rule.name = spec.displayName :=
  (compile_eq_ok_iff.mp compiles).name_eq

theorem Pipeline.names_of_ofSpecs {limit : Nat} {specs : List RuleSpec} {pipeline : Pipeline}
    (compiles : ofSpecs limit specs = .ok pipeline) :
    pipeline.names = specs.map RuleSpec.displayName := by
  induction specs generalizing pipeline with
  | nil =>
    cases compiles
    rfl
  | cons spec rest ih =>
    obtain ⟨rule, later, first, others, rfl⟩ := exists_of_ofSpecs_cons compiles
    have named : rule.transformation.name = spec.displayName := Rule.name_of_compile first
    have behind := ih others
    unfold names at behind ⊢
    rw [List.map_cons, List.map_cons, named, behind]

/-- The report of a run lists its rules, up to the one that stops it. -/
theorem lists_applySpecs (limit : Nat) (context : Context) (specs : List RuleSpec)
    (buffer : String) :
    match applySpecs limit context specs buffer with
    | .ok run => run.report.Lists (specs.map RuleSpec.displayName)
    | .error stopped =>
      stopped.run.report.Lists ((specs.take stopped.ruleIndex).map RuleSpec.displayName) := by
  cases applied : applySpecs limit context specs buffer with
  | ok run =>
    obtain ⟨pipeline, compiles, rfl⟩ := exists_pipeline_of_applySpecs applied
    dsimp only
    rw [← Pipeline.names_of_ofSpecs compiles]
    exact pipeline.lists_run context buffer
  | error stopped =>
    obtain ⟨pipeline, compiles, same⟩ := exists_pipeline_of_interrupted applied
    dsimp only
    rw [same, ← Pipeline.names_of_ofSpecs compiles]
    exact pipeline.lists_run context buffer

/-! ## Cutting a run -/

/-- **Runs are compositional.** A pipeline may be cut anywhere: its second part does to what the
first one leaves what it does on its own, and counts on in the report. The same is true of rules
that are compiled step by step, when the first part is stopped, and when the second one is. Every
report lists its rules in order. -/
theorem run_append_eq_followedBy (limit : Nat) (context : Context) (buffer : String) :
    (∀ first second : List Transformation,
      let front := (Pipeline.run ⟨first⟩ context buffer).toEmended
      (Pipeline.run ⟨first ++ second⟩ context buffer).toEmended =
        front.followedBy first.length (Pipeline.run ⟨second⟩ context front.buffer).toEmended) ∧
    (∀ first second : List RuleSpec,
      applySpecs limit context (first ++ second) buffer =
        match applySpecs limit context first buffer with
        | .error stopped => .error stopped
        | .ok front =>
          match applySpecs limit context second front.buffer with
          | .ok back => .ok (front.followedBy first.length back)
          | .error stopped => .error {
              ruleIndex := first.length + stopped.ruleIndex
              run := front.followedBy first.length stopped.run
              error := stopped.error }) ∧
    (∀ pipeline : Pipeline, (pipeline.run context buffer).report.Lists pipeline.names) ∧
    ∀ specs : List RuleSpec,
      match applySpecs limit context specs buffer with
      | .ok run => run.report.Lists (specs.map RuleSpec.displayName)
      | .error stopped =>
        stopped.run.report.Lists ((specs.take stopped.ruleIndex).map RuleSpec.displayName) := by
  refine ⟨?_, ?_, ?_, ?_⟩
  · intro first second
    have parts := Run.steps_append context (.start buffer) 0 first second
    rw [Nat.zero_add, Run.steps_eq_followedBy context _ first.length] at parts
    exact congrArg Run.toEmended parts
  · intro first second
    have parts := Run.compileSteps_append limit context (.start buffer) 0 first second
    unfold applySpecs
    rw [parts, Nat.zero_add]
    cases (Run.start buffer).compileSteps limit context 0 first with
    | error stopped => rfl
    | ok front =>
      rw [ok_bind, Run.compileSteps_eq_joined]
      rfl
  · exact fun pipeline => pipeline.lists_run context buffer
  · exact fun specs => lists_applySpecs limit context specs buffer

end Emend
