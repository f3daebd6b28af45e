import Emend.Pipeline
import Emend.Proofs.Checks

/-!
# Compiling up front and compiling step by step

Rules that all compile do the same to a buffer whether they are compiled up front or each one
right before it runs. A rule that does not compile stops both with the same error; the run that
goes step by step then holds what the rules before it did, which is what the pipeline of these
rules does.
-/

namespace Emend

namespace Pipeline

variable {limit : Nat} {spec : RuleSpec} {rest : List RuleSpec}

theorem ofSpecs_cons_of_error {error : RuleError} (fails : Rule.compile limit spec = .error error) :
    ofSpecs limit (spec :: rest) = .error error := by
  unfold ofSpecs
  rw [List.mapM_cons, fails]
  rfl

theorem ofSpecs_cons_of_ok {rule : Rule} (compiles : Rule.compile limit spec = .ok rule) :
    ofSpecs limit (spec :: rest) =
      (ofSpecs limit rest).map fun later => ⟨rule.transformation :: later.transformations⟩ := by
  unfold ofSpecs
  rw [List.mapM_cons, compiles]
  cases rest.mapM (Rule.compile limit) with
  | error error => rfl
  | ok rules => rfl

theorem exists_of_ofSpecs_cons {pipeline : Pipeline}
    (compiles : ofSpecs limit (spec :: rest) = .ok pipeline) :
    ∃ rule later, Rule.compile limit spec = .ok rule ∧ ofSpecs limit rest = .ok later ∧
      pipeline = ⟨rule.transformation :: later.transformations⟩ := by
  cases first : Rule.compile limit spec with
  | error error =>
    rw [ofSpecs_cons_of_error first] at compiles
    cases compiles
  | ok rule =>
    rw [ofSpecs_cons_of_ok first] at compiles
    cases others : ofSpecs limit rest with
    | error error =>
      rw [others] at compiles
      cases compiles
    | ok later =>
      rw [others] at compiles
      cases compiles
      exact ⟨rule, later, rfl, rfl, rfl⟩

theorem size_of_ofSpecs {specs : List RuleSpec} {pipeline : Pipeline}
    (compiles : ofSpecs limit specs = .ok pipeline) : pipeline.size = specs.length := by
  induction specs generalizing pipeline with
  | nil =>
    cases compiles
    rfl
  | cons spec rest ih =>
    obtain ⟨rule, later, -, others, rfl⟩ := exists_of_ofSpecs_cons compiles
    exact congrArg (· + 1) (ih others)

theorem compiles_of_ofSpecs {specs : List RuleSpec} {pipeline : Pipeline}
    (compiles : ofSpecs limit specs = .ok pipeline) :
    ∀ spec ∈ specs, ∃ rule, Rule.compile limit spec = .ok rule := by
  unfold ofSpecs at compiles
  obtain ⟨rules, compiled, -⟩ := exists_of_bind_eq_ok compiles
  intro spec member
  exact exists_of_mapM_eq_ok compiled member

theorem exists_ofSpecs {specs : List RuleSpec}
    (compiles : ∀ spec ∈ specs, ∃ rule, Rule.compile limit spec = .ok rule) :
    ∃ pipeline, ofSpecs limit specs = .ok pipeline := by
  induction specs with
  | nil => exact ⟨_, rfl⟩
  | cons spec rest ih =>
    obtain ⟨rule, first⟩ := compiles spec (List.mem_cons_self ..)
    obtain ⟨later, others⟩ := ih fun other member => compiles other (List.mem_cons_of_mem _ member)
    rw [ofSpecs_cons_of_ok first, others]
    exact ⟨_, rfl⟩

/-- A compiled pipeline consists of what its rules compile to. -/
theorem exists_compile_of_mem {specs : List RuleSpec} {pipeline : Pipeline}
    (compiles : ofSpecs limit specs = .ok pipeline) {transformation : Transformation}
    (member : transformation ∈ pipeline.transformations) :
    ∃ spec ∈ specs, ∃ rule, Rule.compile limit spec = .ok rule ∧
      transformation = rule.transformation := by
  induction specs generalizing pipeline with
  | nil =>
    cases compiles
    cases member
  | cons spec rest ih =>
    obtain ⟨rule, later, first, others, rfl⟩ := exists_of_ofSpecs_cons compiles
    rcases List.mem_cons.mp member with rfl | behind
    · exact ⟨spec, List.mem_cons_self .., rule, first, rfl⟩
    · obtain ⟨other, inside, found⟩ := ih others behind
      exact ⟨other, List.mem_cons_of_mem _ inside, found⟩

theorem exists_rule_of_mem {specs : List RuleSpec} {pipeline : Pipeline}
    (compiles : ofSpecs limit specs = .ok pipeline) {transformation : Transformation}
    (member : transformation ∈ pipeline.transformations) :
    ∃ rule : Rule, transformation = rule.transformation := by
  obtain ⟨spec, -, rule, -, same⟩ := exists_compile_of_mem compiles member
  exact ⟨rule, same⟩

/-- A run yields what its steps yield; it only logs more. -/
theorem toEmended_run (pipeline : Pipeline) (context : Context) (buffer : String) :
    (pipeline.run context buffer).toEmended =
      ((Run.start buffer).steps context 0 pipeline.transformations).toEmended := rfl

end Pipeline

/-! ## Steps -/

namespace Run

variable {limit : Nat} {context : Context}

theorem ruleIndex_steps (context : Context) (run : Run) (index : Nat)
    (transformations : List Transformation) :
    (run.steps context index transformations).report.outcomes.map Outcome.ruleIndex =
      run.report.outcomes.map Outcome.ruleIndex ++
        List.range' index transformations.length := by
  induction transformations generalizing run index with
  | nil => exact (List.append_nil _).symm
  | cons transformation rest ih =>
    have step : (run.step context index transformation).report.outcomes.map Outcome.ruleIndex =
        run.report.outcomes.map Outcome.ruleIndex ++ [index] := List.map_append
    rw [steps, ih, step, List.append_assoc, List.length_cons, List.range'_succ]
    rfl

/-- A rule stopped steps behind `count` others. -/
structure StoppedBehind (limit : Nat) (context : Context) (run : Run) (index : Nat)
    (specs : List RuleSpec) (stopped : Interrupted) (count : Nat) : Prop where
  ruleIndex_eq : stopped.ruleIndex = index + count
  fails : ∃ spec, specs[count]? = some spec ∧ Rule.compile limit spec = .error stopped.error
  earlier : ∃ pipeline, Pipeline.ofSpecs limit (specs.take count) = .ok pipeline ∧
    stopped.run = run.steps context index pipeline.transformations

/-- A rule in front that compiles adds its step. -/
theorem StoppedBehind.cons {run : Run} {index : Nat} {spec : RuleSpec} {rest : List RuleSpec}
    {rule : Rule} {stopped : Interrupted} {count : Nat}
    (compiles : Rule.compile limit spec = .ok rule)
    (behind : StoppedBehind limit context (run.step context index rule.transformation) (index + 1)
      rest stopped count) :
    StoppedBehind limit context run index (spec :: rest) stopped (count + 1) where
  ruleIndex_eq := by
    rw [behind.ruleIndex_eq]
    omega
  fails := behind.fails
  earlier := by
    obtain ⟨pipeline, others, same⟩ := behind.earlier
    refine ⟨⟨rule.transformation :: pipeline.transformations⟩, ?_, same⟩
    rw [List.take_succ_cons, Pipeline.ofSpecs_cons_of_ok compiles, others]
    rfl

/-- Steps that compile their rules do what the steps of the pipeline do, whatever was done before
them. -/
theorem compileSteps_agrees (limit : Nat) (context : Context) (run : Run) (index : Nat)
    (specs : List RuleSpec) :
    match run.compileSteps limit context index specs, Pipeline.ofSpecs limit specs with
    | .ok last, .ok pipeline => last = run.steps context index pipeline.transformations
    | .error stopped, .error error =>
      stopped.error = error ∧ ∃ count, StoppedBehind limit context run index specs stopped count
    | _, _ => False := by
  induction specs generalizing run index with
  | nil => rfl
  | cons spec rest ih =>
    unfold compileSteps
    cases first : Rule.compile limit spec with
    | error error =>
      rw [Pipeline.ofSpecs_cons_of_error first]
      exact ⟨rfl, 0, rfl, ⟨spec, rfl, first⟩, .empty, rfl, rfl⟩
    | ok rule =>
      have later := ih (run.step context index rule.transformation) (index + 1)
      rw [Pipeline.ofSpecs_cons_of_ok first]
      dsimp only
      cases compiled : (run.step context index rule.transformation).compileSteps limit context
          (index + 1) rest with
      | ok last =>
        rw [compiled] at later
        cases others : Pipeline.ofSpecs limit rest with
        | ok pipeline =>
          rw [others] at later
          exact later
        | error error =>
          rw [others] at later
          exact later
      | error stopped =>
        rw [compiled] at later
        cases others : Pipeline.ofSpecs limit rest with
        | ok pipeline =>
          rw [others] at later
          exact later
        | error error =>
          rw [others] at later
          obtain ⟨same, count, behind⟩ := later
          exact ⟨same, count + 1, behind.cons first⟩

end Run

/-- Rules that compile step by step compile to a pipeline, and its steps are taken. -/
theorem exists_pipeline_of_applySpecs {limit : Nat} {context : Context} {specs : List RuleSpec}
    {buffer : String} {run : Run} (applied : applySpecs limit context specs buffer = .ok run) :
    ∃ pipeline, Pipeline.ofSpecs limit specs = .ok pipeline ∧
      run = (Run.start buffer).steps context 0 pipeline.transformations := by
  have agrees := Run.compileSteps_agrees limit context (.start buffer) 0 specs
  unfold applySpecs at applied
  rw [applied] at agrees
  cases compiled : Pipeline.ofSpecs limit specs with
  | ok pipeline =>
    rw [compiled] at agrees
    exact ⟨pipeline, rfl, agrees⟩
  | error error =>
    rw [compiled] at agrees
    cases agrees

/-- A run that is stopped is stopped by a rule behind others. -/
theorem stoppedBehind_of_interrupted {limit : Nat} {context : Context}
    {specs : List RuleSpec} {buffer : String} {stopped : Interrupted}
    (interrupted : applySpecs limit context specs buffer = .error stopped) :
    Run.StoppedBehind limit context (.start buffer) 0 specs stopped stopped.ruleIndex := by
  have agrees := Run.compileSteps_agrees limit context (.start buffer) 0 specs
  unfold applySpecs at interrupted
  rw [interrupted] at agrees
  cases compiled : Pipeline.ofSpecs limit specs with
  | ok pipeline =>
    rw [compiled] at agrees
    cases agrees
  | error error =>
    rw [compiled] at agrees
    obtain ⟨-, count, behind⟩ := agrees
    have index_eq := behind.ruleIndex_eq
    rw [Nat.zero_add] at index_eq
    rwa [index_eq]

/-- The rules before one that stops a run compile to a pipeline, and its steps are taken. -/
theorem exists_pipeline_of_interrupted {limit : Nat} {context : Context} {specs : List RuleSpec}
    {buffer : String} {stopped : Interrupted}
    (interrupted : applySpecs limit context specs buffer = .error stopped) :
    ∃ pipeline, Pipeline.ofSpecs limit (specs.take stopped.ruleIndex) = .ok pipeline ∧
      stopped.run = (Run.start buffer).steps context 0 pipeline.transformations :=
  (stoppedBehind_of_interrupted interrupted).earlier

/-- What rules that all compile do to a buffer, compiled up front or step by step. -/
structure Yields (limit : Nat) (context : Context) (specs : List RuleSpec) (buffer : String)
    (emended : Emended) : Prop where
  upFront : ∃ pipeline, Pipeline.ofSpecs limit specs = .ok pipeline ∧
    (pipeline.run context buffer).toEmended = emended
  stepwise : ∃ run, applySpecs limit context specs buffer = .ok run ∧ run.toEmended = emended

theorem yields_of_ofSpecs {limit : Nat} {specs : List RuleSpec} {pipeline : Pipeline}
    (context : Context) (compiles : Pipeline.ofSpecs limit specs = .ok pipeline)
    (buffer : String) :
    Yields limit context specs buffer
      ((Run.start buffer).steps context 0 pipeline.transformations).toEmended where
  upFront := ⟨pipeline, compiles, pipeline.toEmended_run context buffer⟩
  stepwise := by
    have agrees := Run.compileSteps_agrees limit context (.start buffer) 0 specs
    unfold applySpecs
    rw [compiles] at agrees
    cases stepwise : (Run.start buffer).compileSteps limit context 0 specs with
    | ok run =>
      rw [stepwise] at agrees
      exact ⟨run, rfl, congrArg Run.toEmended agrees⟩
    | error stopped =>
      rw [stepwise] at agrees
      cases agrees

/-! ## Stopped runs -/

/-- The first rule that does not compile stopped a run, and the rules before it had their effect
on the buffer. -/
structure Interrupted.StoppedAtFirst (limit : Nat) (context : Context) (specs : List RuleSpec)
    (buffer : String) (stopped : Interrupted) : Prop where
  fails : ∃ spec, specs[stopped.ruleIndex]? = some spec ∧
    Rule.compile limit spec = .error stopped.error
  compiles : ∀ spec ∈ specs.take stopped.ruleIndex, ∃ rule, Rule.compile limit spec = .ok rule
  earlier : ∃ pipeline, Pipeline.ofSpecs limit (specs.take stopped.ruleIndex) = .ok pipeline ∧
    stopped.run.toEmended = (pipeline.run context buffer).toEmended
  /-- There is one outcome for each rule before. -/
  numbered : stopped.run.report.outcomes.map Outcome.ruleIndex = List.range stopped.ruleIndex

theorem Run.StoppedBehind.stoppedAtFirst {limit : Nat} {context : Context}
    {specs : List RuleSpec} {buffer : String} {stopped : Interrupted} {count : Nat}
    (behind : StoppedBehind limit context (.start buffer) 0 specs stopped count) :
    stopped.StoppedAtFirst limit context specs buffer := by
  have index_eq : stopped.ruleIndex = count := behind.ruleIndex_eq.trans (Nat.zero_add count)
  obtain ⟨spec, found, fails⟩ := behind.fails
  obtain ⟨pipeline, compiles, same⟩ := behind.earlier
  have inside : count < specs.length := (List.getElem?_eq_some_iff.mp found).1
  have size_eq : pipeline.transformations.length = count := by
    have size_eq := Pipeline.size_of_ofSpecs compiles
    rw [List.length_take, Nat.min_eq_left (Nat.le_of_lt inside)] at size_eq
    exact size_eq
  refine ⟨?_, ?_, ?_, ?_⟩
  · rw [index_eq]
    exact ⟨spec, found, fails⟩
  · rw [index_eq]
    exact Pipeline.compiles_of_ofSpecs compiles
  · rw [index_eq]
    rw [same]
    exact ⟨pipeline, compiles, (pipeline.toEmended_run context buffer).symm⟩
  · rw [index_eq, same, Run.ruleIndex_steps, size_eq, List.range_eq_range']
    rfl

/-- Compiling rules step by step succeeds if and only if compiling them up front does, and then
does the same to a buffer. Otherwise both fail with the error of the first rule that does not
compile, and the run holds what the rules before it did. -/
theorem applySpecs_agrees_with_pipeline (limit : Nat) (context : Context) (specs : List RuleSpec)
    (buffer : String) :
    match applySpecs limit context specs buffer, Pipeline.ofSpecs limit specs with
    | .ok run, .ok pipeline => run.toEmended = (pipeline.run context buffer).toEmended
    | .error stopped, .error error =>
      stopped.error = error ∧ stopped.StoppedAtFirst limit context specs buffer
    | _, _ => False := by
  have agrees := Run.compileSteps_agrees limit context (.start buffer) 0 specs
  unfold applySpecs
  cases stepwise : (Run.start buffer).compileSteps limit context 0 specs with
  | ok run =>
    rw [stepwise] at agrees
    cases upFront : Pipeline.ofSpecs limit specs with
    | ok pipeline =>
      rw [upFront] at agrees
      change run = _ at agrees
      rw [agrees]
      exact (pipeline.toEmended_run context buffer).symm
    | error error =>
      rw [upFront] at agrees
      exact agrees
  | error stopped =>
    rw [stepwise] at agrees
    cases upFront : Pipeline.ofSpecs limit specs with
    | ok pipeline =>
      rw [upFront] at agrees
      exact agrees
    | error error =>
      rw [upFront] at agrees
      obtain ⟨same, count, behind⟩ := agrees
      exact ⟨same, behind.stoppedAtFirst⟩

end Emend
