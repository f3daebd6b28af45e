import Emend.Proofs.Checks
import Emend.Proofs.Pipeline.Compilation
import Emend.Proofs.Rule.Compiled

/-!
# What rules depend on

A limit decides whether a rule compiles, and not to what; a context decides what a run logs, and not
what it does. So the rules and the buffer settle the result: runs that succeed under different limits
and in different contexts leave the same buffer and the same report.
-/

namespace Emend

/-! ## Limits -/

theorem Pattern.compile_unique {initial : Settings} {limit other : Nat} {source : String}
    {first second : Pattern} (compiles : compile initial limit source = .ok first)
    (again : compile initial other source = .ok second) : first = second := by
  unfold compile at compiles again
  dsimp only at compiles again
  split at compiles
  · cases compiles
  · rename_i read
    rw [read] at again
    dsimp only at again
    split at compiles
    · split at again
      · cases compiles
        cases again
        rfl
      · cases again
    · cases compiles

namespace Rule

variable {limit other : Nat} {name : String}

theorem compilePattern_unique {source : String} {first second : Pattern}
    (compiles : compilePattern name limit source = .ok first)
    (again : compilePattern name other source = .ok second) : first = second :=
  Pattern.compile_unique (eq_ok_of_mapError_eq_ok compiles) (eq_ok_of_mapError_eq_ok again)

theorem compileTerminator_unique {source : Option String} {first second : Option Pattern}
    (compiles : compileTerminator name limit source = .ok first)
    (again : compileTerminator name other source = .ok second) : first = second := by
  cases source with
  | none => exact Except.ok.inj (compiles.symm.trans again)
  | some source =>
    obtain ⟨pattern, compiled, rfl⟩ := exists_of_map_eq_ok compiles
    obtain ⟨_, recompiled, rfl⟩ := exists_of_map_eq_ok again
    exact congrArg some (compilePattern_unique compiled recompiled)

theorem compile_unique {spec : RuleSpec} {first second : Rule}
    (compiles : compile limit spec = .ok first) (again : compile other spec = .ok second) :
    first = second := by
  cases first
  cases second
  obtain ⟨rfl, compiled, closes, -, parsed, rfl⟩ := compile_eq_ok_iff.mp compiles
  obtain ⟨rfl, recompiled, recloses, -, reparsed, rfl⟩ := compile_eq_ok_iff.mp again
  cases compilePattern_unique compiled recompiled
  cases compileTerminator_unique closes recloses
  cases parsed.symm.trans reparsed
  rfl

end Rule

theorem Pipeline.ofSpecs_unique {limit other : Nat} {specs : List RuleSpec}
    {first second : Pipeline} (compiles : ofSpecs limit specs = .ok first)
    (again : ofSpecs other specs = .ok second) : first = second := by
  induction specs generalizing first second with
  | nil => exact Except.ok.inj (compiles.symm.trans again)
  | cons spec rest ih =>
    obtain ⟨rule, later, front, others, rfl⟩ := exists_of_ofSpecs_cons compiles
    obtain ⟨_, _, sameFront, sameOthers, rfl⟩ := exists_of_ofSpecs_cons again
    cases Rule.compile_unique front sameFront
    cases ih others sameOthers
    rfl

/-! ## Contexts -/

/-- A transformation that does the same in every context. -/
def Transformation.IgnoresContext (transformation : Transformation) : Prop :=
  ∀ first second buffer, transformation.emend first buffer = transformation.emend second buffer

theorem Rule.ignoresContext_transformation (rule : Rule) : rule.transformation.IgnoresContext :=
  fun _ _ _ => rfl

namespace Run

/-- A step depends on what was done before it, and not on what was logged. -/
theorem toEmended_step (first second : Context) {run other : Run} (index : Nat)
    {transformation : Transformation} (same : run.toEmended = other.toEmended)
    (ignores : transformation.IgnoresContext) :
    (run.step first index transformation).toEmended =
      (other.step second index transformation).toEmended := by
  have emendation_eq := ignores first second other.buffer
  simp [step, same, emendation_eq]

theorem toEmended_steps (first second : Context) {run other : Run} (index : Nat)
    {transformations : List Transformation} (same : run.toEmended = other.toEmended)
    (ignore : ∀ transformation ∈ transformations, transformation.IgnoresContext) :
    (run.steps first index transformations).toEmended =
      (other.steps second index transformations).toEmended := by
  induction transformations generalizing run other index with
  | nil => exact same
  | cons transformation rest ih =>
    have step := toEmended_step first second index same
      (ignore transformation (List.mem_cons_self ..))
    exact ih (index + 1) step fun later member => ignore later (List.mem_cons_of_mem _ member)

end Run

/-! ## Results -/

/-- Rules and a buffer settle what the rules make of it, under every limit and in every context. -/
theorem toEmended_eq_of_applySpecs {limit other : Nat} {context elsewhere : Context}
    {specs : List RuleSpec} {buffer : String} {first second : Run}
    (applied : applySpecs limit context specs buffer = .ok first)
    (again : applySpecs other elsewhere specs buffer = .ok second) :
    first.toEmended = second.toEmended := by
  obtain ⟨pipeline, compiled, rfl⟩ := exists_pipeline_of_applySpecs applied
  obtain ⟨_, recompiled, rfl⟩ := exists_pipeline_of_applySpecs again
  cases Pipeline.ofSpecs_unique compiled recompiled
  refine Run.toEmended_steps context elsewhere 0 rfl ?_
  intro transformation member
  obtain ⟨rule, rfl⟩ := Pipeline.exists_rule_of_mem compiled member
  exact rule.ignoresContext_transformation

theorem Yields.elsewhere {limit : Nat} {context : Context} {specs : List RuleSpec}
    {buffer : String} {emended : Emended} (yields : Yields limit context specs buffer emended)
    (elsewhere : Context) : Yields limit elsewhere specs buffer emended := by
  obtain ⟨pipeline, compiled, -⟩ := yields.upFront
  obtain ⟨run, applied, rfl⟩ := yields.stepwise
  have others := yields_of_ofSpecs elsewhere compiled buffer
  obtain ⟨other, again, same⟩ := others.stepwise
  rwa [← same, toEmended_eq_of_applySpecs again applied] at others

end Emend
