import Emend.Proofs.Pipeline.Composition

/-!
# Rules that do not apply

A rule that replaces nothing leaves its buffer as it is, also when it meets a match without a
terminator. So the rules of a run that did not apply may be left out: the others do the same to the
buffer and have the same outcomes, numbered anew.
-/

namespace Emend

/-! ## Leaving out what did not apply -/

def Outcome.renumber (outcomes : List Outcome) : List Outcome :=
  outcomes.mapIdx fun index outcome => { outcome with ruleIndex := index }

theorem Outcome.renumber_cons (outcome : Outcome) (rest : List Outcome) :
    renumber (outcome :: rest) =
      { outcome with ruleIndex := 0 } :: (renumber rest).map (Outcome.shift 1) := by
  apply List.ext_getElem?
  intro index
  cases index <;> simp [renumber, shift, Function.comp_def, Nat.add_comm]

/-- A new numbering does not depend on the old one. -/
theorem Outcome.renumber_map_shift (count : Nat) (outcomes : List Outcome) :
    renumber (outcomes.map (Outcome.shift count)) = renumber outcomes := by
  apply List.ext_getElem?
  intro index
  simp [renumber, shift, Function.comp_def]

namespace Report

/-- The outcomes of the rules that applied, numbered from zero on. -/
def appliedOnly (report : Report) : Report :=
  ⟨Outcome.renumber (report.outcomes.filter Outcome.applied)⟩

/-- Of the items that a report has outcomes for, those that applied. -/
def keep {α : Type} (report : Report) (items : List α) : List α :=
  ((items.zip report.outcomes).filter fun pair => pair.2.applied).map Prod.fst

theorem keep_cons {α : Type} (outcome : Outcome) (rest : List Outcome) (item : α)
    (items : List α) :
    keep ⟨outcome :: rest⟩ (item :: items) =
      if outcome.applied then item :: keep ⟨rest⟩ items else keep ⟨rest⟩ items := by
  unfold keep
  rw [List.zip_cons_cons, List.filter_cons]
  split <;> rfl

theorem keep_eq_nil {α : Type} {report : Report} (items : List α)
    (idle : ∀ outcome ∈ report.outcomes, outcome.applied = false) : report.keep items = [] := by
  refine List.map_eq_nil_iff.mpr (List.filter_eq_nil_iff.mpr ?_)
  intro pair member
  rw [idle pair.2 (List.of_mem_zip member).2]
  exact Bool.false_ne_true

/-- Which items applied does not depend on the numbering. -/
theorem keep_map_shift {α : Type} (count : Nat) (outcomes : List Outcome) (items : List α) :
    keep ⟨outcomes.map (Outcome.shift count)⟩ items = keep ⟨outcomes⟩ items := by
  induction outcomes generalizing items with
  | nil => rfl
  | cons outcome rest ih =>
    cases items with
    | nil => rfl
    | cons item items =>
      rw [List.map_cons, keep_cons, keep_cons, ih]
      rfl

theorem appliedOnly_cons_of_applied {outcome : Outcome} (applied : outcome.applied = true)
    (count : Nat) (rest : List Outcome) :
    appliedOnly ⟨outcome :: rest.map (Outcome.shift count)⟩ =
      ⟨{ outcome with ruleIndex := 0 } ::
        (appliedOnly ⟨rest⟩).outcomes.map (Outcome.shift 1)⟩ := by
  unfold appliedOnly
  dsimp only
  rw [List.filter_cons_of_pos applied, Outcome.renumber_cons, List.filter_map,
    Outcome.renumber_map_shift]
  rfl

theorem appliedOnly_cons_of_not_applied {outcome : Outcome} (idle : ¬ outcome.applied = true)
    (count : Nat) (rest : List Outcome) :
    appliedOnly ⟨outcome :: rest.map (Outcome.shift count)⟩ = appliedOnly ⟨rest⟩ := by
  unfold appliedOnly
  dsimp only
  rw [List.filter_cons_of_neg idle, List.filter_map, Outcome.renumber_map_shift]
  rfl

/-- A strict run has nothing against the outcomes of rules that applied. -/
theorem require_appliedOnly (report : Report) : report.appliedOnly.require = .ok () := by
  have every : report.appliedOnly.allApplied = true := by
    refine List.all_eq_true.mpr fun outcome member => ?_
    obtain ⟨index, inside, rfl⟩ := List.mem_mapIdx.mp member
    exact (List.mem_filter.mp (List.getElem_mem inside)).2
  unfold require
  rw [if_pos every]

end Report

/-! ## Transformations that replace nothing -/

/-- A transformation that replaces nothing changes nothing. -/
def Transformation.IsInert (transformation : Transformation) : Prop :=
  ∀ context buffer, (transformation.emend context buffer).matchCount = 0 →
    (transformation.emend context buffer).text = buffer

theorem Rule.text_emend_of_matchCount_eq_zero {rule : Rule} {buffer : String}
    (nothing : (rule.emend buffer).matchCount = 0) : (rule.emend buffer).text = buffer := by
  unfold emend at nothing ⊢
  dsimp only at nothing ⊢
  split
  · rfl
  · rename_i some
    rw [if_neg some] at nothing
    exact absurd nothing some

theorem Rule.isInert_transformation (rule : Rule) : rule.transformation.IsInert :=
  fun _ _ => text_emend_of_matchCount_eq_zero

namespace Run

/-- The first step of a run, and the run of the others behind it. -/
theorem steps_cons (context : Context) (buffer : String) (transformation : Transformation)
    (rest : List Transformation) :
    (start buffer).steps context 0 (transformation :: rest) =
      ((start buffer).step context 0 transformation).followedBy 1
        ((start (transformation.emend context buffer).text).steps context 0 rest) :=
  steps_eq_followedBy context ((start buffer).step context 0 transformation) 1 rest

/-- The transformations of a run that applied do alone what all of them do. -/
theorem steps_keep (context : Context) (buffer : String) {transformations : List Transformation}
    (inert : ∀ transformation ∈ transformations, transformation.IsInert) :
    let full := (start buffer).steps context 0 transformations
    ((start buffer).steps context 0 (full.report.keep transformations)).toEmended =
      ⟨full.buffer, full.report.appliedOnly⟩ := by
  induction transformations generalizing buffer with
  | nil => rfl
  | cons transformation rest ih =>
    have others := ih (transformation.emend context buffer).text fun other member =>
      inert other (List.mem_cons_of_mem _ member)
    dsimp only at others ⊢
    rw [steps_cons]
    generalize (start (transformation.emend context buffer).text).steps context 0 rest = later
      at others ⊢
    have report_eq : (((start buffer).step context 0 transformation).followedBy 1 later).report =
        ⟨(transformation.emend context buffer).outcome 0 transformation.name ::
          later.report.outcomes.map (Outcome.shift 1)⟩ := rfl
    have buffer_eq : (((start buffer).step context 0 transformation).followedBy 1 later).buffer =
        later.buffer := rfl
    rw [report_eq, buffer_eq, Report.keep_cons, Report.keep_map_shift]
    by_cases applied :
        ((transformation.emend context buffer).outcome 0 transformation.name).applied = true
    · rw [if_pos applied, Report.appliedOnly_cons_of_applied applied, steps_cons]
      exact congrArg (((start buffer).step context 0 transformation).toEmended.followedBy 1) others
    · have nothing : (transformation.emend context buffer).matchCount = 0 := by
        simpa [Emendation.outcome] using applied
      have same := inert transformation (List.mem_cons_self ..) context buffer nothing
      rw [if_neg applied, Report.appliedOnly_cons_of_not_applied applied]
      rw [same] at others
      exact others

end Run

/-! ## Rules that did not apply -/

namespace Pipeline

variable {limit : Nat} {specs : List RuleSpec} {pipeline : Pipeline}

theorem ofSpecs_keep (compiles : ofSpecs limit specs = .ok pipeline) (report : Report) :
    ofSpecs limit (report.keep specs) = .ok ⟨report.keep pipeline.transformations⟩ := by
  obtain ⟨outcomes⟩ := report
  induction specs generalizing pipeline outcomes with
  | nil =>
    cases compiles
    rfl
  | cons spec rest ih =>
    obtain ⟨rule, later, first, others, rfl⟩ := exists_of_ofSpecs_cons compiles
    cases outcomes with
    | nil => rfl
    | cons outcome outcomes =>
      rw [Report.keep_cons, Report.keep_cons]
      split
      · rw [ofSpecs_cons_of_ok first, ih others]
        rfl
      · exact ih others outcomes

end Pipeline

/-- **Rules that did not apply are inert.** Where all rules compile, those that applied do alone to
a buffer what all of them do, with the same outcomes numbered anew, and pass a strict run. Where
none applied the buffer is as it was. -/
theorem applied_rules_suffice {limit : Nat} {specs : List RuleSpec} (context : Context)
    (compiles : ∀ spec ∈ specs, ∃ rule, Rule.compile limit spec = .ok rule) (buffer : String) :
    ∃ full kept : Emended, Yields limit context specs buffer full ∧
      Yields limit context (full.report.keep specs) buffer kept ∧
      kept.buffer = full.buffer ∧ kept.report = full.report.appliedOnly ∧
      kept.report.require = .ok () ∧
      ((∀ outcome ∈ full.report.outcomes, outcome.applied = false) → full.buffer = buffer) := by
  obtain ⟨pipeline, compiled⟩ := Pipeline.exists_ofSpecs compiles
  have inert : ∀ transformation ∈ pipeline.transformations, transformation.IsInert := by
    intro transformation member
    obtain ⟨rule, rfl⟩ := Pipeline.exists_rule_of_mem compiled member
    exact rule.isInert_transformation
  have same := Run.steps_keep context buffer inert
  have full := yields_of_ofSpecs context compiled buffer
  dsimp only at same
  generalize (Run.start buffer).steps context 0 pipeline.transformations = run at same full
  have kept := yields_of_ofSpecs context (Pipeline.ofSpecs_keep compiled run.report) buffer
  rw [same] at kept
  refine ⟨run.toEmended, _, full, kept, rfl, rfl, run.report.require_appliedOnly, ?_⟩
  intro idle
  rw [Report.keep_eq_nil pipeline.transformations idle] at same
  exact (congrArg Emended.buffer same).symm

def RuleSpec.oneOfThree : List RuleSpec := [
  .firstMatch "missing" "x" "y",
  .replaceAll "present" "a" "b",
  (RuleSpec.eraseRegion "endless" "b").withTerminator "z"]

theorem applied_rules_suffice_oneOfThree :
    (∀ spec ∈ RuleSpec.oneOfThree, ∃ rule,
      Rule.compile Pattern.defaultWeightLimit spec = .ok rule) ∧
    ∃ full kept : Emended,
      Yields Pattern.defaultWeightLimit {} RuleSpec.oneOfThree "aab" full ∧
      Yields Pattern.defaultWeightLimit {} (full.report.keep RuleSpec.oneOfThree) "aab" kept ∧
      kept.buffer = full.buffer ∧ kept.report = full.report.appliedOnly ∧
      kept.report.require = .ok () ∧
      ((∀ outcome ∈ full.report.outcomes, outcome.applied = false) → full.buffer = "aab") := by
  have compiled : ∀ spec ∈ RuleSpec.oneOfThree,
      (Rule.compile Pattern.defaultWeightLimit spec).isOk = true := by decide +kernel
  have compiles : ∀ spec ∈ RuleSpec.oneOfThree, ∃ rule,
      Rule.compile Pattern.defaultWeightLimit spec = .ok rule :=
    fun spec member => exists_of_isOk (compiled spec member)
  exact ⟨compiles, applied_rules_suffice {} compiles "aab"⟩

end Emend
