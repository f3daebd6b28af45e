import Emend.Proofs.Checks
import Emend.Rule.Basic

/-!
# What a rule is compiled from

A rule compiles if its pattern does, its terminator does if it has one, its template can be read for
the groups of the pattern, and a deletion has no replacement. The mode has no other part in this: a
rule that compiles in one mode compiles in every mode that allows its replacement, and what comes
of it differs in the mode alone.
-/

namespace Emend

def RuleSpec.inMode (spec : RuleSpec) (mode : Mode) : RuleSpec := { spec with mode }

def RuleSpec.withReplacement (spec : RuleSpec) (replacement : String) : RuleSpec :=
  { spec with replacement }

namespace Rule

def inMode (rule : Rule) (mode : Mode) : Rule := { rule with mode }

variable {limit : Nat} {spec : RuleSpec} {rule : Rule}

/-- What the parts of a rule are compiled from. -/
structure CompiledFrom (limit : Nat) (spec : RuleSpec) (rule : Rule) : Prop where
  name_eq : rule.name = spec.displayName
  pattern : compilePattern spec.displayName limit spec.pattern = .ok rule.pattern
  terminator : compileTerminator spec.displayName limit spec.terminator = .ok rule.terminator
  bare : spec.mode = .eraseRegion → spec.replacement = ""
  template : Template.parse rule.pattern.groupNames spec.replacement = .ok rule.template
  mode_eq : rule.mode = spec.mode

theorem bare_iff :
    ¬ (spec.mode = .eraseRegion && !spec.replacement.isEmpty) = true ↔
      (spec.mode = .eraseRegion → spec.replacement = "") := by
  simp

theorem compile_eq_ok_iff : compile limit spec = .ok rule ↔ CompiledFrom limit spec rule := by
  unfold compile
  constructor
  · intro compiles
    obtain ⟨pattern, compiled, compiles⟩ := exists_of_bind_eq_ok compiles
    obtain ⟨terminator, closes, compiles⟩ := exists_of_bind_eq_ok compiles
    dsimp only at compiles
    split at compiles
    · cases compiles
    · rename_i allowed
      obtain ⟨template, parsed, compiles⟩ := exists_of_bind_eq_ok compiles
      cases compiles
      exact ⟨rfl, compiled, closes, bare_iff.mp allowed, eq_ok_of_mapError_eq_ok parsed, rfl⟩
  · rintro ⟨name_eq, compiled, closes, bare, parsed, mode_eq⟩
    obtain ⟨name, pattern, terminator, template, mode⟩ := rule
    cases name_eq
    cases mode_eq
    dsimp only at compiled closes parsed ⊢
    rw [compiled, ok_bind, closes, ok_bind, if_neg (bare_iff.mpr bare), parsed]
    rfl

/-- In which mode a rule is compiled shows in its mode alone, unless the mode forbids its
replacement. -/
theorem compile_inMode (limit : Nat) (spec : RuleSpec) {mode : Mode}
    (bare : mode = .eraseRegion → spec.replacement = "") :
    compile limit (spec.inMode mode) =
      (compile limit (spec.inMode .replaceAll)).map (·.inMode mode) := by
  have name_eq (other : Mode) : (spec.inMode other).displayName = spec.displayName := rfl
  have allowed := (@bare_iff (spec.inMode mode)).mpr bare
  have always := (@bare_iff (spec.inMode .replaceAll)).mpr nofun
  unfold compile
  rw [name_eq, name_eq]
  unfold RuleSpec.inMode at allowed always ⊢
  dsimp only at allowed always ⊢
  cases compilePattern spec.displayName limit spec.pattern with
  | error error => rfl
  | ok pattern =>
    cases compileTerminator spec.displayName limit spec.terminator with
    | error error => rfl
    | ok terminator =>
      rw [ok_bind, ok_bind, ok_bind, ok_bind, if_neg allowed, if_neg always]
      cases Template.parse pattern.groupNames spec.replacement with
      | error fault => rfl
      | ok template => rfl

end Rule

end Emend
