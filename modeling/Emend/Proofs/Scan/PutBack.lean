import Emend.Proofs.Rule.Compiled
import Emend.Proofs.Scan.Meaning
import Emend.Proofs.Template.Parsing

/-!
# Regions put back

The regions of a scan and the gaps between them make up the buffer: none of it is lost, repeated or
moved. So a rule that replaces each region by the region itself leaves every buffer as it was,
wherever its matches and their terminators are.
-/

namespace Emend

open Pattern (Text)

def RuleSpec.wholeRegion : String := "\\g<0>"

/-- A specification of a rule that replaces each region by the region itself. -/
structure RuleSpec.PutsBack (spec : RuleSpec) : Prop where
  replacement_eq : spec.replacement = wholeRegion
  mode_ne : spec.mode ≠ .eraseRegion

/-! ## The template -/

theorem Pattern.groupNames_ne_nil {initial : Settings} {limit : Nat} {source : String}
    {pattern : Pattern} (compiles : compile initial limit source = .ok pattern) :
    pattern.groupNames ≠ [] := by
  unfold compile at compiles
  dsimp only at compiles
  split at compiles
  · cases compiles
  · split at compiles
    · cases compiles
      simp [namesOf]
    · cases compiles

namespace Template

variable {groupNames : List (Option String)}

theorem refers_zero (some : groupNames ≠ []) : Refers groupNames ['0'] 0 := by
  have bounded : Nat.ofDigitChars 10 ['0'] 0 < numberBound := Nat.pow_pos Nat.two_pos
  exact .number nofun (List.forall_mem_singleton.mpr (by rfl)) bounded
    (List.length_pos_iff.mpr some)

/-- The template of the region is a single reference. -/
theorem parse_wholeRegion (some : groupNames ≠ []) :
    parse groupNames RuleSpec.wholeRegion = .ok ⟨[.group 0]⟩ := by
  have reads : Reads ('\\' :: 'g' :: '<' :: (['0'] ++ '>' :: [])) (.reference ['0']) [] :=
    .named (by decide)
  have made : Piece.segment groupNames (.reference ['0']) = .ok (.group 0) :=
    congrArg (Except.map Segment.group) (resolve_eq_ok_iff.mpr (refers_zero some))
  exact parse_eq_ok_iff_readAs.mpr (.cons reads made .nil)

end Template

namespace Rule

variable {limit : Nat} {spec : RuleSpec} {rule : Rule} {text : Text}

/-! ## Compiling -/

/-- A rule that puts its regions back compiles where its patterns do. -/
theorem exists_compile_iff_of_putsBack (putsBack : spec.PutsBack) :
    (∃ rule, compile limit spec = .ok rule) ↔
      (∃ pattern, compilePattern spec.displayName limit spec.pattern = .ok pattern) ∧
        ∃ terminator, compileTerminator spec.displayName limit spec.terminator = .ok terminator := by
  constructor
  · rintro ⟨rule, compiles⟩
    have made := compile_eq_ok_iff.mp compiles
    exact ⟨⟨_, made.pattern⟩, ⟨_, made.terminator⟩⟩
  · rintro ⟨⟨pattern, compiled⟩, terminator, closes⟩
    have parsed : Template.parse pattern.groupNames spec.replacement = .ok ⟨[.group 0]⟩ := by
      rw [putsBack.replacement_eq]
      exact Template.parse_wholeRegion
        (Pattern.groupNames_ne_nil (eq_ok_of_mapError_eq_ok compiled))
    exact ⟨⟨spec.displayName, pattern, terminator, ⟨[.group 0]⟩, spec.mode⟩,
      compile_eq_ok_iff.mpr ⟨rfl, compiled, closes, fun erases => absurd erases putsBack.mode_ne,
        parsed, rfl⟩⟩

theorem template_of_putsBack (putsBack : spec.PutsBack) (compiles : compile limit spec = .ok rule) :
    rule.template = ⟨[.group 0]⟩ := by
  have made := compile_eq_ok_iff.mp compiles
  have parsed := made.template
  rw [putsBack.replacement_eq, Template.parse_wholeRegion
    (Pattern.groupNames_ne_nil (eq_ok_of_mapError_eq_ok made.pattern))] at parsed
  exact (Except.ok.inj parsed).symm

/-! ## Tiles of a text -/

theorem slice_append {start middle stop : Nat} (below : start ≤ middle) (above : middle ≤ stop) :
    slice text start middle ++ slice text middle stop = slice text start stop := by
  unfold slice
  rw [← Array.toList_append, Array.extract_append_extract, Nat.min_eq_left below,
    Nat.max_eq_right above]

/-- A template that stands for the region puts back the region. -/
theorem filled_wholeRegion (region : Region text) :
    region.filled ⟨[.group 0]⟩ = slice text region.start region.stop := by
  simp [Region.filled, Region.groupText]

/-- Regions that lie one behind the other, put back, and the gaps between them make up the text. -/
theorem rendered_wholeRegion {regions : List (Region text)} {start : Nat}
    (template_eq : rule.template = ⟨[.group 0]⟩) (inside : start ≤ text.size)
    (behind : ∀ region ∈ regions, start ≤ region.start)
    (within : ∀ region ∈ regions, region.start ≤ region.stop ∧ region.stop ≤ text.size)
    (apart : regions.Pairwise fun before behind =>
      before.stop ≤ behind.start ∧ before.start < behind.start) :
    rule.rendered text start regions ++ slice text (Region.stopBehind start regions) text.size =
      slice text start text.size := by
  -- What is left of the text begins behind the regions so far, hence the induction is for any start.
  induction regions generalizing start with
  | nil => rfl
  | cons region rest ih =>
    obtain ⟨here, later⟩ := List.forall_mem_cons.mp behind
    obtain ⟨⟨ordered, ends⟩, others⟩ := List.forall_mem_cons.mp within
    obtain ⟨front, back⟩ := List.pairwise_cons.mp apart
    have rest_eq := ih ends (fun next member => (front next member).1) others back
    rw [rendered, template_eq, filled_wholeRegion, Region.stopBehind_cons, List.append_assoc,
      rest_eq, slice_append here ordered, slice_append (Nat.le_trans here ordered) ends]

/-- A rule that puts its regions back leaves every buffer as it was. -/
theorem text_emend_of_putsBack (putsBack : spec.PutsBack) (compiles : compile limit spec = .ok rule)
    (buffer : String) : (rule.emend buffer).text = buffer := by
  obtain ⟨regions, explains⟩ := rule.exists_explains_emend buffer
  rw [← String.toList_inj, explains.text_eq,
    rendered_wholeRegion (template_of_putsBack putsBack compiles) (Nat.zero_le _)
      (fun _ _ => Nat.zero_le _) explains.within explains.apart]
  exact slice_all buffer.toList

end Rule

end Emend
