import Emend.Proofs.Rule.Compiled
import Emend.Proofs.Scan.Meaning
import Emend.Proofs.Template.Drafts

/-!
# Templates that are not expanded

A scan does not expand a template without segments. A template has none exactly if its text is
empty, which is exactly if it expands to nothing for every match. So a scan that expands the template
for every region, whatever it is, comes to the same text and the same counts.
-/

namespace Emend

open Pattern (Text Match)

/-! ## Empty templates -/

namespace Template

variable {groupNames : List (Option String)} {text rest : List Char} {segment : Segment}

theorem Reads.chars_ne_nil {chars : List Char} (reads : Reads text (.text chars) rest) :
    chars ≠ [] := by
  cases reads <;> exact List.cons_ne_nil _ _

/-- No piece stands for the empty text. -/
theorem Reads.segment_ne {piece : Piece} (reads : Reads text piece rest)
    (made : piece.segment groupNames = .ok segment) : segment ≠ .literal [] := by
  rintro rfl
  cases piece with
  | text chars =>
    cases made
    exact reads.chars_ne_nil rfl
  | reference name =>
    obtain ⟨_, _, clash⟩ := exists_of_map_eq_ok made
    cases clash

/-- A segment stays in front of what it is put in front of, unless it is the empty text. -/
theorem cons_ne_nil (full : segment ≠ .literal []) (segments : List Segment) :
    cons segment segments ≠ [] := by
  unfold cons
  split
  · exact absurd rfl full
  · exact List.cons_ne_nil _ _
  · exact List.cons_ne_nil _ _

theorem ReadAs.eq_nil_iff {segments : List Segment} (readAs : ReadAs groupNames text segments) :
    segments = [] ↔ text = [] := by
  cases readAs with
  | nil => exact ⟨fun _ => rfl, fun _ => rfl⟩
  | cons reads made behind =>
    have full := reads.segment_ne made
    have some : text ≠ [] := by
      rintro rfl
      exact absurd reads.length_lt (Nat.not_lt_zero _)
    exact ⟨fun none => absurd none (cons_ne_nil full _), fun none => absurd none some⟩

/-- A template has no segments if nothing is written for it. -/
theorem isEmpty_iff_of_parse {template : String} {parsed : Template}
    (read : parse groupNames template = .ok parsed) : parsed.isEmpty = true ↔ template = "" := by
  have readAs := parse_eq_ok_iff_readAs.mp read
  rw [isEmpty, List.isEmpty_iff, readAs.eq_nil_iff, String.toList_eq_nil_iff]

/-- A template without empty texts has no segments if there is nothing that it expands to. -/
theorem isEmpty_iff_expand_eq_nil {template : Template} (full : .literal [] ∉ template.segments) :
    template.isEmpty = true ↔ ∀ region group, template.expand region group = [] := by
  rw [isEmpty, List.isEmpty_iff]
  constructor
  · intro none region group
    rw [expand, none]
    rfl
  · intro silent
    -- Some match has text in its region and in every group.
    have nothing := List.flatMap_eq_nil_iff.mp (silent ['x'] fun _ => some ['x'])
    refine List.eq_nil_iff_forall_not_mem.mpr fun segment member => ?_
    have gone := nothing segment member
    cases segment with
    | literal chars => exact full (gone ▸ member)
    | group index => cases index <;> cases gone

end Template

/-! ## Scans that always expand -/

namespace Eager

variable {text : Text}

/-- Copy the text up to a match, and put the expansion in place of the region that it starts, also
if the template is empty. -/
def replace {lower : Nat} (rule : Rule) (scan : Scan) (found : Match text lower) (stop : Nat) :
    Scan :=
  { scan with
    output := scan.output ++ String.ofList (Rule.slice text scan.copiedTo found.start) ++
      String.ofList (rule.expansion found stop)
    copiedTo := stop
    matchCount := scan.matchCount + 1 }

def advance (rule : Rule) (text : Text) (scan : Scan) : ForInStep Scan :=
  match rule.pattern.find? text scan.searchFrom with
  | none => .done scan
  | some found =>
    match rule.stop? found with
    | none => .done { scan with unterminated := scan.unterminated + 1 }
    | some stop =>
      let replaced := replace rule scan found stop
      if rule.mode = .firstMatch then .done replaced
      else .yield { replaced with searchFrom := Rule.resume found.start stop }

/-- An empty template puts out nothing, whether it is expanded or not. -/
theorem replace_eq {lower : Nat} (rule : Rule) (scan : Scan) (found : Match text lower)
    (stop : Nat) : replace rule scan found stop = rule.replace scan found stop := by
  have output_eq :
      (replace rule scan found stop).output = (rule.replace scan found stop).output := by
    rw [← String.toList_inj, Rule.toList_output_replace]
    simp [replace]
  unfold replace Rule.replace at output_eq ⊢
  exact congrArg (Scan.mk · stop scan.searchFrom (scan.matchCount + 1) scan.unterminated) output_eq

theorem advance_eq (rule : Rule) (text : Text) (scan : Scan) :
    advance rule text scan = rule.advance text scan := by
  unfold advance Rule.advance
  cases rule.pattern.find? text scan.searchFrom with
  | none => rfl
  | some found =>
    dsimp only
    cases rule.stop? found with
    | none => rfl
    | some stop =>
      dsimp only
      rw [replace_eq]

def scanFrom (rule : Rule) (text : Text) (scan : Scan) : Scan :=
  if scan.searchFrom ≤ text.size then
    match _turn : advance rule text scan with
    | .done last => last
    | .yield next => scanFrom rule text next
  else scan
termination_by text.size + 1 - scan.searchFrom
decreasing_by
  have further := Rule.searchFrom_lt_of_advance ((advance_eq rule text scan).symm.trans _turn)
  omega

theorem scanFrom_eq (rule : Rule) (text : Text) (scan : Scan) :
    scanFrom rule text scan = rule.scanFrom text scan := by
  induction scan using Rule.scanFrom.induct rule text with
  | case1 scan inside last turn =>
    rw [Rule.scanFrom_of_done inside turn, scanFrom, if_pos inside]
    rw [← advance_eq] at turn
    split
    · rename_i same
      cases turn.symm.trans same
      rfl
    · rename_i same
      cases turn.symm.trans same
  | case2 scan inside next turn ih =>
    rw [Rule.scanFrom_of_yield inside turn, scanFrom, if_pos inside]
    rw [← advance_eq] at turn
    split
    · rename_i same
      cases turn.symm.trans same
    · rename_i same
      cases turn.symm.trans same
      exact ih
  | case3 scan beyond =>
    rw [Rule.scanFrom_of_lt (Nat.lt_of_not_le beyond), scanFrom, if_neg beyond]

/-- Apply a rule to a buffer, and expand its template for every region. -/
def emend (rule : Rule) (buffer : String) : Emendation :=
  let text := buffer.toList.toArray
  let scan := scanFrom rule text .start
  if scan.matchCount = 0 then ⟨buffer, 0, scan.unterminated⟩
  else
    ⟨scan.output ++ String.ofList (Rule.slice text scan.copiedTo text.size), scan.matchCount,
      scan.unterminated⟩

theorem emend_eq (rule : Rule) (buffer : String) : emend rule buffer = rule.emend buffer := by
  unfold emend Rule.emend
  dsimp only
  rw [scanFrom_eq]

end Eager

/-! ## Templates that were read -/

namespace Template

/-- **What is read is normal.** The segments of a template that is accepted for a pattern hold no
empty text and no texts side by side, and refer to groups of the pattern alone. So there are none
exactly if the template's text is empty, and exactly if the template expands to nothing for every
region and all groups. A rule that does not expand it then does with every match, with every region
and with every buffer what it would do if it always expanded it. -/
theorem parse_is_normal {pattern : Pattern} {template : String} {parsed : Template}
    (read : parse pattern.groupNames template = .ok parsed) :
    IsNormal pattern.groupCount parsed.segments ∧
    (parsed.isEmpty = true ↔ template = "") ∧
    (parsed.isEmpty = true ↔ ∀ region group, parsed.expand region group = []) ∧
    ∀ rule : Rule, rule.template = parsed →
      (∀ {text : Text} {lower : Nat} (scan : Scan) (found : Match text lower) (stop : Nat),
        rule.replace scan found stop = Eager.replace rule scan found stop) ∧
      ∀ buffer, rule.emend buffer = Eager.emend rule buffer := by
  have normal : IsNormal pattern.groupCount parsed.segments := isNormal_of_parse read
  refine ⟨normal, isEmpty_iff_of_parse read, isEmpty_iff_expand_eq_nil normal.full, ?_⟩
  rintro rule -
  constructor
  · intro text lower scan found stop
    exact (Eager.replace_eq rule scan found stop).symm
  · intro buffer
    exact (Eager.emend_eq rule buffer).symm

def escapes : RuleSpec :=
  .replaceAll "escapes" "(a)(b)?" "\\\\\\n\\061\\1-\\g<02>\\."

theorem parse_is_normal_escapes :
    ∃ rule, Rule.compile Pattern.defaultWeightLimit escapes = .ok rule ∧
      rule.template.segments = [.literal ['\\', '\n', '1'], .group 1, .literal ['-'], .group 2,
        .literal ['\\', '.']] ∧
      parse rule.pattern.groupNames escapes.replacement = .ok rule.template ∧
      IsNormal rule.pattern.groupCount rule.template.segments ∧
      (rule.template.isEmpty = true ↔ escapes.replacement = "") ∧
      (rule.template.isEmpty = true ↔ ∀ region group, rule.template.expand region group = []) ∧
      (∀ {text : Text} {lower : Nat} (scan : Scan) (found : Match text lower) (stop : Nat),
        rule.replace scan found stop = Eager.replace rule scan found stop) ∧
      ∀ buffer, rule.emend buffer = Eager.emend rule buffer := by
  have checked : (Rule.compile Pattern.defaultWeightLimit escapes).toOption.any (fun rule =>
      rule.template.segments = [.literal ['\\', '\n', '1'], .group 1, .literal ['-'], .group 2,
        .literal ['\\', '.']]) = true := by
    decide +kernel
  simp only [Option.any_eq_true, decide_eq_true_eq] at checked
  obtain ⟨rule, compiled, segments_eq⟩ := checked
  have compiles := eq_ok_of_toOption compiled
  have read := (Rule.compile_eq_ok_iff.mp compiles).template
  obtain ⟨normal, empty, silent, same⟩ := parse_is_normal read
  exact ⟨rule, compiles, segments_eq, read, normal, empty, silent, same rule rfl⟩

end Template

end Emend
