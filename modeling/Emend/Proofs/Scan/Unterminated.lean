import Emend.Proofs.Pattern.Search
import Emend.Proofs.Scan.Meaning

/-!
# Matches without a terminator

A scan stops at the first match whose terminator never comes. A thorough scan would pass over such
a match and go on. It would find nothing more to replace: where no terminator comes behind a match,
none comes behind a later one either. The two differ in how many such matches they count, and in
nothing else.
-/

namespace Emend

open Pattern (Text Match)

namespace Thorough

variable {rule : Rule} {text : Text} {terminator : Pattern}

/-! ## Thorough scans -/

/-- The region that a match starts: the match, or all up to the next match of the terminator. -/
def region? {lower : Nat} (rule : Rule) (found : Match text lower) : Option (Region text) :=
  match rule.terminator with
  | none => some ⟨lower, found, found.stop⟩
  | some terminator =>
    (terminator.find? text found.stop).map fun close => ⟨lower, found, close.start⟩

def fill (rule : Rule) (scan : Scan) (region : Region text) : Scan :=
  { scan with
    output := scan.output ++ String.ofList
      (Rule.slice text scan.copiedTo region.start ++ region.filled rule.template)
    copiedTo := region.stop
    matchCount := scan.matchCount + 1 }

/-- A search goes on where something has ended, but not where it has started. -/
def behind (start stop : Nat) : Nat := max stop (start + 1)

def passOver {lower : Nat} (scan : Scan) (found : Match text lower) : Scan :=
  { scan with
    searchFrom := behind found.start found.stop
    unterminated := scan.unterminated + 1 }

/-- Search once, and fill the region that is found, or pass over a match that starts none. -/
def advance (rule : Rule) (text : Text) (scan : Scan) : ForInStep Scan :=
  match rule.pattern.find? text scan.searchFrom with
  | none => .done scan
  | some found =>
    match region? rule found with
    | none => .yield (passOver scan found)
    | some region =>
      if rule.mode = .firstMatch then .done (fill rule scan region)
      else .yield { fill rule scan region with searchFrom := behind region.start region.stop }

theorem stop_le_behind (start stop : Nat) : stop ≤ behind start stop := Nat.le_max_left ..

theorem lt_behind (start stop : Nat) : start < behind start stop := Nat.le_max_right ..

theorem behind_eq {start stop : Nat} (ordered : start ≤ stop) :
    behind start stop = Rule.resume start stop := by
  unfold behind Rule.resume
  split <;> omega

theorem region?_eq {lower : Nat} (rule : Rule) (found : Match text lower) :
    region? rule found = (rule.stop? found).map (Region.mk lower found) := by
  unfold region? Rule.stop?
  cases rule.terminator with
  | none => rfl
  | some terminator =>
    dsimp only
    rw [Option.map_map]
    rfl

theorem fill_eq (rule : Rule) (scan : Scan) (region : Region text) :
    fill rule scan region = rule.replace scan region.found region.stop := by
  have output_eq : (fill rule scan region).output =
      (rule.replace scan region.found region.stop).output := by
    rw [← String.toList_inj, Rule.toList_output_replace, Rule.expansion_eq_filled, fill,
      String.toList_append, String.toList_ofList, List.append_assoc]
    rfl
  unfold fill Rule.replace at output_eq ⊢
  exact congrArg (Scan.mk · region.stop scan.searchFrom (scan.matchCount + 1) scan.unterminated)
    output_eq

/-- A thorough scan passes over a match without a terminator, and does with every other one what
the scan does that stops there. -/
theorem advance_eq (rule : Rule) (text : Text) (scan : Scan) :
    (∃ found, rule.pattern.find? text scan.searchFrom = some found ∧ rule.stop? found = none ∧
      rule.advance text scan = .done { scan with unterminated := scan.unterminated + 1 } ∧
      advance rule text scan = .yield (passOver scan found)) ∨
    advance rule text scan = rule.advance text scan := by
  unfold advance Rule.advance
  cases rule.pattern.find? text scan.searchFrom with
  | none => exact .inr rfl
  | some found =>
    dsimp only
    rw [region?_eq]
    cases ends : rule.stop? found with
    | none => exact .inl ⟨found, rfl, ends, rfl, rfl⟩
    | some stop =>
      have ordered := Nat.le_trans found.start_le (Rule.le_of_stop? ends)
      refine .inr ?_
      dsimp only [Option.map_some, Region.start]
      rw [fill_eq, behind_eq ordered]

theorem searchFrom_lt_of_advance {scan next : Scan}
    (turn : advance rule text scan = .yield next) : scan.searchFrom < next.searchFrom := by
  rcases advance_eq rule text scan with ⟨found, -, -, -, passes⟩ | same
  · cases turn.symm.trans passes
    exact Nat.lt_of_le_of_lt found.lower_le (lt_behind ..)
  · exact Rule.searchFrom_lt_of_advance (same.symm.trans turn)

def scanFrom (rule : Rule) (text : Text) (scan : Scan) : Scan :=
  if scan.searchFrom ≤ text.size then
    match _turn : advance rule text scan with
    | .done last => last
    | .yield next => scanFrom rule text next
  else scan
termination_by text.size + 1 - scan.searchFrom
decreasing_by
  have further := searchFrom_lt_of_advance _turn
  omega

theorem scanFrom_of_done {scan last : Scan} (inside : scan.searchFrom ≤ text.size)
    (turn : advance rule text scan = .done last) : scanFrom rule text scan = last := by
  rw [scanFrom, if_pos inside]
  split
  · rename_i same
    cases turn.symm.trans same
    rfl
  · rename_i same
    cases turn.symm.trans same

theorem scanFrom_of_yield {scan next : Scan} (inside : scan.searchFrom ≤ text.size)
    (turn : advance rule text scan = .yield next) :
    scanFrom rule text scan = scanFrom rule text next := by
  rw [scanFrom, if_pos inside]
  split
  · rename_i same
    cases turn.symm.trans same
  · rename_i same
    cases turn.symm.trans same
    rfl

/-- Apply a rule to a buffer, and pass over matches without a terminator. -/
def emend (rule : Rule) (buffer : String) : Emendation :=
  let text := buffer.toList.toArray
  let scan := scanFrom rule text .start
  if scan.matchCount = 0 then ⟨buffer, 0, scan.unterminated⟩
  else
    ⟨scan.output ++ String.ofList (Rule.slice text scan.copiedTo text.size), scan.matchCount,
      scan.unterminated⟩

/-! ## Nothing behind is terminated -/

/-- Where the terminator no longer comes, it does not come behind any later match. -/
theorem stop?_eq_none_of_spent (terminated : rule.terminator = some terminator) {first lower : Nat}
    (spent : terminator.find? text first = none) (found : Match text lower)
    (behind : first ≤ found.stop) : rule.stop? found = none :=
  Rule.stop?_eq_none_iff.mpr
    ⟨terminator, terminated, Pattern.find?_eq_none_mono spent behind⟩

/-- A turn where the terminator no longer comes ends the scan, or counts one match more. -/
theorem advance_of_spent (terminated : rule.terminator = some terminator) {scan : Scan}
    (spent : terminator.find? text scan.searchFrom = none) :
    advance rule text scan = .done scan ∨
      ∃ reached, terminator.find? text reached = none ∧ advance rule text scan =
        .yield { scan with searchFrom := reached, unterminated := scan.unterminated + 1 } := by
  unfold advance
  cases rule.pattern.find? text scan.searchFrom with
  | none => exact .inl rfl
  | some found =>
    have ordered := Nat.le_trans found.lower_le found.start_le
    have missing := stop?_eq_none_of_spent terminated spent found ordered
    have further := Nat.le_trans ordered (stop_le_behind found.start found.stop)
    dsimp only
    rw [region?_eq, missing]
    exact .inr ⟨_, Pattern.find?_eq_none_mono spent further, rfl⟩

/-- A thorough scan that goes on where the terminator no longer comes does nothing but count. -/
theorem scanFrom_of_spent (terminated : rule.terminator = some terminator) {scan : Scan}
    (spent : terminator.find? text scan.searchFrom = none) :
    ∃ reached more, scanFrom rule text scan =
      { scan with searchFrom := reached, unterminated := scan.unterminated + more } := by
  induction scan using scanFrom.induct rule text with
  | case1 scan inside last turn =>
    rw [scanFrom_of_done inside turn]
    rcases advance_of_spent terminated spent with same | ⟨_, _, same⟩
    · cases turn.symm.trans same
      exact ⟨scan.searchFrom, 0, rfl⟩
    · cases turn.symm.trans same
  | case2 scan inside next turn ih =>
    rw [scanFrom_of_yield inside turn]
    rcases advance_of_spent terminated spent with same | ⟨reached, spent', same⟩
    · cases turn.symm.trans same
    · cases turn.symm.trans same
      obtain ⟨reached, more, counted⟩ := ih spent'
      exact ⟨reached, 1 + more, by rw [counted, Nat.add_assoc]⟩
  | case3 scan beyond =>
    rw [scanFrom, if_neg beyond]
    exact ⟨scan.searchFrom, 0, rfl⟩

/-- A thorough scan replaces what the scan replaces that stops at the first match without a
terminator. It may have met more such matches, if that one has met any. -/
theorem exists_scanFrom_eq (terminated : rule.terminator = some terminator) (text : Text)
    (scan : Scan) :
    ∃ reached more, scanFrom rule text scan = { rule.scanFrom text scan with
        searchFrom := reached
        unterminated := (rule.scanFrom text scan).unterminated + more } ∧
      ((rule.scanFrom text scan).unterminated = 0 → more = 0) := by
  induction scan using Rule.scanFrom.induct rule text with
  | case1 scan inside last turn =>
    rw [Rule.scanFrom_of_done inside turn]
    rcases advance_eq rule text scan with ⟨found, -, missing, stops, passes⟩ | same
    · cases turn.symm.trans stops
      obtain ⟨_, same, spent⟩ := Rule.stop?_eq_none_iff.mp missing
      cases terminated.symm.trans same
      have spent' : terminator.find? text (passOver scan found).searchFrom = none :=
        Pattern.find?_eq_none_mono spent (stop_le_behind ..)
      rw [scanFrom_of_yield inside passes]
      obtain ⟨reached, more, counted⟩ := scanFrom_of_spent terminated spent'
      exact ⟨reached, more, counted, fun none => absurd none (Nat.succ_ne_zero _)⟩
    · rw [scanFrom_of_done inside (same.trans turn)]
      exact ⟨last.searchFrom, 0, rfl, fun _ => rfl⟩
  | case2 scan inside next turn ih =>
    rw [Rule.scanFrom_of_yield inside turn]
    rcases advance_eq rule text scan with ⟨found, -, -, stops, -⟩ | same
    · cases turn.symm.trans stops
    · rw [scanFrom_of_yield inside (same.trans turn)]
      exact ih
  | case3 scan beyond =>
    rw [Rule.scanFrom_of_lt (Nat.lt_of_not_le beyond), scanFrom, if_neg beyond]
    exact ⟨scan.searchFrom, 0, rfl, fun _ => rfl⟩

/-- **Stopping at a match without a terminator loses nothing.** Where the terminator of a match
never comes, that of a match found by a search further on does not come either. So a rule makes the
text that it would make if it passed over such matches, and replaces as many regions. It may count
fewer matches without a terminator, but counts some exactly if there are any. -/
theorem emend_eq_thorough (terminated : rule.terminator = some terminator) (buffer : String) :
    (∀ {lower later : Nat} (found : Match buffer.toList.toArray lower)
        (other : Match buffer.toList.toArray later),
      rule.pattern.find? buffer.toList.toArray lower = some found →
      terminator.find? buffer.toList.toArray found.stop = none →
      found.stop ≤ later →
      rule.pattern.find? buffer.toList.toArray later = some other →
      terminator.find? buffer.toList.toArray other.stop = none) ∧
    (rule.emend buffer).text = (emend rule buffer).text ∧
    (rule.emend buffer).matchCount = (emend rule buffer).matchCount ∧
    (rule.emend buffer).unterminated ≤ (emend rule buffer).unterminated ∧
    ((rule.emend buffer).unterminated = 0 ↔ (emend rule buffer).unterminated = 0) := by
  constructor
  · intro lower later found other _ missing behind _
    have further := Nat.le_trans behind (Nat.le_trans other.lower_le other.start_le)
    exact Pattern.find?_eq_none_mono missing further
  · obtain ⟨reached, more, same, counts⟩ :=
      exists_scanFrom_eq terminated buffer.toList.toArray .start
    have counted (one : Nat) (none : one = 0 → more = 0) :
        one ≤ one + more ∧ (one = 0 ↔ one + more = 0) := by omega
    unfold emend Rule.emend
    dsimp only
    rw [same]
    split <;> exact ⟨rfl, rfl, counted _ counts⟩

def brackets : RuleSpec := (RuleSpec.replaceAll "brackets" "<" "").withTerminator ">"

/-- One pair of brackets, and two more that are not closed. -/
def threeOpened : String := "<a><b<c"

theorem emend_eq_thorough_brackets :
    ∃ rule terminator, Rule.compile Pattern.defaultWeightLimit brackets = .ok rule ∧
      rule.terminator = some terminator ∧
      (∃ (found : Match threeOpened.toList.toArray 3) (other : Match threeOpened.toList.toArray 4),
        rule.pattern.find? threeOpened.toList.toArray 3 = some found ∧
        terminator.find? threeOpened.toList.toArray found.stop = none ∧ found.stop ≤ 4 ∧
        rule.pattern.find? threeOpened.toList.toArray 4 = some other ∧
        terminator.find? threeOpened.toList.toArray other.stop = none) ∧
      (rule.emend threeOpened).text = (emend rule threeOpened).text ∧
      (rule.emend threeOpened).matchCount = (emend rule threeOpened).matchCount ∧
      (rule.emend threeOpened).unterminated ≤ (emend rule threeOpened).unterminated ∧
      ((rule.emend threeOpened).unterminated = 0 ↔ (emend rule threeOpened).unterminated = 0) := by
  have checked : (Rule.compile Pattern.defaultWeightLimit brackets).toOption.any (fun rule =>
      rule.terminator.any fun terminator =>
        (rule.pattern.find? threeOpened.toList.toArray 3).any fun found =>
          (terminator.find? threeOpened.toList.toArray found.stop).isNone &&
            decide (found.stop ≤ 4) &&
            (rule.pattern.find? threeOpened.toList.toArray 4).isSome) = true := by
    decide +kernel
  simp only [Option.any_eq_true, Bool.and_eq_true, Option.isNone_iff_eq_none,
    decide_eq_true_eq, Option.isSome_iff_exists] at checked
  obtain ⟨rule, compiles, terminator, terminated, found, searched, ⟨missing, behind⟩, other,
    searched'⟩ := checked
  obtain ⟨later, same⟩ := emend_eq_thorough terminated threeOpened
  exact ⟨rule, terminator, eq_ok_of_toOption compiles, terminated,
    ⟨found, other, searched, missing, behind, searched',
      later found other searched missing behind searched'⟩, same⟩

end Thorough

end Emend
