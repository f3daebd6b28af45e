import Emend.Proofs.Scan.Regions

/-!
# What a scan does

A scan keeps an account: the text that it has put out is the old one up to where it has copied,
with the regions found so far replaced, and the next search begins behind the last of them. Each
turn either adds the region that the rule finds next or ends the scan. What a rule does to a
buffer is therefore given by the regions that the rule finds, and by nothing else.
-/

namespace Emend

open Pattern (Text Match)

namespace Rule

variable {rule : Rule} {text : Text}

/-! ## What a turn can do -/

/-- What one turn of a scan can do. -/
inductive Advances (rule : Rule) (text : Text) (scan : Scan) : ForInStep Scan → Prop where
  | exhausted (searched : rule.pattern.find? text scan.searchFrom = none) :
      Advances rule text scan (.done scan)
  | unterminated (found : Match text scan.searchFrom)
      (searched : rule.pattern.find? text scan.searchFrom = some found)
      (missing : rule.stop? found = none) :
      Advances rule text scan (.done { scan with unterminated := scan.unterminated + 1 })
  | satisfied (found : Match text scan.searchFrom) (stop : Nat)
      (searched : rule.pattern.find? text scan.searchFrom = some found)
      (ends : rule.stop? found = some stop) (mode : rule.mode = .firstMatch) :
      Advances rule text scan (.done (rule.replace scan found stop))
  | further (found : Match text scan.searchFrom) (stop : Nat)
      (searched : rule.pattern.find? text scan.searchFrom = some found)
      (ends : rule.stop? found = some stop) (mode : rule.mode ≠ .firstMatch) :
      Advances rule text scan
        (.yield { rule.replace scan found stop with searchFrom := resume found.start stop })

theorem advances_advance (rule : Rule) (text : Text) (scan : Scan) :
    rule.Advances text scan (rule.advance text scan) := by
  unfold advance
  cases searched : rule.pattern.find? text scan.searchFrom with
  | none => exact .exhausted searched
  | some found =>
    dsimp only
    cases ends : rule.stop? found with
    | none => exact .unterminated found searched ends
    | some stop =>
      dsimp only
      by_cases mode : rule.mode = .firstMatch
      · rw [if_pos mode]
        exact .satisfied found stop searched ends mode
      · rw [if_neg mode]
        exact .further found stop searched ends mode

/-! ## Turns of a scan -/

theorem scanFrom_of_done {scan last : Scan} (inside : scan.searchFrom ≤ text.size)
    (turn : rule.advance text scan = .done last) : rule.scanFrom text scan = last := by
  rw [scanFrom, if_pos inside]
  split
  · rename_i same
    cases turn.symm.trans same
    rfl
  · rename_i same
    cases turn.symm.trans same

theorem scanFrom_of_yield {scan next : Scan} (inside : scan.searchFrom ≤ text.size)
    (turn : rule.advance text scan = .yield next) :
    rule.scanFrom text scan = rule.scanFrom text next := by
  rw [scanFrom, if_pos inside]
  split
  · rename_i same
    cases turn.symm.trans same
  · rename_i same
    cases turn.symm.trans same
    rfl

theorem scanFrom_of_lt {scan : Scan} (beyond : text.size < scan.searchFrom) :
    rule.scanFrom text scan = scan := by
  rw [scanFrom, if_neg (Nat.not_le_of_lt beyond)]

/-! ## Chains of regions -/

/-- Regions that a rule finds one behind the other. -/
structure Chain (rule : Rule) (text : Text) (regions : List (Region text)) : Prop where
  finds : ∀ index (inside : index < regions.length),
    rule.Finds (regions.take index) regions[index]
  within : ∀ region ∈ regions, region.start ≤ region.stop ∧ region.stop ≤ text.size
  apart : regions.Pairwise fun before behind =>
    before.stop ≤ behind.start ∧ before.start < behind.start
  passed : ∀ region ∈ regions, region.stop ≤ Region.searchBehind regions ∧
    region.start < Region.searchBehind regions

theorem chain_nil (rule : Rule) (text : Text) : rule.Chain text [] where
  finds _ inside := absurd inside (Nat.not_lt_zero _)
  within _ member := nomatch member
  apart := .nil
  passed _ member := nomatch member

theorem Finds.within {earlier : List (Region text)} {region : Region text}
    (finds : rule.Finds earlier region) :
    region.start ≤ region.stop ∧ region.stop ≤ text.size := by
  have ends := stop?_eq_some_iff.mpr finds.ends
  exact ⟨Nat.le_trans region.found.start_le (le_of_stop? ends), stop_le_size_of_stop? ends⟩

theorem Finds.searchBehind_le {earlier : List (Region text)} {region : Region text}
    (finds : rule.Finds earlier region) : Region.searchBehind earlier ≤ region.start := by
  rw [← finds.lower_eq]
  exact region.found.lower_le

/-- The search goes on behind a region, and behind its start. -/
theorem Finds.passed {earlier : List (Region text)} {region : Region text}
    (finds : rule.Finds earlier region) :
    region.stop ≤ region.next ∧ region.start < region.next := by
  have ordered := finds.within.1
  unfold Region.next resume
  split <;> omega

/-- A chain goes on with the region that the rule finds behind it. -/
theorem Chain.concat {regions : List (Region text)} {region : Region text}
    (chain : rule.Chain text regions) (finds : rule.Finds regions region) :
    rule.Chain text (regions ++ [region]) where
  finds := by
    intro index inside
    rw [List.length_append, List.length_singleton] at inside
    rcases Nat.lt_succ_iff_lt_or_eq.mp inside with earlier | rfl
    · rw [List.take_append_of_le_length (Nat.le_of_lt earlier),
        List.getElem_append_left earlier]
      exact chain.finds index earlier
    · rw [List.take_left, List.getElem_concat_length rfl]
      exact finds
  within := by
    intro other member
    rcases List.mem_append.mp member with earlier | last
    · exact chain.within other earlier
    · cases List.mem_singleton.mp last
      exact finds.within
  apart := by
    refine List.pairwise_append.mpr ⟨chain.apart, List.pairwise_singleton _ _, ?_⟩
    intro before member behind last
    cases List.mem_singleton.mp last
    have passed := chain.passed before member
    have later := finds.searchBehind_le
    exact ⟨Nat.le_trans passed.1 later, Nat.lt_of_lt_of_le passed.2 later⟩
  passed := by
    intro other member
    rw [Region.searchBehind_concat]
    have reached := finds.passed
    rcases List.mem_append.mp member with earlier | last
    · have passed := chain.passed other earlier
      have later := finds.searchBehind_le
      omega
    · cases List.mem_singleton.mp last
      exact reached

/-! ## The account of a scan -/

structure Replaced (rule : Rule) (text : Text) (regions : List (Region text)) (scan : Scan) :
    Prop where
  chain : rule.Chain text regions
  copiedTo_eq : scan.copiedTo = Region.stopBehind 0 regions
  matchCount_eq : scan.matchCount = regions.length
  output_eq : scan.output.toList = rule.rendered text 0 regions

structure Running (rule : Rule) (text : Text) (regions : List (Region text)) (scan : Scan) :
    Prop extends rule.Replaced text regions scan where
  searchFrom_eq : scan.searchFrom = Region.searchBehind regions
  unterminated_eq : scan.unterminated = 0
  goesOn : rule.mode = .firstMatch → regions = []

structure Over (rule : Rule) (text : Text) (regions : List (Region text)) (scan : Scan) :
    Prop extends rule.Replaced text regions scan where
  finished : rule.Finished text regions scan.unterminated

theorem running_start (rule : Rule) (text : Text) : rule.Running text [] .start where
  chain := chain_nil rule text
  copiedTo_eq := rfl
  matchCount_eq := rfl
  output_eq := rfl
  searchFrom_eq := rfl
  unterminated_eq := rfl
  goesOn _ := rfl

/-- A replacement puts out the text in front of a region and the expansion for it. An empty
template expands to nothing, so it does not matter that it is not expanded. -/
theorem toList_output_replace (rule : Rule) (scan : Scan) {lower : Nat} (found : Match text lower)
    (stop : Nat) :
    (rule.replace scan found stop).output.toList =
      scan.output.toList ++ slice text scan.copiedTo found.start ++
        rule.expansion found stop := by
  unfold replace
  cases empty : rule.template.isEmpty with
  | false => simp
  | true =>
    have silent : rule.expansion found stop = [] := by
      unfold expansion Template.expand
      rw [List.isEmpty_iff.mp empty]
      rfl
    simp [silent]

/-- Replacing the region that a rule finds next keeps the account. -/
theorem Replaced.replace {regions : List (Region text)} {scan : Scan} {region : Region text}
    (replaced : rule.Replaced text regions scan) (finds : rule.Finds regions region) :
    rule.Replaced text (regions ++ [region]) (rule.replace scan region.found region.stop) where
  chain := replaced.chain.concat finds
  copiedTo_eq := (Region.stopBehind_concat 0 regions region).symm
  matchCount_eq := by
    rw [List.length_append, List.length_singleton, ← replaced.matchCount_eq]
    rfl
  output_eq := by
    rw [toList_output_replace, replaced.output_eq, replaced.copiedTo_eq, rendered_concat,
      expansion_eq_filled]
    rfl

/-- A match from where a running scan searches starts the region that the rule finds next. -/
theorem Running.finds {regions : List (Region text)} {scan : Scan}
    (running : rule.Running text regions scan) {found : Match text scan.searchFrom} {stop : Nat}
    (searched : rule.pattern.find? text scan.searchFrom = some found)
    (ends : rule.stop? found = some stop) :
    rule.Finds regions ⟨scan.searchFrom, found, stop⟩ where
  goesOn := running.goesOn
  lower_eq := running.searchFrom_eq
  searched := searched
  ends := stop?_eq_some_iff.mp ends

theorem Running.advance {regions : List (Region text)} {scan : Scan}
    (running : rule.Running text regions scan) {turn : ForInStep Scan}
    (advances : rule.Advances text scan turn) :
    match turn with
    | .done last => ∃ all, rule.Over text all last
    | .yield next => ∃ all, rule.Running text all next := by
  have behind := running.searchFrom_eq
  cases advances with
  | exhausted searched =>
    rw [behind] at searched
    have finished := Finished.exhausted running.goesOn (.inr searched)
    rw [← running.unterminated_eq] at finished
    exact ⟨regions, { running.toReplaced with finished }⟩
  | unterminated found searched missing =>
    obtain ⟨terminator, terminated, missing⟩ := stop?_eq_none_iff.mp missing
    obtain ⟨output, copiedTo, searchFrom, matchCount, unterminated⟩ := scan
    cases behind
    have count : unterminated + 1 = 1 := congrArg Nat.succ running.unterminated_eq
    refine ⟨regions, { running.toReplaced with finished := ?_ }⟩
    dsimp only
    rw [count]
    exact .unterminated running.goesOn found searched terminator terminated missing
  | satisfied found stop searched ends mode =>
    have finds := running.finds searched ends
    have finished : rule.Finished text (regions ++ [⟨scan.searchFrom, found, stop⟩])
        (rule.replace scan found stop).unterminated := by
      change rule.Finished text _ scan.unterminated
      rw [running.unterminated_eq, running.goesOn mode]
      exact .satisfied mode rfl
    exact ⟨_, { running.toReplaced.replace finds with finished }⟩
  | further found stop searched ends mode =>
    have replaced := running.toReplaced.replace (running.finds searched ends)
    have reached := Region.searchBehind_concat regions ⟨scan.searchFrom, found, stop⟩
    exact ⟨_, {
      chain := replaced.chain
      copiedTo_eq := replaced.copiedTo_eq
      matchCount_eq := replaced.matchCount_eq
      output_eq := replaced.output_eq
      searchFrom_eq := reached.symm
      unterminated_eq := running.unterminated_eq
      goesOn := fun first => absurd first mode }⟩

theorem Running.scanFrom {regions : List (Region text)} {scan : Scan}
    (running : rule.Running text regions scan) :
    ∃ all, rule.Over text all (rule.scanFrom text scan) := by
  induction scan using Rule.scanFrom.induct rule text generalizing regions with
  | case1 scan inside last turn =>
    rw [scanFrom_of_done inside turn]
    exact running.advance (turn ▸ rule.advances_advance text scan)
  | case2 scan inside next turn ih =>
    obtain ⟨more, goesOn⟩ := running.advance (turn ▸ rule.advances_advance text scan)
    rw [scanFrom_of_yield inside turn]
    exact ih goesOn
  | case3 scan beyond =>
    rw [scanFrom_of_lt (Nat.lt_of_not_le beyond)]
    have outside : text.size < Region.searchBehind regions := by
      rw [← running.searchFrom_eq]
      exact Nat.lt_of_not_le beyond
    have finished : rule.Finished text regions 0 := .exhausted running.goesOn (.inl outside)
    rw [← running.unterminated_eq] at finished
    exact ⟨regions, { running.toReplaced with finished }⟩

/-! ## What a rule does to a buffer -/

theorem slice_all (chars : List Char) : slice chars.toArray 0 chars.toArray.size = chars := by
  simp [slice]

theorem exists_explains_emend (rule : Rule) (buffer : String) :
    ∃ regions, rule.Explains buffer.toList.toArray regions (rule.emend buffer) := by
  obtain ⟨regions, ended⟩ := (rule.running_start buffer.toList.toArray).scanFrom
  refine ⟨regions, ?_⟩
  unfold emend
  dsimp only
  by_cases nothing : (rule.scanFrom buffer.toList.toArray .start).matchCount = 0
  · have none : regions = [] := List.length_eq_zero_iff.mp (ended.matchCount_eq.symm.trans nothing)
    rw [if_pos nothing]
    refine ⟨ended.chain.finds, ended.chain.within, ended.chain.apart, ended.finished,
      nothing ▸ ended.matchCount_eq, ?_⟩
    rw [none]
    exact (slice_all buffer.toList).symm
  · rw [if_neg nothing]
    refine ⟨ended.chain.finds, ended.chain.within, ended.chain.apart, ended.finished,
      ended.matchCount_eq, ?_⟩
    rw [String.toList_append, String.toList_ofList, ended.output_eq, ended.copiedTo_eq]

/-! ## There is no other account -/

/-- A search that finds a match begins within the text. -/
theorem not_missing_of_find? {pattern : Pattern} {lower : Nat} {found : Match text lower}
    (searched : pattern.find? text lower = some found) :
    ¬ (text.size < lower ∨ pattern.find? text lower = none) := by
  rintro (beyond | missing)
  · have above := found.lower_le
    have ordered := found.start_le
    have inside := found.stop_le
    omega
  · cases missing.symm.trans searched

/-- Behind the same regions a rule finds one region at most. -/
theorem Finds.unique {earlier : List (Region text)} {first second : Region text}
    (one : rule.Finds earlier first) (other : rule.Finds earlier second) : first = second := by
  have same := one.lower_eq.trans other.lower_eq.symm
  obtain ⟨lower, found, stop⟩ := first
  obtain ⟨_, found', stop'⟩ := second
  cases same
  cases Option.some.inj (one.searched.symm.trans other.searched)
  have ends := stop?_eq_some_iff.mpr one.ends
  have ends' := stop?_eq_some_iff.mpr other.ends
  cases Option.some.inj (ends.symm.trans ends')
  rfl

/-- Where a scan is over, the rule finds nothing. -/
theorem Finished.not_finds {regions : List (Region text)} {count : Nat} {region : Region text}
    (finished : rule.Finished text regions count) : ¬ rule.Finds regions region := by
  intro finds
  obtain ⟨lower, found, stop⟩ := region
  have lower_eq := finds.lower_eq
  have searched := finds.searched
  cases lower_eq
  cases finished with
  | satisfied mode single =>
    rw [finds.goesOn mode] at single
    cases single
  | exhausted goesOn missing =>
    exact not_missing_of_find? searched missing
  | unterminated goesOn other searched' terminator terminated missing =>
    cases Option.some.inj (searched'.symm.trans searched)
    have none := stop?_eq_none_iff.mpr ⟨terminator, terminated, missing⟩
    cases none.symm.trans (stop?_eq_some_iff.mpr finds.ends)

/-- A scan is over behind the same regions with the same number of matches without a
terminator. -/
theorem Finished.unique {regions : List (Region text)} {first second : Nat}
    (one : rule.Finished text regions first) (other : rule.Finished text regions second) :
    first = second := by
  have settled (goesOn : rule.mode = .firstMatch → regions = [])
      (mode : rule.mode = .firstMatch) : regions.length ≠ 1 := by
    intro single
    rw [goesOn mode] at single
    cases single
  cases one with
  | satisfied mode single =>
    cases other with
    | satisfied => rfl
    | exhausted => rfl
    | unterminated goesOn => exact absurd single (settled goesOn mode)
  | exhausted goesOn missing =>
    cases other with
    | satisfied => rfl
    | exhausted => rfl
    | unterminated _ found searched => exact absurd missing (not_missing_of_find? searched)
  | unterminated goesOn found searched =>
    cases other with
    | satisfied mode single => exact absurd single (settled goesOn mode)
    | exhausted _ missing => exact absurd missing (not_missing_of_find? searched)
    | unterminated => rfl

/-- Two chains of regions agree as far as both go. -/
theorem take_eq_take_of_finds {first second : List (Region text)}
    (one : ∀ index (inside : index < first.length), rule.Finds (first.take index) first[index])
    (other : ∀ index (inside : index < second.length),
      rule.Finds (second.take index) second[index])
    (count : Nat) (inFirst : count ≤ first.length) (inSecond : count ≤ second.length) :
    first.take count = second.take count := by
  induction count with
  | zero => rfl
  | succ count ih =>
    have earlier := ih (Nat.le_of_lt inFirst) (Nat.le_of_lt inSecond)
    have finds := other count inSecond
    rw [← earlier] at finds
    rw [List.take_succ_eq_append_getElem inFirst, List.take_succ_eq_append_getElem inSecond,
      earlier, (one count inFirst).unique finds]

/-- A chain behind which a scan is over is as long as any other. -/
theorem Finished.length_le {first second : List (Region text)} {count : Nat}
    (one : ∀ index (inside : index < first.length), rule.Finds (first.take index) first[index])
    (other : ∀ index (inside : index < second.length),
      rule.Finds (second.take index) second[index])
    (finished : rule.Finished text first count) : second.length ≤ first.length := by
  apply Nat.le_of_not_lt
  intro longer
  have same := take_eq_take_of_finds one other first.length (Nat.le_refl _) (Nat.le_of_lt longer)
  have finds := other first.length longer
  rw [← same, List.take_length] at finds
  exact finished.not_finds finds

theorem Explains.regions_unique {first second : List (Region text)} {one other : Emendation}
    (explains : rule.Explains text first one) (explains' : rule.Explains text second other) :
    first = second := by
  have length_eq := Nat.le_antisymm
    (explains'.finished.length_le explains'.finds explains.finds)
    (explains.finished.length_le explains.finds explains'.finds)
  have same := take_eq_take_of_finds explains.finds explains'.finds first.length
    (Nat.le_refl _) (Nat.le_of_eq length_eq)
  rw [List.take_length, length_eq, List.take_length] at same
  exact same

theorem Explains.unique {first second : List (Region text)} {one other : Emendation}
    (explains : rule.Explains text first one) (explains' : rule.Explains text second other) :
    one = other := by
  cases explains.regions_unique explains'
  have text_eq := String.toList_inj.mp (explains.text_eq.trans explains'.text_eq.symm)
  have matchCount_eq := explains.matchCount_eq.trans explains'.matchCount_eq.symm
  have unterminated_eq := explains.finished.unique explains'.finished
  obtain ⟨text, matchCount, unterminated⟩ := one
  cases text_eq
  cases matchCount_eq
  cases unterminated_eq
  rfl

/-- What a rule does to a buffer: it replaces the regions that it finds one behind the other until
it finds no more, each by the expansion for its own match, and nothing else. There is no other
emendation that regions account for. -/
theorem emend_eq_iff_exists_explains (rule : Rule) (buffer : String) (emendation : Emendation) :
    rule.emend buffer = emendation ↔
      ∃ regions, rule.Explains buffer.toList.toArray regions emendation := by
  obtain ⟨regions, explains⟩ := rule.exists_explains_emend buffer
  constructor
  · rintro rfl
    exact ⟨regions, explains⟩
  · rintro ⟨_, explains'⟩
    exact explains.unique explains'

end Rule

end Emend
