import Emend.Proofs.Scan.Bytes
import Mathlib.Data.List.Perm.Subperm

/-!
# The turns of a scan

A scan comes to an end. Every turn that does not end it lets the next one search further on, between
two characters or behind the text, and what it meets starts before that. So the matches that a scan
meets start one behind the other, and there are at most as many of them as there are places between
characters. Each of them is counted once, as a region or as a match without a terminator.
-/

namespace Emend

open Pattern (Text Match)

/-! ## What is counted -/

namespace Rule

theorem matchCount_emend (rule : Rule) (buffer : String) :
    (rule.emend buffer).matchCount = (rule.scanFrom buffer.toList.toArray .start).matchCount := by
  unfold emend
  dsimp only
  split
  · rename_i nothing
    exact nothing.symm
  · rfl

theorem unterminated_emend (rule : Rule) (buffer : String) :
    (rule.emend buffer).unterminated =
      (rule.scanFrom buffer.toList.toArray .start).unterminated := by
  unfold emend
  dsimp only
  split <;> rfl

namespace Finished

variable {rule : Rule} {text : Text} {regions : List (Region text)} {count : Nat}

/-- A scan stops at the first match without a terminator. -/
theorem le_one (finished : rule.Finished text regions count) : count ≤ 1 := by
  cases finished with
  | satisfied => exact Nat.zero_le 1
  | exhausted => exact Nat.zero_le 1
  | unterminated => exact Nat.le_refl 1

theorem eq_zero (finished : rule.Finished text regions count) (plain : rule.terminator = none) :
    count = 0 := by
  cases finished with
  | satisfied => rfl
  | exhausted => rfl
  | unterminated _ _ _ terminator terminated =>
    rw [plain] at terminated
    cases terminated

/-- Where one region is asked for, a scan meets one match at most. -/
theorem add_le_one (finished : rule.Finished text regions count)
    (mode : rule.mode = .firstMatch) : regions.length + count ≤ 1 := by
  cases finished with
  | satisfied _ single => omega
  | exhausted goesOn => simp [goesOn mode]
  | unterminated goesOn => simp [goesOn mode]

end Finished

end Rule

namespace Bytes

/-! ## Turns -/

section Turns

variable (rule : Rule) (buffer : String)

/-- Where the match starts that a turn meets, if it meets one. -/
def met? (scan : Scan) : Option Nat :=
  match search rule.pattern buffer scan.searchFrom with
  | .ok found => found.map Found.start
  | .error _ => none

def starts (turns : List Scan) : List Nat := turns.filterMap (met? rule buffer)

variable {rule buffer} in
theorem starts_cons_of_met {scan : Scan} {start : Nat} (met : met? rule buffer scan = some start)
    (turns : List Scan) : starts rule buffer (scan :: turns) = start :: starts rule buffer turns :=
  List.filterMap_cons_some met

/-- The turns that a scan takes from a state on, each by the state that it starts from, and the
state at the end. -/
inductive Turns : Scan → List Scan → Scan → Prop where
  | beyond {scan : Scan} (outside : buffer.utf8ByteSize < scan.searchFrom) : Turns scan [] scan
  | last {scan last : Scan} (inside : scan.searchFrom ≤ buffer.utf8ByteSize)
      (turn : advance rule buffer scan = .ok (.done last)) : Turns scan [scan] last
  | further {scan next last : Scan} {turns : List Scan}
      (inside : scan.searchFrom ≤ buffer.utf8ByteSize)
      (turn : advance rule buffer scan = .ok (.yield next)) (others : Turns next turns last) :
      Turns scan (scan :: turns) last

def OnCharacters (scan : Scan) : Prop :=
  ∃ inner, Placed buffer inner ∧ inBytes buffer inner = scan

end Turns

variable {rule : Rule} {buffer : String} {scan next last : Scan} {turns : List Scan}

/-- The loop takes these turns and no others. -/
theorem Turns.scanFrom_eq (taken : Turns rule buffer scan turns last) {fuel : Nat}
    (enough : turns.length < fuel) : scanFrom rule buffer fuel scan = .ok last := by
  induction taken generalizing fuel with
  | beyond outside =>
    obtain ⟨fuel, rfl⟩ := Nat.exists_eq_add_one_of_ne_zero (Nat.ne_of_gt enough)
    rw [scanFrom, if_neg (Nat.not_le_of_lt outside)]
  | last inside turn =>
    obtain ⟨fuel, rfl⟩ := Nat.exists_eq_add_one_of_ne_zero (Nat.ne_zero_of_lt enough)
    rw [scanFrom, if_pos inside, turn]
    rfl
  | further inside turn others ih =>
    obtain ⟨fuel, rfl⟩ := Nat.exists_eq_add_one_of_ne_zero (Nat.ne_zero_of_lt enough)
    rw [scanFrom, if_pos inside, turn, ok_bind]
    exact ih (Nat.lt_of_succ_lt_succ enough)

/-! ## One turn -/

theorem met?_inBytes {inner : Scan} (inside : inner.searchFrom ≤ buffer.length) :
    met? rule buffer (inBytes buffer inner) =
      (rule.pattern.find? buffer.toList.toArray inner.searchFrom).map
        fun found => offsetOf buffer found.start := by
  have searched := search_offsetOf rule.pattern inside
  unfold met?
  dsimp only [inBytes]
  rw [searched]
  cases rule.pattern.find? buffer.toList.toArray inner.searchFrom <;> rfl

/-- A turn meets a match, which starts between two characters, not before where the turn searches. -/
structure Meets (rule : Rule) (buffer : String) (scan : Scan) (start : Nat) : Prop where
  met : met? rule buffer scan = some start
  boundary : isBoundary buffer start = true
  le_start : scan.searchFrom ≤ start

theorem meets_inBytes {inner : Scan} (inside : inner.searchFrom ≤ buffer.length)
    {found : Match buffer.toList.toArray inner.searchFrom}
    (searched : rule.pattern.find? buffer.toList.toArray inner.searchFrom = some found) :
    Meets rule buffer (inBytes buffer inner) (offsetOf buffer found.start) where
  met := by
    rw [met?_inBytes inside, searched]
    rfl
  boundary := isBoundary_offsetOf (Nat.le_trans found.start_le (stop_le_length found))
  le_start := (strictMono_offsetOf buffer).monotone found.lower_le

def total (scan : Scan) : Nat := scan.matchCount + scan.unterminated

/-- What a turn does that lets another one follow: it meets a match and counts it, and the next turn
searches behind the start of the match. -/
structure Yields (rule : Rule) (buffer : String) (scan next : Scan) (start : Nat) : Prop
    extends Meets rule buffer scan start where
  start_lt : start < next.searchFrom
  placed : isBoundary buffer next.searchFrom = true ∨ next.searchFrom = buffer.utf8ByteSize + 1
  total_eq : total next = total scan + 1

/-- What the last turn does: it meets nothing, or it meets a match and counts it. -/
inductive Ends (rule : Rule) (buffer : String) (scan last : Scan) : Prop where
  | empty (met : met? rule buffer scan = none) (total_eq : total last = total scan)
  | met {start : Nat} (meets : Meets rule buffer scan start)
      (total_eq : total last = total scan + 1)

/-- Where a search goes on is a place in the text, or right behind it. -/
theorem placed_offsetOf {index : Nat} (near : index ≤ buffer.length + 1) :
    isBoundary buffer (offsetOf buffer index) = true ∨
      offsetOf buffer index = buffer.utf8ByteSize + 1 := by
  rcases Nat.le_or_eq_of_le_succ near with inside | rfl
  · exact .inl (isBoundary_offsetOf inside)
  · refine .inr ?_
    rw [offsetOf_succ, offsetOf_length, List.getElem?_eq_none]
    · rfl
    · rw [String.length_toList]

theorem OnCharacters.boundary (on : OnCharacters buffer scan)
    (inside : scan.searchFrom ≤ buffer.utf8ByteSize) :
    isBoundary buffer scan.searchFrom = true := by
  obtain ⟨inner, -, rfl⟩ := on
  exact isBoundary_offsetOf (offsetOf_le_utf8ByteSize_iff.mp inside)

theorem OnCharacters.yields (on : OnCharacters buffer scan) (refers : Refers rule)
    (inside : scan.searchFrom ≤ buffer.utf8ByteSize)
    (turn : advance rule buffer scan = .ok (.yield next)) :
    OnCharacters buffer next ∧ ∃ start, Yields rule buffer scan next start := by
  obtain ⟨inner, placed, rfl⟩ := on
  have within := offsetOf_le_utf8ByteSize_iff.mp inside
  have kept := placed.advance rule
  have advances := rule.advances_advance buffer.toList.toArray inner
  rw [advance_inBytes refers placed within] at turn
  generalize rule.advance buffer.toList.toArray inner = step at turn kept advances
  cases advances with
  | exhausted => cases turn
  | unterminated => cases turn
  | satisfied => cases turn
  | further found stop searched ends mode =>
    cases turn
    have stop_le := le_length_of_stop? ends
    have ordered := Nat.le_trans found.start_le (Rule.le_of_stop? ends)
    have behind : found.start < Rule.resume found.start stop ∧
        Rule.resume found.start stop ≤ buffer.length + 1 := by
      unfold Rule.resume
      split <;> omega
    refine ⟨⟨_, kept, rfl⟩, _, meets_inBytes within searched, ?_, ?_, ?_⟩
    · exact strictMono_offsetOf buffer behind.1
    · exact placed_offsetOf behind.2
    · exact Nat.add_right_comm ..

theorem OnCharacters.ends (on : OnCharacters buffer scan) (refers : Refers rule)
    (inside : scan.searchFrom ≤ buffer.utf8ByteSize)
    (turn : advance rule buffer scan = .ok (.done last)) : Ends rule buffer scan last := by
  obtain ⟨inner, placed, rfl⟩ := on
  have within := offsetOf_le_utf8ByteSize_iff.mp inside
  have advances := rule.advances_advance buffer.toList.toArray inner
  rw [advance_inBytes refers placed within] at turn
  generalize rule.advance buffer.toList.toArray inner = step at turn advances
  cases advances with
  | exhausted searched =>
    cases turn
    refine .empty ?_ rfl
    rw [met?_inBytes within, searched]
    rfl
  | unterminated found searched missing =>
    cases turn
    exact .met (meets_inBytes within searched) rfl
  | satisfied found stop searched ends mode =>
    cases turn
    exact .met (meets_inBytes within searched) (Nat.add_right_comm ..)
  | further => cases turn

/-! ## All turns -/

section Runs

variable (refers : Refers rule)

include refers

/-- A scan in bytes takes turns up to where the scan in characters ends. -/
theorem exists_turns {inner : Scan} (placed : Placed buffer inner) :
    ∃ turns, Turns rule buffer (inBytes buffer inner) turns
      (inBytes buffer (rule.scanFrom buffer.toList.toArray inner)) := by
  have size_eq : buffer.toList.toArray.size = buffer.length := String.length_toList
  induction inner using Rule.scanFrom.induct rule buffer.toList.toArray with
  | case1 inner inside last turn =>
    have within : inner.searchFrom ≤ buffer.length := size_eq ▸ inside
    have taken := advance_inBytes refers placed within
    rw [turn] at taken
    rw [Rule.scanFrom_of_done inside turn]
    exact ⟨_, .last (offsetOf_le_utf8ByteSize_iff.mpr within) taken⟩
  | case2 inner inside next turn ih =>
    have within : inner.searchFrom ≤ buffer.length := size_eq ▸ inside
    have taken := advance_inBytes refers placed within
    have kept := placed.advance rule
    rw [turn] at taken kept
    rw [Rule.scanFrom_of_yield inside turn]
    obtain ⟨turns, others⟩ := ih kept
    exact ⟨_, .further (offsetOf_le_utf8ByteSize_iff.mpr within) taken others⟩
  | case3 inner beyond =>
    have outside : ¬ offsetOf buffer inner.searchFrom ≤ buffer.utf8ByteSize := by
      intro searches
      exact beyond (size_eq ▸ offsetOf_le_utf8ByteSize_iff.mp searches)
    rw [Rule.scanFrom_of_lt (Nat.lt_of_not_le beyond)]
    exact ⟨[], .beyond (Nat.lt_of_not_le outside)⟩

/-- Every turn searches from between two characters. -/
theorem Turns.onCharacters (taken : Turns rule buffer scan turns last)
    (on : OnCharacters buffer scan) :
    ∀ turn ∈ turns, OnCharacters buffer turn ∧ turn.searchFrom ≤ buffer.utf8ByteSize := by
  induction taken with
  | beyond => exact nofun
  | last inside => simpa using ⟨on, inside⟩
  | further inside turn others ih =>
    have behind := ih (on.yields refers inside turn).1
    exact List.forall_mem_cons.mpr ⟨⟨on, inside⟩, behind⟩

/-- The matches start behind where the scan searches, one behind the other. -/
theorem Turns.starts_sorted (taken : Turns rule buffer scan turns last)
    (on : OnCharacters buffer scan) :
    (∀ start ∈ starts rule buffer turns, scan.searchFrom ≤ start ∧ isBoundary buffer start = true) ∧
      (starts rule buffer turns).Pairwise (· < ·) := by
  induction taken with
  | beyond => exact ⟨nofun, .nil⟩
  | last inside turn =>
    cases on.ends refers inside turn with
    | empty met => simp [starts, met]
    | met meets => simp [starts, meets.met, meets.le_start, meets.boundary]
  | further inside turn others ih =>
    obtain ⟨next, start, yields⟩ := on.yields refers inside turn
    obtain ⟨behind, sorted⟩ := ih next
    rw [starts_cons_of_met yields.met]
    refine ⟨?_, List.pairwise_cons.mpr ⟨?_, sorted⟩⟩
    · refine List.forall_mem_cons.mpr ⟨⟨yields.le_start, yields.boundary⟩, ?_⟩
      intro later member
      obtain ⟨above, boundary⟩ := behind later member
      have passed := yields.start_lt
      have reached := yields.le_start
      exact ⟨by omega, boundary⟩
    · intro later member
      exact Nat.lt_of_lt_of_le yields.start_lt (behind later member).1

/-- Every match that is met is counted once. -/
theorem Turns.total_eq (taken : Turns rule buffer scan turns last)
    (on : OnCharacters buffer scan) :
    total last = total scan + (starts rule buffer turns).length := by
  induction taken with
  | beyond => rfl
  | last inside turn =>
    cases on.ends refers inside turn with
    | empty met total_eq => simp [starts, met, total_eq]
    | met meets total_eq => simp [starts, meets.met, total_eq]
  | further inside turn others ih =>
    obtain ⟨next, start, yields⟩ := on.yields refers inside turn
    rw [starts_cons_of_met yields.met, List.length_cons, ih next, yields.total_eq]
    omega

end Runs

/-! ## Places -/

theorem exists_offsetOf_of_isBoundary {offset : Nat} (boundary : isBoundary buffer offset = true) :
    ∃ index ≤ buffer.length, offsetOf buffer index = offset := by
  have valid := String.Pos.Raw.isValid_eq_true_iff.mp boundary
  obtain ⟨index, same⟩ := String.Pos.Raw.isValid_iff_exists_take_toList.mp valid
  have within := Nat.min_le_right index buffer.length
  refine ⟨min index buffer.length, within, ?_⟩
  rw [offsetOf_of_le within, ← String.utf8ByteSize_ofList, ← String.length_toList,
    ← List.take_eq_take_min]
  exact same.symm

/-- There is one place more than there are characters. -/
theorem length_le_of_boundaries {offsets : List Nat} (sorted : offsets.Pairwise (· < ·))
    (boundaries : ∀ offset ∈ offsets, isBoundary buffer offset = true) :
    offsets.length ≤ buffer.length + 1 := by
  have within : offsets ⊆ (List.range (buffer.length + 1)).map (offsetOf buffer) := by
    intro offset member
    obtain ⟨index, inside, same⟩ := exists_offsetOf_of_isBoundary (boundaries offset member)
    exact List.mem_map.mpr ⟨index, List.mem_range.mpr (Nat.lt_succ_of_le inside), same⟩
  have distinct : offsets.Nodup := sorted.imp Nat.ne_of_lt
  have fewer := (distinct.subperm within).length_le
  rwa [List.length_map, List.length_range] at fewer

/-! ## The scan of a rule -/

structure Progresses (rule : Rule) (buffer : String) (turns : List Scan) (last : Scan) : Prop where
  taken : Turns rule buffer .start turns last
  /-- The loop ends once it has taken these turns. -/
  ends : ∀ fuel, turns.length < fuel → scanFrom rule buffer fuel .start = .ok last
  /-- What does not end the loop lets it search further on, between characters or past the end. -/
  further : ∀ turn ∈ turns, isBoundary buffer turn.searchFrom = true ∧
    ∀ next, advance rule buffer turn = .ok (.yield next) →
      turn.searchFrom < next.searchFrom ∧ (isBoundary buffer next.searchFrom = true ∨
        next.searchFrom = buffer.utf8ByteSize + 1)
  increasing : (starts rule buffer turns).Pairwise (· < ·)

structure Bounded (rule : Rule) (buffer : String) (emendation : Emendation) : Prop where
  all : emendation.matchCount + emendation.unterminated ≤ buffer.length + 1
  unterminated : emendation.unterminated ≤ 1
  plain : rule.terminator = none → emendation.unterminated = 0
  first : rule.mode = .firstMatch → emendation.matchCount + emendation.unterminated ≤ 1

/-- **A scan comes to an end, and its counts are bounded.** Each turn of a rule that compiles either
is the last one or lets the next one search further on, between two characters or past the end. The
matches that are met start one behind the other. Each of them is counted once, as a region or as a
match without a terminator, so there is at most one more than there are characters; at most one has
no terminator, and none does if the rule asks for none; and where the first region is all that is
replaced, there is at most one. -/
theorem scan_progresses {limit : Nat} {spec : RuleSpec} {rule : Rule}
    (compiles : Rule.compile limit spec = .ok rule) (buffer : String) :
    let emendation := rule.emend buffer
    ∃ turns last, Progresses rule buffer turns last ∧
      last.matchCount = emendation.matchCount ∧ last.unterminated = emendation.unterminated ∧
      (starts rule buffer turns).length = emendation.matchCount + emendation.unterminated ∧
      Bounded rule buffer emendation := by
  have refers := refers_of_compile compiles
  have placed : Placed buffer .start := ⟨Nat.zero_le _, Nat.le_refl _⟩
  have start_eq : inBytes buffer .start = .start := by
    unfold inBytes Scan.start
    rw [offsetOf_zero]
  have on : OnCharacters buffer .start := ⟨.start, placed, start_eq⟩
  obtain ⟨turns, taken⟩ := exists_turns refers placed
  rw [start_eq] at taken
  obtain ⟨above, increasing⟩ := taken.starts_sorted refers on
  have counted : (starts rule buffer turns).length =
      (rule.emend buffer).matchCount + (rule.emend buffer).unterminated := by
    have total_eq := taken.total_eq refers on
    have none : total Scan.start = 0 := rfl
    rw [none, Nat.zero_add] at total_eq
    rw [Rule.matchCount_emend, Rule.unterminated_emend]
    exact total_eq.symm
  obtain ⟨regions, explains⟩ := rule.exists_explains_emend buffer
  refine ⟨turns, _, ⟨taken, fun fuel => taken.scanFrom_eq, ?_, increasing⟩,
    (rule.matchCount_emend buffer).symm, (rule.unterminated_emend buffer).symm, counted, ?_⟩
  · intro turn member
    obtain ⟨reached, inside⟩ := taken.onCharacters refers on turn member
    refine ⟨reached.boundary inside, ?_⟩
    intro next yielded
    obtain ⟨-, start, yields⟩ := reached.yields refers inside yielded
    exact ⟨Nat.lt_of_le_of_lt yields.le_start yields.start_lt, yields.placed⟩
  · refine ⟨?_, explains.finished.le_one, explains.finished.eq_zero, ?_⟩
    · rw [← counted]
      exact length_le_of_boundaries increasing fun start member => (above start member).2
    · intro mode
      rw [explains.matchCount_eq]
      exact explains.finished.add_le_one mode

/-- Letters one by one, in a rule whose matches may be empty. -/
def letters : RuleSpec := .replaceAll "letters" "x*" "-"

theorem scan_progresses_letters :
    ∃ rule, Rule.compile Pattern.defaultWeightLimit letters = .ok rule ∧
      let emendation := rule.emend "aé"
      ∃ turns last, Progresses rule "aé" turns last ∧
        last.matchCount = emendation.matchCount ∧ last.unterminated = emendation.unterminated ∧
        (starts rule "aé" turns).length = emendation.matchCount + emendation.unterminated ∧
        Bounded rule "aé" emendation := by
  have compiled : (Rule.compile Pattern.defaultWeightLimit letters).isOk = true := by
    decide +kernel
  obtain ⟨rule, compiles⟩ := exists_of_isOk compiled
  exact ⟨rule, compiles, scan_progresses compiles "aé"⟩

end Bytes

end Emend
