import Emend.Proofs.Rule.Compiled
import Emend.Proofs.Scan.Meaning
import Emend.Proofs.Template.Drafts
import Mathlib.Data.String.Basic
import Mathlib.Order.Monotone.Basic

/-!
# Scans in bytes

A scan of a buffer whose positions count bytes, in which every access is checked: a search has to
begin, and a slice to begin and to end, between two characters of the buffer or at one of its ends,
no slice may run backwards, and a reference has to be to a group that the pattern has. A rule that
compiles never fails such a check, and does what it does in characters.
-/

namespace Emend

open Pattern (Text Match)

/-! ## Checked accesses -/

inductive Misstep where
  | search (offset : Nat)
  | slice (start stop : Nat)
  | group (index : Nat)
  /-- A scan does not come to an end. -/
  | endless
deriving DecidableEq, Repr

namespace Bytes

/-- Whether an offset lies between two characters of a buffer, or at one of its ends. -/
def isBoundary (buffer : String) (offset : Nat) : Bool := String.Pos.Raw.isValid buffer ⟨offset⟩

def slice (buffer : String) (start stop : Nat) : Except Misstep String :=
  if start ≤ stop ∧ isBoundary buffer start ∧ isBoundary buffer stop then
    .ok (String.Pos.Raw.extract buffer ⟨start⟩ ⟨stop⟩)
  else .error (.slice start stop)

def charsBefore (buffer : String) (offset : Nat) : Nat :=
  (String.Pos.Raw.extract buffer 0 ⟨offset⟩).length

/-- The number of bytes in front of a character. Behind the last one, offsets go on one by one. -/
def offsetOf (buffer : String) (index : Nat) : Nat :=
  String.utf8Len (buffer.toList.take index) + (index - buffer.length)

structure Found where
  start : Nat
  stop : Nat
  groupText? : Nat → Option (List Char)

def Found.ofMatch (buffer : String) {text : Text} {lower : Nat} (found : Match text lower) :
    Found where
  start := offsetOf buffer found.start
  stop := offsetOf buffer found.stop
  groupText? := Rule.groupText? found

def search (pattern : Pattern) (buffer : String) (offset : Nat) : Except Misstep (Option Found) :=
  if isBoundary buffer offset then
    .ok ((pattern.find? buffer.toList.toArray (charsBefore buffer offset)).map (.ofMatch buffer))
  else .error (.search offset)

def expandSegment (groupCount : Nat) (region : List Char) (groupText? : Nat → Option (List Char))
    (segment : Template.Segment) : Except Misstep (List Char) :=
  match segment with
  | .literal _ => .ok (segment.expand region groupText?)
  | .group index =>
    if index < groupCount then .ok (segment.expand region groupText?) else .error (.group index)

/-! ## Checked scans -/

section Scans

variable (rule : Rule) (buffer : String)

def stop? (found : Found) : Except Misstep (Option Nat) :=
  match rule.terminator with
  | none => .ok (some found.stop)
  | some terminator => return (← search terminator buffer found.stop).map Found.start

def expansion (found : Found) (stop : Nat) : Except Misstep String := do
  let region ← slice buffer found.start stop
  let parts ← rule.template.segments.mapM
    (expandSegment rule.pattern.groupCount region.toList found.groupText?)
  return String.ofList parts.flatten

def replace (scan : Scan) (found : Found) (stop : Nat) : Except Misstep Scan := do
  let gap ← slice buffer scan.copiedTo found.start
  let filling ← if rule.template.isEmpty then pure "" else expansion rule buffer found stop
  return { scan with
    output := scan.output ++ gap ++ filling
    copiedTo := stop
    matchCount := scan.matchCount + 1 }

def resume (start stop : Nat) : Except Misstep Nat :=
  if start < stop then .ok stop
  else do
    match (← slice buffer stop buffer.utf8ByteSize).toList.head? with
    | none => return buffer.utf8ByteSize + 1
    | some c => return stop + c.utf8Size

def advance (scan : Scan) : Except Misstep (ForInStep Scan) := do
  match ← search rule.pattern buffer scan.searchFrom with
  | none => return .done scan
  | some found =>
    match ← stop? rule buffer found with
    | none => return .done { scan with unterminated := scan.unterminated + 1 }
    | some stop =>
      let replaced ← replace rule buffer scan found stop
      if rule.mode = .firstMatch then return .done replaced
      else return .yield { replaced with searchFrom := ← resume buffer found.start stop }

/-- Search and replace until there is nothing more to replace, in so many turns at most. -/
def scanFrom : (turns : Nat) → Scan → Except Misstep Scan
  | 0, _ => .error .endless
  | turns + 1, scan =>
    if scan.searchFrom ≤ buffer.utf8ByteSize then do
      match ← advance rule buffer scan with
      | .done last => return last
      | .yield next => scanFrom turns next
    else .ok scan

/-- Apply a rule to a buffer. Every turn but the last one goes on by a byte at least. -/
def emend : Except Misstep Emendation := do
  let scan ← scanFrom rule buffer (buffer.utf8ByteSize + 2) .start
  if scan.matchCount = 0 then return ⟨buffer, 0, scan.unterminated⟩
  else
    let rest ← slice buffer scan.copiedTo buffer.utf8ByteSize
    return ⟨scan.output ++ rest, scan.matchCount, scan.unterminated⟩

end Scans

/-! ## Offsets of characters -/

section Offsets

variable {buffer : String} {index first second : Nat}

theorem offsetOf_of_le (inside : index ≤ buffer.length) :
    offsetOf buffer index = String.utf8Len (buffer.toList.take index) := by
  unfold offsetOf
  rw [Nat.sub_eq_zero_of_le inside, Nat.add_zero]

theorem offsetOf_zero (buffer : String) : offsetOf buffer 0 = 0 := by
  rw [offsetOf_of_le (Nat.zero_le _)]
  rfl

theorem offsetOf_length (buffer : String) : offsetOf buffer buffer.length = buffer.utf8ByteSize := by
  rw [offsetOf_of_le (Nat.le_refl _), ← String.length_toList, List.take_length,
    ← String.utf8ByteSize_ofList, String.ofList_toList]

/-- The next offset is behind the character that stands there. -/
theorem offsetOf_succ (buffer : String) (index : Nat) :
    offsetOf buffer (index + 1) =
      offsetOf buffer index + (buffer.toList[index]?.map Char.utf8Size).getD 1 := by
  unfold offsetOf
  rw [List.take_add_one, String.utf8Len_append, ← String.length_toList]
  cases here : buffer.toList[index]? with
  | none =>
    have behind := List.getElem?_eq_none_iff.mp here
    rw [Option.map_none, Option.getD_none, Option.toList_none, String.utf8Len_nil]
    omega
  | some c =>
    have inside := (List.getElem?_eq_some_iff.mp here).1
    have one : String.utf8Len [c] = c.utf8Size := Nat.zero_add _
    rw [Option.map_some, Option.getD_some, Option.toList_some, one]
    omega

theorem strictMono_offsetOf (buffer : String) : StrictMono (offsetOf buffer) := by
  refine strictMono_nat_of_lt_succ ?_
  intro index
  rw [offsetOf_succ]
  cases buffer.toList[index]? with
  | none => exact Nat.lt_succ_self _
  | some c => exact Nat.lt_add_of_pos_right c.utf8Size_pos

theorem offsetOf_le_utf8ByteSize_iff :
    offsetOf buffer index ≤ buffer.utf8ByteSize ↔ index ≤ buffer.length := by
  rw [← offsetOf_length]
  exact (strictMono_offsetOf buffer).le_iff_le

theorem isBoundary_offsetOf (inside : index ≤ buffer.length) :
    isBoundary buffer (offsetOf buffer index) = true := by
  refine String.Pos.Raw.isValid_eq_true_iff.mpr ?_
  refine String.Pos.Raw.isValid_iff_exists_take_toList.mpr ⟨index, ?_⟩
  rw [String.utf8ByteSize_ofList, ← offsetOf_of_le inside]

theorem extract_offsetOf (ordered : first ≤ second) (inside : second ≤ buffer.length) :
    String.Pos.Raw.extract buffer ⟨offsetOf buffer first⟩ ⟨offsetOf buffer second⟩ =
      String.ofList (Rule.slice buffer.toList.toArray first second) := by
  let front := buffer.toList.take first
  let middle := (buffer.toList.drop first).take (second - first)
  have joined : front ++ middle = buffer.toList.take second := by
    rw [← List.take_add, Nat.add_sub_cancel' ordered]
  have split : String.ofList (front ++ middle ++ buffer.toList.drop second) = buffer := by
    rw [joined, List.take_append_drop, String.ofList_toList]
  have second_eq : offsetOf buffer second = String.utf8Len front + String.utf8Len middle := by
    rw [offsetOf_of_le inside, ← String.utf8Len_append, joined]
  have slice_eq : Rule.slice buffer.toList.toArray first second = middle := by
    simp [Rule.slice, middle]
  have between := String.extract_of_valid front middle (buffer.toList.drop second)
  rw [split] at between
  rw [offsetOf_of_le (Nat.le_trans ordered inside), second_eq, slice_eq]
  exact between

theorem slice_offsetOf (ordered : first ≤ second) (inside : second ≤ buffer.length) :
    slice buffer (offsetOf buffer first) (offsetOf buffer second) =
      .ok (String.ofList (Rule.slice buffer.toList.toArray first second)) := by
  unfold slice
  rw [if_pos ⟨(strictMono_offsetOf buffer).monotone ordered,
    isBoundary_offsetOf (Nat.le_trans ordered inside), isBoundary_offsetOf inside⟩,
    extract_offsetOf ordered inside]

theorem slice_to_end (inside : index ≤ buffer.length) :
    slice buffer (offsetOf buffer index) buffer.utf8ByteSize =
      .ok (String.ofList (Rule.slice buffer.toList.toArray index buffer.length)) := by
  rw [← offsetOf_length]
  exact slice_offsetOf inside (Nat.le_refl _)

theorem charsBefore_offsetOf (inside : index ≤ buffer.length) :
    charsBefore buffer (offsetOf buffer index) = index := by
  have front := extract_offsetOf (Nat.zero_le index) inside
  rw [offsetOf_zero] at front
  have size_eq : buffer.toList.toArray.size = buffer.length := String.length_toList
  unfold charsBefore
  change (String.Pos.Raw.extract buffer ⟨0⟩ _).length = _
  rw [front, String.length_ofList]
  unfold Rule.slice
  rw [Array.length_toList, Array.size_extract, size_eq]
  omega

end Offsets

/-! ## A turn -/

section Turns

variable {rule : Rule} {buffer : String}

theorem search_offsetOf (pattern : Pattern) {lower : Nat} (inside : lower ≤ buffer.length) :
    search pattern buffer (offsetOf buffer lower) =
      .ok ((pattern.find? buffer.toList.toArray lower).map (.ofMatch buffer)) := by
  unfold search
  rw [if_pos (isBoundary_offsetOf inside), charsBefore_offsetOf inside]

theorem stop_le_length {lower : Nat} (found : Match buffer.toList.toArray lower) :
    found.stop ≤ buffer.length := by
  have inside := found.stop_le
  rwa [List.size_toArray, String.length_toList] at inside

theorem le_length_of_stop? {lower stop : Nat} {found : Match buffer.toList.toArray lower}
    (ends : rule.stop? found = some stop) : stop ≤ buffer.length := by
  have inside := Rule.stop_le_size_of_stop? ends
  rwa [List.size_toArray, String.length_toList] at inside

theorem stop?_ofMatch (rule : Rule) {lower : Nat} (found : Match buffer.toList.toArray lower) :
    stop? rule buffer (.ofMatch buffer found) =
      .ok ((rule.stop? found).map (offsetOf buffer)) := by
  unfold stop? Rule.stop?
  cases rule.terminator with
  | none => rfl
  | some terminator =>
    dsimp only [Found.ofMatch]
    rw [search_offsetOf terminator (stop_le_length found), ok_bind]
    cases terminator.find? buffer.toList.toArray found.stop with
    | none => rfl
    | some close => rfl

/-- The references of a rule are to groups that its pattern has. -/
def Refers (rule : Rule) : Prop :=
  ∀ index, .group index ∈ rule.template.segments → index < rule.pattern.groupCount

theorem expansion_ofMatch (refers : Refers rule) {lower stop : Nat}
    {found : Match buffer.toList.toArray lower} (ends : rule.stop? found = some stop)
    (inside : stop ≤ buffer.length) :
    expansion rule buffer (.ofMatch buffer found) (offsetOf buffer stop) =
      .ok (String.ofList (rule.expansion found stop)) := by
  have ordered := Nat.le_trans found.start_le (Rule.le_of_stop? ends)
  have parts (region : List Char) (groupText? : Nat → Option (List Char)) :
      rule.template.segments.mapM (expandSegment rule.pattern.groupCount region groupText?) =
        .ok (rule.template.segments.map (Template.Segment.expand region groupText?)) := by
    refine mapM_of_forall_ok ?_
    intro segment member
    cases segment with
    | literal chars => rfl
    | group index => exact if_pos (refers index member)
  unfold expansion
  dsimp only [Found.ofMatch]
  rw [slice_offsetOf ordered inside, ok_bind, String.toList_ofList, parts]
  rfl

def inBytes (buffer : String) (scan : Scan) : Scan :=
  { scan with
    copiedTo := offsetOf buffer scan.copiedTo
    searchFrom := offsetOf buffer scan.searchFrom }

def turnInBytes (buffer : String) : ForInStep Scan → ForInStep Scan
  | .done last => .done (inBytes buffer last)
  | .yield next => .yield (inBytes buffer next)

/-- A scan has copied nothing from behind the buffer, and nothing from behind where it searches. -/
structure Placed (buffer : String) (scan : Scan) : Prop where
  within : scan.copiedTo ≤ buffer.length
  copiedTo_le : scan.copiedTo ≤ scan.searchFrom

theorem replace_inBytes (refers : Refers rule) {scan : Scan} (placed : Placed buffer scan)
    {found : Match buffer.toList.toArray scan.searchFrom} {stop : Nat}
    (ends : rule.stop? found = some stop) (inside : stop ≤ buffer.length) :
    replace rule buffer (inBytes buffer scan) (.ofMatch buffer found) (offsetOf buffer stop) =
      .ok (inBytes buffer (rule.replace scan found stop)) := by
  have gap := slice_offsetOf (Nat.le_trans placed.copiedTo_le found.lower_le)
    (Nat.le_trans found.start_le (stop_le_length found))
  unfold replace Rule.replace
  dsimp only [inBytes, Found.ofMatch] at gap ⊢
  rw [gap, ok_bind]
  cases rule.template.isEmpty with
  | true => simp [pure, Except.pure, ok_bind]
  | false =>
    have filling := expansion_ofMatch refers ends inside
    dsimp only [Found.ofMatch] at filling
    simp only [Bool.false_eq_true, if_false, filling, ok_bind]
    rfl

theorem resume_offsetOf {start stop : Nat} (ordered : start ≤ stop)
    (inside : stop ≤ buffer.length) :
    resume buffer (offsetOf buffer start) (offsetOf buffer stop) =
      .ok (offsetOf buffer (Rule.resume start stop)) := by
  unfold resume Rule.resume
  rcases Nat.lt_or_eq_of_le ordered with further | rfl
  · rw [if_pos (strictMono_offsetOf buffer further), if_pos further]
  · rw [if_neg (Nat.lt_irrefl _), if_neg (Nat.lt_irrefl _), slice_to_end inside, ok_bind,
      offsetOf_succ, String.toList_ofList]
    have head_eq : (Rule.slice buffer.toList.toArray start buffer.length).head? =
        buffer.toList[start]? := by
      rw [← List.head?_drop, ← String.length_toList]
      simp [Rule.slice, List.take_of_length_le]
    rw [head_eq]
    cases here : buffer.toList[start]? with
    | none =>
      have behind := List.getElem?_eq_none_iff.mp here
      rw [String.length_toList] at behind
      rw [Nat.le_antisymm inside behind, offsetOf_length]
      rfl
    | some c => rfl

/-- A turn in bytes is the turn in characters. -/
theorem advance_inBytes (refers : Refers rule) {scan : Scan} (placed : Placed buffer scan)
    (inside : scan.searchFrom ≤ buffer.length) :
    advance rule buffer (inBytes buffer scan) =
      .ok (turnInBytes buffer (rule.advance buffer.toList.toArray scan)) := by
  unfold advance Rule.advance
  have searched := search_offsetOf rule.pattern inside
  dsimp only [inBytes] at searched ⊢
  rw [searched, ok_bind]
  cases rule.pattern.find? buffer.toList.toArray scan.searchFrom with
  | none => rfl
  | some found =>
    dsimp only [Option.map_some]
    rw [stop?_ofMatch, ok_bind]
    cases ends : rule.stop? found with
    | none => rfl
    | some stop =>
      have stop_le : stop ≤ buffer.length := le_length_of_stop? ends
      have replaced := replace_inBytes refers placed ends stop_le
      have ordered := Nat.le_trans found.start_le (Rule.le_of_stop? ends)
      dsimp only [inBytes, Option.map_some] at replaced ⊢
      rw [replaced, ok_bind]
      by_cases mode : rule.mode = .firstMatch
      · rw [if_pos mode, if_pos mode]
        rfl
      · rw [if_neg mode, if_neg mode]
        dsimp only [Found.ofMatch]
        rw [resume_offsetOf ordered stop_le]
        rfl

/-- A turn copies nothing from behind the buffer, and the next one starts in its place. -/
theorem Placed.advance (rule : Rule) {scan : Scan} (placed : Placed buffer scan) :
    match rule.advance buffer.toList.toArray scan with
    | .done last => last.copiedTo ≤ buffer.length
    | .yield next => Placed buffer next := by
  have advances := rule.advances_advance buffer.toList.toArray scan
  generalize rule.advance buffer.toList.toArray scan = turn at advances ⊢
  cases advances with
  | exhausted => exact placed.within
  | unterminated => exact placed.within
  | satisfied found stop _ ends => exact le_length_of_stop? ends
  | further found stop _ ends =>
    refine ⟨le_length_of_stop? ends, ?_⟩
    change stop ≤ Rule.resume found.start stop
    unfold Rule.resume
    split <;> omega

/-! ## A scan -/

/-- A scan that searches within the buffer takes a turn. -/
theorem scanFrom_succ (refers : Refers rule) {scan : Scan} (placed : Placed buffer scan)
    (inside : scan.searchFrom ≤ buffer.length) (turns : Nat) :
    scanFrom rule buffer (turns + 1) (inBytes buffer scan) =
      match rule.advance buffer.toList.toArray scan with
      | .done last => .ok (inBytes buffer last)
      | .yield next => scanFrom rule buffer turns (inBytes buffer next) := by
  have searches : (inBytes buffer scan).searchFrom ≤ buffer.utf8ByteSize :=
    offsetOf_le_utf8ByteSize_iff.mpr inside
  rw [scanFrom, if_pos searches, advance_inBytes refers placed inside, ok_bind]
  cases rule.advance buffer.toList.toArray scan with
  | done last => rfl
  | yield next => rfl

/-- A scan in bytes is the scan in characters, if it may take as many turns as there are offsets to
search from, and one more. -/
theorem scanFrom_inBytes (refers : Refers rule) {scan : Scan} (placed : Placed buffer scan)
    {turns : Nat} (enough : buffer.utf8ByteSize + 1 < turns + offsetOf buffer scan.searchFrom)
    (some : 0 < turns) :
    scanFrom rule buffer turns (inBytes buffer scan) =
        .ok (inBytes buffer (rule.scanFrom buffer.toList.toArray scan)) ∧
      (rule.scanFrom buffer.toList.toArray scan).copiedTo ≤ buffer.length := by
  have size_eq : buffer.toList.toArray.size = buffer.length := String.length_toList
  obtain ⟨turns, rfl⟩ := Nat.exists_eq_add_one_of_ne_zero (Nat.ne_of_gt some)
  induction scan using Rule.scanFrom.induct rule buffer.toList.toArray generalizing turns with
  | case1 scan inside last turn =>
    have kept := placed.advance rule
    have taken := scanFrom_succ refers placed (size_eq ▸ inside) turns
    rw [turn] at kept taken
    rw [Rule.scanFrom_of_done inside turn]
    exact ⟨taken, kept⟩
  | case2 scan inside next turn ih =>
    have kept := placed.advance rule
    have taken := scanFrom_succ refers placed (size_eq ▸ inside) turns
    rw [turn] at kept taken
    have further := strictMono_offsetOf buffer (Rule.searchFrom_lt_of_advance turn)
    have reached := offsetOf_le_utf8ByteSize_iff.mpr (size_eq ▸ inside)
    obtain ⟨turns, rfl⟩ := Nat.exists_eq_add_one_of_ne_zero (n := turns) (by omega)
    rw [Rule.scanFrom_of_yield inside turn, taken]
    exact ih kept turns (by omega) (Nat.succ_pos turns)
  | case3 scan beyond =>
    rw [Rule.scanFrom_of_lt (Nat.lt_of_not_le beyond), scanFrom, if_neg]
    · exact ⟨rfl, placed.within⟩
    · intro searches
      exact beyond (size_eq ▸ offsetOf_le_utf8ByteSize_iff.mp searches)

end Turns

/-! ## A rule -/

/-- The references of a rule that compiles are to groups of its pattern. -/
theorem refers_of_compile {limit : Nat} {spec : RuleSpec} {rule : Rule}
    (compiles : Rule.compile limit spec = .ok rule) : Refers rule := by
  intro index member
  have read := (Rule.compile_eq_ok_iff.mp compiles).template
  exact (Template.isNormal_of_parse read).inside index member

/-- **A rule that compiles does not fail.** Applied to any buffer in bytes, every search begins, and
every slice begins and ends, between two characters of the buffer or at one of its ends, no slice
runs backwards, every reference is to a group of the pattern, and the scan comes to an end. What is
done is what the rule does in characters. -/
theorem emend_eq_ok_of_compile {limit : Nat} {spec : RuleSpec} {rule : Rule}
    (compiles : Rule.compile limit spec = .ok rule) (buffer : String) :
    emend rule buffer = .ok (rule.emend buffer) := by
  have start : Placed buffer .start := ⟨Nat.zero_le _, Nat.le_refl _⟩
  have start_eq : inBytes buffer .start = .start := by
    unfold inBytes Scan.start
    rw [offsetOf_zero]
  have size_eq : buffer.toList.toArray.size = buffer.length := String.length_toList
  have enough : buffer.utf8ByteSize + 1 < buffer.utf8ByteSize + 2 + offsetOf buffer 0 := by omega
  obtain ⟨scanned, within⟩ :=
    scanFrom_inBytes (refers_of_compile compiles) start enough (Nat.succ_pos _)
  unfold emend Rule.emend
  rw [start_eq] at scanned
  rw [scanned, ok_bind]
  dsimp only
  rw [size_eq]
  generalize rule.scanFrom buffer.toList.toArray .start = scan at within
  by_cases nothing : scan.matchCount = 0
  · have nothing' : (inBytes buffer scan).matchCount = 0 := nothing
    rw [if_pos nothing, if_pos nothing']
    rfl
  · have some' : ¬ (inBytes buffer scan).matchCount = 0 := nothing
    have rest := slice_to_end within
    rw [if_neg nothing, if_neg some']
    dsimp only [inBytes]
    rw [rest]
    rfl

/-- A rule with a terminator, whose matches and regions may be empty and lie among characters of
several bytes. -/
def umlauts : RuleSpec :=
  (RuleSpec.replaceAll "umlauts" "(ü)*" "<\\1\\g<0>>").withTerminator "ß?$"

theorem emend_eq_ok_umlauts :
    ∃ rule, Rule.compile Pattern.defaultWeightLimit umlauts = .ok rule ∧
      emend rule "füße\nü" = .ok (rule.emend "füße\nü") := by
  have compiled : (Rule.compile Pattern.defaultWeightLimit umlauts).isOk = true := by
    decide +kernel
  obtain ⟨rule, compiles⟩ := exists_of_isOk compiled
  exact ⟨rule, compiles, emend_eq_ok_of_compile compiles "füße\nü"⟩

end Bytes

end Emend
