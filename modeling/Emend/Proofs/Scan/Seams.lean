import Emend.Proofs.Pattern.Locality
import Emend.Proofs.Pipeline.Inert
import Emend.Proofs.Scan.Modes
import Emend.Proofs.Template.Parsing

/-!
# Seams

Where a rule erases a region, what stood in front of it and what stood behind it meet. The rule does
not look at the seam again, so it can find something there when it is applied once more: `ab` erased
from `aabb` leaves `ab`. Away from the seams it finds nothing new. Between two of them the text that
is left looks like the buffer did, and there the rule had found nothing.
-/

namespace Emend

open Pattern (Text Match SameAround movedBy)

namespace Rule

/-! ## Parts of a text -/

section Parts

variable {text left : Text} {front behind : List Char} {first stop : Nat}

theorem length_slice (within : stop ≤ text.size) :
    (slice text first stop).length = stop - first := by
  rw [slice, Array.length_toList, Array.size_extract, Nat.min_eq_left within]

theorem getElem?_slice (within : stop ≤ text.size) (index : Nat) :
    (slice text first stop)[index]? =
      if index < stop - first then text[first + index]? else none := by
  rw [slice, Array.getElem?_toList, Array.getElem?_extract, Nat.min_eq_left within]

/-- A text that holds a part of another one has the characters of that part. -/
theorem getElem?_of_part (left_eq : left.toList = front ++ slice text first stop ++ behind)
    (within : stop ≤ text.size) {index : Nat}
    (below : index < stop - first ∨ behind = [] ∧ stop = text.size) :
    text[first + index]? = left[front.length + index]? := by
  have listed : left.toList[front.length + index]? = left[front.length + index]? :=
    Array.getElem?_toList
  rw [← listed, left_eq, List.append_assoc, List.getElem?_append_right (Nat.le_add_right _ _),
    Nat.add_sub_cancel_left]
  by_cases inside : index < stop - first
  · rw [List.getElem?_append_left (by rwa [length_slice within]), getElem?_slice within,
      if_pos inside]
  · obtain ⟨rfl, rfl⟩ := below.resolve_left inside
    rw [List.append_nil, getElem?_slice within, if_neg inside, Array.getElem?_eq_none (by omega)]

/-- A text that holds a part of another one looks like it within that part. -/
theorem sameAround_of_part (left_eq : left.toList = front ++ slice text first stop ++ behind)
    (ordered : first ≤ stop) (within : stop ≤ text.size) (short : front.length ≤ first)
    {position : Nat} (above : first = 0 ∨ front.length < position)
    (below : position < front.length + (stop - first) ∨ behind = [] ∧ stop = text.size) :
    SameAround left text (first - front.length) position := by
  have same (index : Nat) (reached : front.length ≤ index) (index_le : index ≤ position) :
      text[index + (first - front.length)]? = left[index]? := by
    obtain ⟨offset, rfl⟩ := Nat.exists_eq_add_of_le reached
    have moved : front.length + offset + (first - front.length) = first + offset := by omega
    rw [moved]
    exact getElem?_of_part left_eq within (below.imp_left (by omega))
  have size_eq : left.size = front.length + (stop - first) + behind.length := by
    rw [← Array.length_toList, left_eq, List.length_append, List.length_append,
      length_slice within]
  refine ⟨same position (by omega) (Nat.le_refl _), ?before, ?start, ?stop⟩
  case before =>
    unfold Pattern.Text.before?
    by_cases atFront : position = 0
    · have shift_eq : first - front.length = 0 := by omega
      rw [atFront, shift_eq]
      rfl
    · have moved : position + (first - front.length) - 1 =
          position - 1 + (first - front.length) := by omega
      rw [if_neg atFront, if_neg (by omega), moved]
      exact same (position - 1) (by omega) (Nat.sub_le _ _)
  case start => omega
  case stop =>
    rcases below with inside | ⟨rfl, rfl⟩
    · omega
    · rw [List.length_nil] at size_eq
      omega

end Parts

/-! ## Regions in a row -/

variable {rule : Rule} {text left : Text} {front back regions : List (Region text)}
  {emendation : Emendation}

/-- The search goes on where the last region ends, or right behind that. -/
theorem searchBehind_cases (regions : List (Region text)) :
    Region.searchBehind regions = Region.stopBehind 0 regions ∨
      Region.searchBehind regions = Region.stopBehind 0 regions + 1 := by
  unfold Region.searchBehind Region.stopBehind
  cases regions.getLast? with
  | none => exact .inl rfl
  | some region =>
    simp only [Option.map_some, Option.getD_some, Region.next, resume]
    split
    · exact .inl rfl
    · exact .inr rfl

/-! ## Erased regions -/

def Erases (rule : Rule) : Prop := rule.template.segments = []

theorem filled_of_erases (erases : rule.Erases) (region : Region text) :
    region.filled rule.template = [] := by
  rw [Region.filled, erases, List.flatMap_nil]

theorem erases_of_compile {limit : Nat} {spec : RuleSpec} (mode : spec.mode = .eraseRegion)
    (compiles : compile limit spec = .ok rule) : rule.Erases := by
  obtain ⟨_, _, _, bare, parsed, _⟩ := compile_eq_ok_iff.mp compiles
  rw [bare mode] at parsed
  have nothing : Template.parse rule.pattern.groupNames "" = .ok ⟨[]⟩ :=
    Template.parse_eq_ok_iff_readAs.mpr .nil
  exact congrArg Template.segments (Except.ok.inj (parsed.symm.trans nothing))

/-- What is left in front of a position is no longer than the text in front of it. -/
theorem length_rendered_le (erases : rule.Erases) {start : Nat}
    (behind : ∀ region ∈ regions, start ≤ region.start)
    (ordered : ∀ region ∈ regions, region.start ≤ region.stop)
    (apart : regions.Pairwise fun before behind =>
      before.stop ≤ behind.start ∧ before.start < behind.start) :
    start + (rule.rendered text start regions).length ≤ Region.stopBehind start regions := by
  induction regions generalizing start with
  | nil => exact Nat.le_refl _
  | cons region rest ih =>
    obtain ⟨here, -⟩ := List.forall_mem_cons.mp behind
    obtain ⟨upward, others⟩ := List.forall_mem_cons.mp ordered
    obtain ⟨later, back⟩ := List.pairwise_cons.mp apart
    have rest_le := ih (fun next member => (later next member).1) others back
    have gap_le : (slice text start region.start).length ≤ region.start - start := by
      rw [slice, Array.length_toList, Array.size_extract]
      omega
    rw [rendered, filled_of_erases erases, Region.stopBehind_cons, List.append_nil,
      List.length_append]
    omega

/-- Where in the new text the part begins that lay behind regions. -/
def seam (rule : Rule) (regions : List (Region text)) : Nat := (rule.rendered text 0 regions).length

/-- How many characters fewer there are in front of a seam than there were in the text. -/
def lost (rule : Rule) (regions : List (Region text)) : Nat :=
  Region.stopBehind 0 regions - rule.seam regions

/-- The first place behind a seam, and the front of the text if there is no seam. -/
def behindSeam (rule : Rule) : List (Region text) → Nat
  | [] => 0
  | region :: rest => rule.seam (region :: rest) + 1

theorem behindSeam_cases (rule : Rule) (regions : List (Region text)) :
    regions = [] ∧ rule.behindSeam regions = 0 ∨
      regions ≠ [] ∧ rule.behindSeam regions = rule.seam regions + 1 := by
  cases regions with
  | nil => exact .inl ⟨rfl, rfl⟩
  | cons region rest => exact .inr ⟨List.cons_ne_nil _ _, rfl⟩

namespace Explains

variable (erases : rule.Erases) (explains : rule.Explains text (front ++ back) emendation)

include explains in
theorem stopBehind_le_size : Region.stopBehind 0 front ≤ text.size := by
  rcases front.eq_nil_or_concat' with rfl | ⟨others, region, rfl⟩
  · exact Nat.zero_le _
  · rw [Region.stopBehind_concat]
    exact (explains.within region (by simp)).2

include erases explains

theorem seam_add_lost : rule.seam front + rule.lost front = Region.stopBehind 0 front := by
  have ordered (region : Region text) (member : region ∈ front) : region.start ≤ region.stop :=
    (explains.within region (List.mem_append_left _ member)).1
  have apart := (List.pairwise_append.mp explains.apart).1
  have shorter := length_rendered_le erases (fun _ _ => Nat.zero_le _) ordered apart
  rw [Nat.zero_add] at shorter
  exact Nat.add_sub_of_le shorter

/-- The search behind regions begins in front of whatever lies behind the seam. -/
theorem searchBehind_le {position : Nat} (above : rule.behindSeam front ≤ position) :
    Region.searchBehind front ≤ position + rule.lost front := by
  have moved := seam_add_lost erases explains
  rcases rule.behindSeam_cases front with ⟨rfl, -⟩ | ⟨-, behind⟩
  · exact Nat.zero_le _
  · rcases searchBehind_cases front with same | same <;> omega

end Explains

section Next

variable {next : Region text} {rest : List (Region text)}
  (explains : rule.Explains text (front ++ next :: rest) emendation)
include explains

theorem Explains.finds_next : rule.Finds front next := by
  have finds := explains.finds front.length (by simp)
  simpa using finds

theorem Explains.stopBehind_le_start : Region.stopBehind 0 front ≤ next.start := by
  have above := explains.finds_next.searchBehind_le
  rcases searchBehind_cases front with same | same <;> omega

/-- The next seam lies behind the gap between the two regions. -/
theorem Explains.seam_concat_add_lost (erases : rule.Erases) :
    rule.seam (front ++ [next]) + rule.lost front = next.start := by
  have inside := explains.within next (by simp)
  have moved := explains.seam_add_lost erases
  have ordered := explains.stopBehind_le_start
  have seam_eq : rule.seam (front ++ [next]) =
      rule.seam front + (next.start - Region.stopBehind 0 front) := by
    rw [seam, rendered_concat, filled_of_erases erases, List.append_nil, List.length_append,
      length_slice (Nat.le_trans inside.1 inside.2)]
    rfl
  omega

end Next

/-- Between two seams the text that is left looks like the text did. -/
theorem Explains.sameAround (erases : rule.Erases)
    (explains : rule.Explains text (front ++ back) emendation) {position : Nat}
    (above : rule.behindSeam front ≤ position)
    (below : ∀ next rest, back = next :: rest → position < rule.seam (front ++ [next])) :
    SameAround emendation.text.toList.toArray text (rule.lost front) position := by
  have moved := explains.seam_add_lost erases
  have short : rule.seam front ≤ Region.stopBehind 0 front := Nat.le.intro moved
  have above' : Region.stopBehind 0 front = 0 ∨ rule.seam front < position := by
    rcases rule.behindSeam_cases front with ⟨rfl, -⟩ | ⟨-, behind⟩
    · exact .inl rfl
    · exact .inr (by omega)
  cases back with
  | nil =>
    have left_eq : emendation.text.toList.toArray.toList =
        rule.rendered text 0 front ++ slice text (Region.stopBehind 0 front) text.size ++ [] := by
      rw [List.toList_toArray, explains.text_eq, List.append_nil, List.append_nil]
    exact sameAround_of_part left_eq explains.stopBehind_le_size (Nat.le_refl _) short above'
      (.inr ⟨rfl, rfl⟩)
  | cons next rest =>
    have inside := explains.within next (by simp)
    have ordered := explains.stopBehind_le_start
    have left_eq : emendation.text.toList.toArray.toList =
        rule.rendered text 0 front ++ slice text (Region.stopBehind 0 front) next.start ++
          (rule.rendered text next.stop rest ++
            slice text (Region.stopBehind 0 (front ++ next :: rest)) text.size) := by
      rw [List.toList_toArray, explains.text_eq, rendered_append, rendered,
        filled_of_erases erases, List.append_nil]
      simp only [List.append_assoc]
    have below' : position < rule.seam front + (next.start - Region.stopBehind 0 front) := by
      have before := below next rest rfl
      have seam_eq := explains.seam_concat_add_lost erases
      omega
    exact sameAround_of_part left_eq ordered (Nat.le_trans inside.1 inside.2) short above'
      (.inl below')

/-! ## What is found again -/

/-- A match in what is left of a text touches a place where a region was erased. -/
def Touches (rule : Rule) (regions : List (Region text)) {lower : Nat}
    (found : Match left lower) : Prop :=
  ∃ front, front <+: regions ∧ front ≠ [] ∧
    found.start ≤ rule.seam front ∧ rule.seam front ≤ found.stop

/-- A scan stopped at a match without a terminator that begins where the last region ended. -/
structure StopsAtSeam (rule : Rule) (text : Text) (regions : List (Region text)) : Prop where
  erased : regions ≠ []
  stopped : ∃ found : Match text (Region.searchBehind regions),
    rule.pattern.find? text (Region.searchBehind regions) = some found ∧
      rule.stop? found = none ∧ found.start = Region.stopBehind 0 regions

/-- What is left of a text holds a region again, on account of a seam. -/
def Reopens (rule : Rule) (text : Text) (regions : List (Region text)) (left : Text) : Prop :=
  ∃ (found : Match left 0) (stop : Nat), rule.pattern.find? left 0 = some found ∧
    rule.stop? found = some stop ∧ (rule.Touches regions found ∨ rule.StopsAtSeam text regions)

/-- A match that touches no seam lies between two of them, or in front of the first one, or behind
the last one. -/
theorem exists_between {lower : Nat} {found : Match left lower}
    (untouched : ¬ rule.Touches regions found) :
    ∃ front back, front ++ back = regions ∧ rule.behindSeam front ≤ found.start ∧
      ∀ next rest, back = next :: rest → found.stop < rule.seam (front ++ [next]) := by
  -- Go from seam to seam until one lies behind the match.
  have onward (back front : List (Region text)) (all : front ++ back = regions)
      (above : rule.behindSeam front ≤ found.start) :
      ∃ front back, front ++ back = regions ∧ rule.behindSeam front ≤ found.start ∧
        ∀ next rest, back = next :: rest → found.stop < rule.seam (front ++ [next]) := by
    induction back generalizing front with
    | nil => exact ⟨front, [], all, above, nofun⟩
    | cons next rest ih =>
      have some : front ++ [next] ≠ [] := by simp
      have all' : front ++ [next] ++ rest = regions := by simp [← all]
      rcases rule.behindSeam_cases (front ++ [next]) with ⟨none, -⟩ | ⟨-, behind⟩
      · exact absurd none some
      · by_cases passed : rule.behindSeam (front ++ [next]) ≤ found.start
        · exact ih (front ++ [next]) all' passed
        · refine ⟨front, next :: rest, all, above, fun other others same => ?_⟩
          cases same
          apply Nat.lt_of_not_le
          intro reached
          exact untouched ⟨_, ⟨rest, all'⟩, some, by omega, reached⟩
  exact onward regions [] rfl (Nat.zero_le _)

/-- Between two seams, and in front of the first one, nothing is found. -/
theorem Explains.not_found_between (erases : rule.Erases) {next : Region text}
    {rest : List (Region text)}
    (explains : rule.Explains text (front ++ next :: rest) emendation) {lower : Nat}
    {found : Match emendation.text.toList.toArray lower}
    (above : rule.behindSeam front ≤ found.start)
    (below : found.stop < rule.seam (front ++ [next])) :
    rule.pattern.find? emendation.text.toList.toArray lower ≠ some found := by
  intro searched
  have finds := explains.finds_next
  have accepts := Pattern.Program.accepts_of_find? searched fun position here there => by
    refine explains.sameAround erases (Nat.le_trans above here) ?_
    rintro _ _ ⟨⟩
    exact Nat.lt_of_le_of_lt there below
  have reached := explains.searchBehind_le erases above
  rw [← finds.lower_eq] at reached
  have before : found.start + rule.lost front < next.start := by
    have seam_eq := explains.seam_concat_add_lost erases
    have upward := found.start_le
    omega
  exact (Pattern.Program.attempted_of_find? finds.searched).leftmost _ reached before accepts

/-- Behind the last seam a region is found only if the scan had stopped at that seam. -/
theorem Explains.stopsAtSeam (erases : rule.Erases) (goesOn : rule.mode ≠ .firstMatch)
    (explains : rule.Explains text regions emendation)
    {found : Match emendation.text.toList.toArray 0} {stop : Nat}
    (searched : rule.pattern.find? emendation.text.toList.toArray 0 = some found)
    (ends : rule.stop? found = some stop) (above : rule.behindSeam regions ≤ found.start) :
    rule.StopsAtSeam text regions := by
  have all : rule.Explains text (regions ++ []) emendation := by rwa [List.append_nil]
  have same (position : Nat) (behind : rule.behindSeam regions ≤ position) :=
    all.sameAround erases behind nofun
  have reached := all.searchBehind_le erases above
  have finished := explains.finished
  generalize emendation.unterminated = count at finished
  cases finished with
  | satisfied mode => exact absurd mode goesOn
  | exhausted _ missing =>
    have accepts := Pattern.Program.accepts_of_find? searched fun position here _ =>
      same position (Nat.le_trans above here)
    have inLeft := Nat.le_trans found.start_le found.stop_le
    have size_eq := (same _ (Nat.le_trans above inLeft)).stop.mpr rfl
    have inText : found.start + rule.lost regions ≤ text.size :=
      size_eq ▸ Nat.add_le_add_right inLeft _
    rcases missing with beyond | missing
    · exact absurd (Nat.le_trans reached inText) (Nat.not_le_of_lt beyond)
    · exact absurd accepts (Pattern.Program.find?_eq_none_iff.mp missing _ reached inText)
  | unterminated _ other searched' terminator terminated missing =>
    have ended := stop?_eq_none_iff.mpr ⟨terminator, terminated, missing⟩
    by_cases atSeam : regions ≠ [] ∧ other.start = Region.stopBehind 0 regions
    · exact ⟨atSeam.1, other, searched', ended, atSeam.2⟩
    · -- The match without a terminator lies behind the seam, so it is the one found again.
      have above' : rule.behindSeam regions + rule.lost regions ≤ other.start := by
        have lower_le := other.lower_le
        have moved := all.seam_add_lost erases
        rcases rule.behindSeam_cases regions with ⟨none, behind⟩ | ⟨some, behind⟩
        · cases none
          exact Nat.zero_le _
        · have elsewhere := not_and.mp atSeam some
          rcases searchBehind_cases regions with same | same <;> omega
      have start_eq := Pattern.Program.start_eq_of_same same searched searched' above above'
        (Nat.zero_le _) reached
      have stop_eq := Pattern.Program.stop_eq_of_same same searched searched' above start_eq
      rw [stop_eq] at missing
      have further := Nat.le_trans above found.start_le
      have missing' := Pattern.Program.find?_eq_none_of_same
        (fun position behind => same position (Nat.le_trans further behind)) missing
      cases (stop?_eq_none_iff.mpr ⟨terminator, terminated, missing'⟩).symm.trans ends

/-- What a rule finds again touches a seam, unless the scan had stopped at one. -/
theorem Explains.touches_or_stopsAtSeam (erases : rule.Erases) (goesOn : rule.mode ≠ .firstMatch)
    (explains : rule.Explains text regions emendation)
    {found : Match emendation.text.toList.toArray 0} {stop : Nat}
    (searched : rule.pattern.find? emendation.text.toList.toArray 0 = some found)
    (ends : rule.stop? found = some stop) :
    rule.Touches regions found ∨ rule.StopsAtSeam text regions := by
  by_cases touches : rule.Touches regions found
  · exact .inl touches
  · obtain ⟨front, back, rfl, above, below⟩ := exists_between touches
    cases back with
    | nil =>
      rw [List.append_nil] at explains ⊢
      exact .inr (explains.stopsAtSeam erases goesOn searched ends above)
    | cons next rest =>
      exact absurd searched (explains.not_found_between erases above (below next rest rfl))

/-! ## A second application -/

/-- **Erasing once more.** A rule that erases regions does nothing to what it has left, unless the
first match there, with its terminator behind it, touches a seam, or the first application stopped
right behind a region at a match without a terminator. In these cases it erases something again. -/
theorem erasing_again_needs_a_seam {limit : Nat} {spec : RuleSpec} {rule : Rule}
    (mode : spec.mode = .eraseRegion) (compiles : compile limit spec = .ok rule)
    (buffer : String) :
    ∃ regions, rule.Explains buffer.toList.toArray regions (rule.emend buffer) ∧
      (¬ rule.Reopens buffer.toList.toArray regions (rule.emend buffer).text.toList.toArray →
        (rule.emend (rule.emend buffer).text).matchCount = 0 ∧
          (rule.emend (rule.emend buffer).text).text = (rule.emend buffer).text) ∧
      (rule.Reopens buffer.toList.toArray regions (rule.emend buffer).text.toList.toArray →
        0 < (rule.emend (rule.emend buffer).text).matchCount) := by
  have erases := erases_of_compile mode compiles
  have goesOn : rule.mode ≠ .firstMatch := by
    rw [(compile_eq_ok_iff.mp compiles).mode_eq, mode]
    nofun
  obtain ⟨regions, explains⟩ := rule.exists_explains_emend buffer
  refine ⟨regions, explains, fun closed => ?_, ?_⟩
  · have nothing : (rule.emend (rule.emend buffer).text).matchCount = 0 := by
      apply Nat.eq_zero_of_not_pos
      intro some
      obtain ⟨⟨lower, found, stop⟩, finds⟩ := matchCount_emend_pos_iff.mp some
      obtain rfl : lower = 0 := finds.lower_eq
      have ends := stop?_eq_some_iff.mpr finds.ends
      have reopens := explains.touches_or_stopsAtSeam erases goesOn finds.searched ends
      exact closed ⟨found, stop, finds.searched, ends, reopens⟩
    exact ⟨nothing, text_emend_of_matchCount_eq_zero nothing⟩
  · rintro ⟨found, stop, searched, ends, -⟩
    have finds : rule.Finds [] ⟨0, found, stop⟩ :=
      ⟨fun _ => rfl, rfl, searched, stop?_eq_some_iff.mp ends⟩
    exact matchCount_emend_pos_iff.mpr ⟨_, finds⟩

def comments : RuleSpec := .eraseRegion "comments" "//.*?\n"

def commented : String := "a // x\nb // y\nc"

theorem erasing_again_needs_a_seam_comments :
    ∃ rule, comments.mode = .eraseRegion ∧
      compile Pattern.defaultWeightLimit comments = .ok rule ∧
      ∃ regions, rule.Explains commented.toList.toArray regions (rule.emend commented) ∧
        ¬ rule.Reopens commented.toList.toArray regions
          (rule.emend commented).text.toList.toArray ∧
        (rule.emend (rule.emend commented).text).matchCount = 0 ∧
        (rule.emend (rule.emend commented).text).text = (rule.emend commented).text := by
  have checked : (compile Pattern.defaultWeightLimit comments).toOption.any
      (fun rule => (rule.emend (rule.emend commented).text).matchCount = 0) = true := by
    decide +kernel
  simp only [Option.any_eq_true, decide_eq_true_eq] at checked
  obtain ⟨rule, compiled, nothing⟩ := checked
  have compiles := eq_ok_of_toOption compiled
  obtain ⟨regions, explains, still, again⟩ := erasing_again_needs_a_seam rfl compiles commented
  have closed : ¬ rule.Reopens commented.toList.toArray regions
      (rule.emend commented).text.toList.toArray :=
    fun reopens => Nat.ne_of_gt (again reopens) nothing
  exact ⟨rule, rfl, compiles, regions, explains, closed, still closed⟩

/-- What was around an erased region can be a region again. -/
theorem exists_erased_again :
    ∃ rule, compile Pattern.defaultWeightLimit (.eraseRegion "pairs" "ab") = .ok rule ∧
      rule.emend "aabb" = ⟨"ab", 1, 0⟩ ∧ rule.emend "ab" = ⟨"", 1, 0⟩ := by
  have checked : (compile Pattern.defaultWeightLimit (.eraseRegion "pairs" "ab")).toOption.any
      (fun rule => rule.emend "aabb" = ⟨"ab", 1, 0⟩ && rule.emend "ab" = ⟨"", 1, 0⟩) = true := by
    decide +kernel
  simp only [Option.any_eq_true, Bool.and_eq_true, decide_eq_true_eq] at checked
  obtain ⟨rule, compiles, erased⟩ := checked
  exact ⟨rule, eq_ok_of_toOption compiles, erased⟩

-- The first application stops at the semicolon that begins a line only as long as the line break
-- in front of it is not erased.
example : (compile Pattern.defaultWeightLimit
    ((RuleSpec.eraseRegion "" "[(]|^;.*").withTerminator ";")).toOption.any
      (fun rule => rule.emend "a(\n;(b;" = ⟨"a;(b;", 1, 1⟩ &&
        rule.emend "a;(b;" = ⟨"a;;", 1, 0⟩) = true := by
  decide +kernel

end Rule

end Emend
