import Emend.Proofs.Checks
import Emend.Pattern.Basic
import Mathlib.Data.Finset.Prod
import Mathlib.Data.Set.Insert

/-!
# What a search finds

A point is an address at a position. An instruction leads from a point to further ones, and some
points lead to acceptance in the end; where a search began does not matter to that. A search never
enters a point twice, so it has to be shown that nothing is lost: the points visited by an attempt
that failed are closed under going on, and none of them accepts. A search therefore finds a match
exactly if the start of the program accepts from a position at or after the one where it begins.
-/

namespace Emend

namespace Pattern

abbrev Point := Address × Nat

/-- Where an instruction leads from a position, in order of preference. -/
def Inst.ways (text : Text) (position : Nat) : Inst → List Point
  | .accept => []
  | .char c next => if text[position]? = some c then [(next, position + 1)] else []
  | .set members next =>
    if text[position]?.any members.contains then [(next, position + 1)] else []
  | .look which next => if which.holds text position then [(next, position)] else []
  | .save _ next => [(next, position)]
  | .fork first second => [(first, position), (second, position)]

/-- A point leads to acceptance. -/
inductive Program.Accepts (program : Program) (text : Text) : Point → Prop where
  | here {point : Point} (inst_eq : program.code[point.1]? = some .accept) :
      Accepts program text point
  | onward {point way : Point} {inst : Inst} (inst_eq : program.code[point.1]? = some inst)
      (leads : way ∈ inst.ways text point.2) (accepts : Accepts program text way) :
      Accepts program text point

/-! ## Steps of a thread -/

namespace Thread

variable {text : Text} {origin : Nat}

def point (thread : Thread text origin) : Point := (thread.address, thread.position)

theorem map_point_read (thread : Thread text origin) (test : Char → Bool) (next : Address) :
    (thread.read test next).map point =
      if text[thread.position]?.any test then [(next, thread.position + 1)] else [] := by
  unfold read
  by_cases inside : thread.position < text.size
  · rw [dif_pos inside, Array.getElem?_eq_getElem inside, Option.any_some]
    split <;> rfl
  · rw [dif_neg inside, Array.getElem?_eq_none (Nat.le_of_not_lt inside), Option.any_none]
    rfl

theorem map_point_step (thread : Thread text origin) (inst : Inst) :
    (thread.step inst).map point = inst.ways text thread.position := by
  cases inst with
  | accept => rfl
  | char c next =>
    have reads := thread.map_point_read (· = c) next
    unfold step Inst.ways
    rw [reads]
    cases text[thread.position]? with
    | none => rfl
    | some d => simp only [Option.any_some, decide_eq_true_eq, Option.some.injEq]
  | set members next => exact thread.map_point_read members.contains next
  | look which next =>
    simp only [step, Inst.ways]
    split <;> rfl
  | save slot next => rfl
  | fork first second => rfl

theorem length_step_le (thread : Thread text origin) (inst : Inst) :
    (thread.step inst).length ≤ 2 := by
  cases inst <;> simp only [step, read] <;> grind

end Thread

/-! ## Visited points -/

namespace Visited

variable {visited : Visited} {address position : Nat}

theorem getD_masks_insert (visited : Visited) (address position index : Nat) :
    (visited.insert address position).masks.getD index 0 =
      if index = position - visited.base then visited.masks.getD index 0 ||| 1 <<< address
      else visited.masks.getD index 0 := by
  unfold insert
  dsimp only
  split
  · rename_i inside
    simp only [Array.getD_eq_getD_getElem?, Array.getElem?_modify]
    grind
  · rename_i beyond
    simp only [Array.getD_eq_getD_getElem?]
    grind

theorem base_insert (visited : Visited) (address position : Nat) :
    (visited.insert address position).base = visited.base := by
  unfold insert
  dsimp only
  split <;> rfl

theorem contains_insert (visited : Visited) (address position other offset : Nat) :
    (visited.insert address position).contains other offset =
      (visited.contains other offset ||
        (address = other && offset - visited.base = position - visited.base)) := by
  unfold contains
  rw [base_insert, getD_masks_insert]
  split
  · rename_i same
    rw [Nat.testBit_or, Nat.one_shiftLeft, Nat.testBit_two_pow]
    simp [same]
  · rename_i different
    simp [different]

def points (visited : Visited) : Set Point :=
  {point | visited.base ≤ point.2 ∧ visited.contains point.1 point.2}

instance (visited : Visited) : DecidablePred (· ∈ visited.points) :=
  fun point => inferInstanceAs (Decidable (visited.base ≤ point.2 ∧ visited.contains point.1 point.2))

@[simp] theorem points_none (base : Nat) : (Visited.none base).points = ∅ := by
  ext point
  simp [points, Visited.none, contains]

theorem points_insert (above : visited.base ≤ position) :
    (visited.insert address position).points =
      Insert.insert (address, position) visited.points := by
  ext ⟨other, offset⟩
  change (visited.insert address position).base ≤ offset ∧ _ ↔
    (other, offset) = (address, position) ∨ (visited.base ≤ offset ∧ _)
  rw [base_insert, contains_insert, Prod.mk.injEq]
  simp only [Bool.or_eq_true, Bool.and_eq_true, decide_eq_true_eq]
  grind

end Visited

/-! ## Attempts -/

section Attempts

variable {program : Program} {text : Text} {origin fuel : Nat} {visited last : Visited}

/-- No visited point accepts, and each leads to points that are visited or wait. -/
structure Fruitless (program : Program) (text : Text) (visited : Visited) (waiting : List Point) :
    Prop where
  refuses : ∀ point ∈ visited.points, program.code[point.1]? ≠ some .accept
  closed : ∀ point ∈ visited.points, ∀ inst, program.code[point.1]? = some inst →
    ∀ way ∈ inst.ways text point.2, way ∈ visited.points ∨ way ∈ waiting

/-- Once nothing waits, no visited point leads to acceptance. -/
theorem Fruitless.not_accepts (fruitless : Fruitless program text visited []) {point : Point}
    (member : point ∈ visited.points) : ¬ program.Accepts text point := by
  intro accepts
  induction accepts with
  | here inst_eq => exact fruitless.refuses _ member inst_eq
  | onward inst_eq leads _ ih =>
    rcases fruitless.closed _ member _ inst_eq _ leads with inside | waits
    · exact ih inside
    · cases waits

/-- Entering a point that does not accept leaves the points waiting that it leads to. -/
theorem Fruitless.enter {point : Point} {waiting : List Point}
    (fruitless : Fruitless program text visited (point :: waiting)) (ways : List Point)
    (above : visited.base ≤ point.2) (refuses : program.code[point.1]? ≠ some .accept)
    (leads : ∀ inst, program.code[point.1]? = some inst → inst.ways text point.2 = ways) :
    Fruitless program text (visited.insert point.1 point.2) (ways ++ waiting) := by
  have points_eq : (visited.insert point.1 point.2).points = insert point visited.points :=
    Visited.points_insert above
  constructor
  · rw [points_eq]
    rintro other (rfl | member)
    · exact refuses
    · exact fruitless.refuses other member
  · rw [points_eq]
    rintro other (rfl | member) inst inst_eq way leads'
    · rw [leads inst inst_eq] at leads'
      exact .inr (List.mem_append_left _ leads')
    · rcases fruitless.closed other member inst inst_eq way leads' with inside | waits
      · exact .inl (.inr inside)
      · rcases List.mem_cons.mp waits with rfl | waits
        · exact .inl (.inl rfl)
        · exact .inr (List.mem_append_right _ waits)

/-- A point outside the code leads nowhere. -/
theorem Fruitless.enter_outside {point : Point} {waiting : List Point}
    (fruitless : Fruitless program text visited (point :: waiting))
    (above : visited.base ≤ point.2) (missing : program.code[point.1]? = none) :
    Fruitless program text (visited.insert point.1 point.2) waiting := by
  have refuses : program.code[point.1]? ≠ some .accept := by simp [missing]
  exact fruitless.enter [] above refuses fun _ inst_eq => nomatch missing.symm.trans inst_eq

/-- A point leads on by its instruction. -/
theorem Fruitless.enter_inst {point : Point} {waiting : List Point} {inst : Inst}
    (fruitless : Fruitless program text visited (point :: waiting))
    (above : visited.base ≤ point.2) (inst_eq : program.code[point.1]? = some inst)
    (refuses : inst ≠ .accept) :
    Fruitless program text (visited.insert point.1 point.2)
      (inst.ways text point.2 ++ waiting) := by
  refine fruitless.enter _ above ?_ ?_
  · rw [inst_eq]
    exact fun same => refuses (Option.some.inj same)
  · intro other same
    cases inst_eq.symm.trans same
    rfl

/-- A point that is visited already need not wait. -/
theorem Fruitless.skip {point : Point} {waiting : List Point}
    (fruitless : Fruitless program text visited (point :: waiting))
    (member : point ∈ visited.points) : Fruitless program text visited waiting := by
  refine ⟨fruitless.refuses, ?_⟩
  intro other member' inst inst_eq way leads
  rcases fruitless.closed other member' inst inst_eq way leads with inside | waits
  · exact .inl inside
  · rcases List.mem_cons.mp waits with rfl | waits
    · exact .inl member
    · exact .inr waits

theorem Fruitless.wait (fruitless : Fruitless program text visited []) (waiting : List Point) :
    Fruitless program text visited waiting :=
  ⟨fruitless.refuses, fun point member inst inst_eq way leads =>
    (fruitless.closed point member inst inst_eq way leads).imp_right (nomatch ·)⟩

def unvisited (program : Program) (text : Text) (visited : Visited) : Finset Point :=
  (Finset.range program.code.size ×ˢ Finset.range (text.size + 1)).filter (· ∉ visited.points)

theorem card_unvisited_le (program : Program) (text : Text) (visited : Visited) :
    (unvisited program text visited).card ≤ program.code.size * (text.size + 1) := by
  refine Nat.le_trans (Finset.card_filter_le _ _) ?_
  rw [Finset.card_product, Finset.card_range, Finset.card_range]

theorem unvisited_insert_subset {point : Point} (above : visited.base ≤ point.2) :
    unvisited program text (visited.insert point.1 point.2) ⊆ unvisited program text visited := by
  intro other member
  obtain ⟨inside, fresh⟩ := Finset.mem_filter.mp member
  rw [Visited.points_insert above] at fresh
  exact Finset.mem_filter.mpr ⟨inside, fun entered => fresh (.inr entered)⟩

/-- One point less is left when a point is entered for the first time. -/
theorem card_unvisited_insert_lt {point : Point} (above : visited.base ≤ point.2)
    (inCode : point.1 < program.code.size) (inText : point.2 ≤ text.size)
    (fresh : point ∉ visited.points) :
    (unvisited program text (visited.insert point.1 point.2)).card <
      (unvisited program text visited).card := by
  refine Finset.card_lt_card ?_
  refine (Finset.ssubset_iff_of_subset (unvisited_insert_subset above)).mpr ⟨point, ?_, ?_⟩
  · have inside : point ∈ Finset.range program.code.size ×ˢ Finset.range (text.size + 1) :=
      Finset.mem_product.mpr
        ⟨Finset.mem_range.mpr inCode, Finset.mem_range.mpr (Nat.lt_succ_of_le inText)⟩
    exact Finset.mem_filter.mpr ⟨inside, fresh⟩
  · intro member
    have fresh' := (Finset.mem_filter.mp member).2
    rw [Visited.points_insert above] at fresh'
    exact fresh' (.inl rfl)

/-- What an attempt that fails has visited. -/
structure Exhausted (program : Program) (text : Text) (visited last : Visited)
    (waiting : List Point) : Prop where
  fruitless : Fruitless program text last []
  base_eq : last.base = visited.base
  kept : visited.points ⊆ last.points
  entered : ∀ point ∈ waiting, point ∈ last.points

/-- An attempt has visited a point once it has visited what came of it. -/
theorem Exhausted.cons {point : Point} {waiting : List Point}
    (exhausted : Exhausted program text visited last waiting) (member : point ∈ last.points) :
    Exhausted program text visited last (point :: waiting) :=
  { exhausted with entered := List.forall_mem_cons.mpr ⟨member, exhausted.entered⟩ }

/-- An attempt that enters a point has visited it. -/
theorem Exhausted.enter {point : Point} {waiting : List Point} (ways : List Point)
    (exhausted : Exhausted program text (visited.insert point.1 point.2) last (ways ++ waiting))
    (above : visited.base ≤ point.2) : Exhausted program text visited last (point :: waiting) := by
  have points_eq : (visited.insert point.1 point.2).points = insert point visited.points :=
    Visited.points_insert above
  have kept := exhausted.kept
  rw [points_eq] at kept
  refine ⟨exhausted.fruitless, exhausted.base_eq.trans (visited.base_insert _ _),
    fun other member => kept (.inr member), List.forall_mem_cons.mpr ⟨kept (.inl rfl), ?_⟩⟩
  exact fun other member => exhausted.entered other (List.mem_append_right _ member)

/-- An attempt that is found to accept began at a point that leads to acceptance. -/
theorem exists_accepts_of_explore {waiting : List (Thread text origin)}
    {thread : Thread text origin} (found : explore program fuel waiting visited = .found thread) :
    ∃ first ∈ waiting, program.Accepts text first.point := by
  induction fuel generalizing waiting visited with
  | zero => cases found
  | succ fuel ih =>
    cases waiting with
    | nil => cases found
    | cons head rest =>
      rw [explore] at found
      split at found
      · obtain ⟨first, member, accepts⟩ := ih found
        exact ⟨first, List.mem_cons_of_mem _ member, accepts⟩
      · split at found
        · obtain ⟨first, member, accepts⟩ := ih found
          exact ⟨first, List.mem_cons_of_mem _ member, accepts⟩
        · rename_i inst_eq
          exact ⟨head, List.mem_cons_self, .here inst_eq⟩
        · rename_i inst _ inst_eq
          obtain ⟨first, member, accepts⟩ := ih found
          rcases List.mem_append.mp member with stepped | waits
          · have leads : first.point ∈ inst.ways text head.position := by
              rw [← head.map_point_step]
              exact List.mem_map_of_mem stepped
            exact ⟨head, List.mem_cons_self, .onward inst_eq leads accepts⟩
          · exact ⟨first, List.mem_cons_of_mem _ waits, accepts⟩

/-- An attempt that fails within its fuel has visited all that waited. -/
theorem exhausted_of_explore {waiting : List (Thread text origin)}
    (fruitless : Fruitless program text visited (waiting.map Thread.point))
    (above : visited.base ≤ origin)
    (enough : waiting.length + 2 * (unvisited program text visited).card ≤ fuel)
    (failed : explore program fuel waiting visited = .failed last) :
    Exhausted program text visited last (waiting.map Thread.point) := by
  induction fuel generalizing waiting visited with
  | zero =>
    cases failed
    cases List.length_eq_zero_iff.mp (Nat.eq_zero_of_le_zero (Nat.le_of_add_right_le enough))
    exact ⟨fruitless, rfl, .rfl, fun _ member => nomatch member⟩
  | succ fuel ih =>
    cases waiting with
    | nil =>
      cases failed
      exact ⟨fruitless, rfl, .rfl, fun _ member => nomatch member⟩
    | cons head rest =>
      rw [explore] at failed
      rw [List.map_cons] at fruitless ⊢
      rw [List.length_cons] at enough
      have reached : visited.base ≤ head.position := Nat.le_trans above head.origin_le
      split at failed
      · rename_i entered
        have member : head.point ∈ visited.points := ⟨reached, entered⟩
        have exhausted := ih (fruitless.skip member) above (by omega) failed
        exact exhausted.cons (exhausted.kept member)
      · rename_i fresh
        have fresh : head.point ∉ visited.points := fun member => fresh member.2
        have above' : (visited.insert head.address head.position).base ≤ origin :=
          (visited.base_insert _ _).trans_le above
        split at failed
        · rename_i missing
          have entered := fruitless.enter_outside reached missing
          have fewer : (unvisited program text (visited.insert head.point.1 head.point.2)).card ≤ _ :=
            Finset.card_le_card (unvisited_insert_subset reached)
          exact (ih entered above' (by omega) failed).enter [] reached
        · cases failed
        · rename_i inst refuses inst_eq
          have entered := fruitless.enter_inst reached inst_eq refuses
          have point_eq : inst.ways text head.point.2 = (head.step inst).map Thread.point :=
            (head.map_point_step inst).symm
          have inCode := (Array.getElem?_eq_some_iff.mp inst_eq).1
          have fewer : (unvisited program text (visited.insert head.point.1 head.point.2)).card < _ :=
            card_unvisited_insert_lt reached inCode head.le_size fresh
          have two := head.length_step_le inst
          rw [point_eq, ← List.map_append] at entered
          have exhausted := ih entered above' (by rw [List.length_append]; omega) failed
          rw [List.map_append] at exhausted
          exact exhausted.enter _ reached

end Attempts

/-! ## Searches -/

namespace Program

variable {program : Program} {text : Text} {lower : Nat}

theorem exhausted_of_explore_thread {origin : Nat} {visited last : Visited}
    (fruitless : Fruitless program text visited []) (above : visited.base ≤ origin)
    (inside : origin ≤ text.size)
    (failed : explore program (program.fuel text) [program.thread text origin inside] visited =
      .failed last) : Exhausted program text visited last [(program.start, origin)] := by
  have bound := card_unvisited_le program text visited
  refine exhausted_of_explore (fruitless.wait _) above ?_ failed
  unfold fuel
  rw [List.length_singleton, Nat.mul_assoc]
  omega

theorem not_accepts_of_seek {more origin : Nat} {visited : Visited} {above : lower ≤ origin}
    {inside : origin + more = text.size} (fruitless : Fruitless program text visited [])
    (base_le : visited.base ≤ origin)
    (missing : program.seek text lower visited more origin above inside = none)
    (position : Nat) (reached : origin ≤ position) (within : position ≤ text.size) :
    ¬ program.Accepts text (program.start, position) := by
  induction more generalizing origin visited with
  | zero =>
    rw [seek] at missing
    dsimp only at missing
    split at missing
    · cases missing
    · rename_i last failed
      have exhausted := exhausted_of_explore_thread fruitless base_le _ failed
      cases Nat.le_antisymm reached (inside.trans_ge within)
      exact exhausted.fruitless.not_accepts (exhausted.entered _ List.mem_cons_self)
  | succ more ih =>
    rw [seek] at missing
    dsimp only at missing
    split at missing
    · cases missing
    · rename_i last failed
      have exhausted := exhausted_of_explore_thread fruitless base_le _ failed
      rcases Nat.eq_or_lt_of_le reached with rfl | further
      · exact exhausted.fruitless.not_accepts (exhausted.entered _ List.mem_cons_self)
      · have base_le' := exhausted.base_eq.trans_le (Nat.le_succ_of_le base_le)
        exact ih exhausted.fruitless base_le' missing further

/-- How a search from a position comes to a match: nothing accepts in front of it, and the attempt
where it starts succeeds. -/
structure Attempted (program : Program) (origin : Nat) (found : Match text lower) : Prop where
  leftmost : ∀ position, origin ≤ position → position < found.start →
    ¬ program.Accepts text (program.start, position)
  attempt : ∃ (visited : Visited) (inside : found.start ≤ text.size)
    (thread : Thread text found.start), Fruitless program text visited [] ∧
      visited.base ≤ found.start ∧ found.stop = thread.position ∧
      explore program (program.fuel text) [program.thread text found.start inside] visited =
        .found thread

theorem attempted_of_seek {more origin : Nat} {visited : Visited} {above : lower ≤ origin}
    {inside : origin + more = text.size} {found : Match text lower}
    (fruitless : Fruitless program text visited []) (base_le : visited.base ≤ origin)
    (searched : program.seek text lower visited more origin above inside = some found) :
    program.Attempted origin found := by
  induction more generalizing origin visited with
  | zero =>
    rw [seek] at searched
    dsimp only at searched
    split at searched
    · rename_i thread attempted
      cases searched
      exact ⟨fun _ here before => absurd here (Nat.not_le_of_lt before),
        _, _, thread, fruitless, base_le, rfl, attempted⟩
    · cases searched
  | succ more ih =>
    rw [seek] at searched
    dsimp only at searched
    split at searched
    · rename_i thread attempted
      cases searched
      exact ⟨fun _ here before => absurd here (Nat.not_le_of_lt before),
        _, _, thread, fruitless, base_le, rfl, attempted⟩
    · rename_i last failed
      have exhausted := exhausted_of_explore_thread fruitless base_le _ failed
      have behind := ih exhausted.fruitless
        (exhausted.base_eq.trans_le (Nat.le_succ_of_le base_le)) searched
      refine ⟨?_, behind.attempt⟩
      intro position reached before
      rcases Nat.eq_or_lt_of_le reached with rfl | further
      · exact exhausted.fruitless.not_accepts (exhausted.entered _ List.mem_cons_self)
      · exact behind.leftmost position further before

theorem fruitless_none (program : Program) (text : Text) (base : Nat) :
    Fruitless program text (Visited.none base) [] := by
  constructor <;> simp

theorem attempted_of_find? {found : Match text lower}
    (searched : program.find? text lower = some found) : program.Attempted lower found := by
  unfold find? at searched
  split at searched
  · exact attempted_of_seek (fruitless_none program text lower) (Nat.le_refl _) searched
  · cases searched

/-- A search that finds a match does so where the start of the program accepts. -/
theorem Attempted.accepts {origin : Nat} {found : Match text lower}
    (attempted : program.Attempted origin found) :
    program.Accepts text (program.start, found.start) := by
  obtain ⟨_, _, _, _, _, _, explored⟩ := attempted.attempt
  obtain ⟨first, member, accepts⟩ := exists_accepts_of_explore explored
  cases List.mem_singleton.mp member
  exact accepts

/-- **A search misses nothing.** It finds no match exactly if the start of the program does not
accept from any position of the text at or after the one where the search begins. -/
theorem find?_eq_none_iff {program : Program} {text : Text} {lower : Nat} :
    program.find? text lower = none ↔
      ∀ position, lower ≤ position → position ≤ text.size →
        ¬ program.Accepts text (program.start, position) := by
  constructor
  · intro missing
    unfold find? at missing
    split at missing
    · exact not_accepts_of_seek (fruitless_none program text lower) (Nat.le_refl _) missing
    · rename_i beyond
      intro position above within
      exact absurd (Nat.le_trans above within) beyond
  · intro never
    refine Option.eq_none_iff_forall_ne_some.mpr ?_
    intro found searched
    have inText := Nat.le_trans found.start_le found.stop_le
    exact never found.start found.lower_le inText (attempted_of_find? searched).accepts

end Program

end Pattern

theorem Pattern.find?_eq_none_mono {pattern : Pattern} {text : Pattern.Text} {first second : Nat}
    (missing : pattern.find? text first = none) (further : first ≤ second) :
    pattern.find? text second = none := by
  refine Program.find?_eq_none_iff.mpr ?_
  intro position above
  exact Program.find?_eq_none_iff.mp missing position (Nat.le_trans further above)

end Emend
