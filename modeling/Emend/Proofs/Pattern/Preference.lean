import Emend.Proofs.Pattern.Search
import Mathlib.Logic.Relation

/-!
# The match that is preferred

Of the ways that lead to acceptance from a place a search takes the first one in the order of the
program. Points that lead nowhere make no difference to that, whether a search has visited them
before or not. So where a match ends is settled by the place where it starts, and not by where the
search for it began.
-/

namespace Emend

namespace Pattern.Program

variable {program : Program} {text : Text} {point last : Point} {waiting : List Point}
  {entered : Set Point}

/-! ## Paths -/

def Step (program : Program) (text : Text) (point way : Point) : Prop :=
  ∃ inst, program.code[point.1]? = some inst ∧ way ∈ inst.ways text point.2

/-- Instructions lead from one point to another one where the program accepts. -/
def Path (program : Program) (text : Text) (point last : Point) : Prop :=
  Relation.ReflTransGen (program.Step text) point last ∧ program.code[last.1]? = some .accept

theorem Path.accepts (path : program.Path text point last) : program.Accepts text point := by
  obtain ⟨steps, inst_eq⟩ := path
  induction steps using Relation.ReflTransGen.head_induction_on with
  | refl => exact .here inst_eq
  | head step _ ih =>
    obtain ⟨inst, inst_eq, leads⟩ := step
    exact .onward inst_eq leads ih

theorem Path.head {way : Point} (step : program.Step text point way)
    (path : program.Path text way last) : program.Path text point last :=
  ⟨.head step path.1, path.2⟩

theorem Step.le (step : program.Step text point last) : point.2 ≤ last.2 := by
  obtain ⟨inst, -, leads⟩ := step
  cases inst <;> simp only [Inst.ways] at leads <;> grind

/-! ## Preference -/

/-- Where a search accepts that has points to try, in order, and has entered others. It passes over
a point that it has entered, and over one that leads nowhere. -/
inductive Picks (program : Program) (text : Text) :
    (waiting : List Point) → (entered : Set Point) → (last : Point) → Prop where
  | pass {point last : Point} {waiting : List Point} {entered : Set Point}
      (vain : program.Accepts text point → point ∈ entered)
      (later : Picks program text waiting entered last) :
      Picks program text (point :: waiting) entered last
  | here {point : Point} {waiting : List Point} {entered : Set Point} (fresh : point ∉ entered)
      (inst_eq : program.code[point.1]? = some .accept) :
      Picks program text (point :: waiting) entered point
  | onward {point last : Point} {waiting : List Point} {entered : Set Point} {inst : Inst}
      (fresh : point ∉ entered) (accepts : program.Accepts text point)
      (inst_eq : program.code[point.1]? = some inst) (goesOn : inst ≠ .accept)
      (later : Picks program text (inst.ways text point.2 ++ waiting) (insert point entered) last) :
      Picks program text (point :: waiting) entered last

namespace Picks

/-- Points that lead nowhere need not be tried. -/
theorem of_append_vain {ways : List Point} (vain : ∀ way ∈ ways, ¬ program.Accepts text way)
    (picks : program.Picks text (ways ++ waiting) entered last) :
    program.Picks text waiting entered last := by
  induction ways with
  | nil => exact picks
  | cons way ways ih =>
    obtain ⟨nowhere, others⟩ := List.forall_mem_cons.mp vain
    cases picks with
    | pass _ later => exact ih others later
    | here _ inst_eq => exact absurd (.here inst_eq) nowhere
    | onward _ accepts => exact absurd accepts nowhere

/-- What is accepted is reached from one of the points to try. -/
theorem exists_path (picks : program.Picks text waiting entered last) :
    ∃ first ∈ waiting, program.Path text first last := by
  induction picks with
  | pass _ _ ih =>
    obtain ⟨first, member, path⟩ := ih
    exact ⟨first, List.mem_cons_of_mem _ member, path⟩
  | here _ inst_eq => exact ⟨_, List.mem_cons_self, .refl, inst_eq⟩
  | onward _ _ inst_eq _ _ ih =>
    obtain ⟨first, member, path⟩ := ih
    rcases List.mem_append.mp member with leads | waits
    · exact ⟨_, List.mem_cons_self, path.head ⟨_, inst_eq, leads⟩⟩
    · exact ⟨first, List.mem_cons_of_mem _ waits, path⟩

/-- Where a search accepts is settled by the points to try and by those entered that lead to
acceptance. -/
theorem unique {entered' : Set Point} {last' : Point}
    (picks : program.Picks text waiting entered last)
    (picks' : program.Picks text waiting entered' last')
    (alike : ∀ point, program.Accepts text point → (point ∈ entered ↔ point ∈ entered')) :
    last = last' := by
  induction picks generalizing entered' with
  | pass vain _ ih =>
    cases picks' with
    | pass _ later => exact ih later alike
    | here fresh inst_eq =>
      have accepts : program.Accepts text _ := .here inst_eq
      exact absurd ((alike _ accepts).mp (vain accepts)) fresh
    | onward fresh accepts => exact absurd ((alike _ accepts).mp (vain accepts)) fresh
  | here fresh inst_eq =>
    cases picks' with
    | pass vain =>
      have accepts : program.Accepts text _ := .here inst_eq
      exact absurd ((alike _ accepts).mpr (vain accepts)) fresh
    | here => rfl
    | onward _ _ inst_eq' goesOn =>
      cases inst_eq.symm.trans inst_eq'
      exact absurd rfl goesOn
  | onward fresh accepts inst_eq goesOn _ ih =>
    cases picks' with
    | pass vain => exact absurd ((alike _ accepts).mpr (vain accepts)) fresh
    | here _ inst_eq' =>
      cases inst_eq.symm.trans inst_eq'
      exact absurd rfl goesOn
    | onward _ _ inst_eq' _ later =>
      cases inst_eq.symm.trans inst_eq'
      refine ih later fun point accepts => ?_
      simp only [Set.mem_insert_iff, alike point accepts]

end Picks

/-! ## Attempts -/

/-- An attempt that succeeds does so where a search accepts that has entered the same points, as far
as they lead to acceptance. -/
theorem picks_of_explore {origin fuel : Nat} {waiting : List (Thread text origin)}
    {visited : Visited} {thread : Thread text origin} (above : visited.base ≤ origin)
    (alike : ∀ point, program.Accepts text point → (point ∈ visited.points ↔ point ∈ entered))
    (found : explore program fuel waiting visited = .found thread) :
    program.Picks text (waiting.map Thread.point) entered thread.point := by
  induction fuel generalizing waiting visited entered with
  | zero => cases found
  | succ fuel ih =>
    cases waiting with
    | nil => cases found
    | cons head rest =>
      rw [explore] at found
      rw [List.map_cons]
      have reached : visited.base ≤ head.position := Nat.le_trans above head.origin_le
      have above' : (visited.insert head.address head.position).base ≤ origin :=
        (visited.base_insert _ _).trans_le above
      have points_eq : (visited.insert head.address head.position).points =
          insert head.point visited.points := Visited.points_insert reached
      -- A point that leads nowhere is entered here, and need not be there.
      have alike_of_vain (vain : ¬ program.Accepts text head.point) (point : Point)
          (accepts : program.Accepts text point) :
          point ∈ (visited.insert head.address head.position).points ↔ point ∈ entered := by
        rw [points_eq, Set.mem_insert_iff, alike point accepts]
        refine or_iff_right ?_
        rintro rfl
        exact vain accepts
      split at found
      · rename_i before
        exact .pass (fun accepts => (alike _ accepts).mp ⟨reached, before⟩) (ih above alike found)
      · rename_i unseen
        have fresh (accepts : program.Accepts text head.point) : head.point ∉ entered :=
          fun member => unseen ((alike _ accepts).mpr member).2
        split at found
        · rename_i missing
          have vain : ¬ program.Accepts text head.point := by
            intro accepts
            cases accepts with
            | here inst_eq => cases missing.symm.trans inst_eq
            | onward inst_eq => cases missing.symm.trans inst_eq
          exact .pass (fun accepts => absurd accepts vain) (ih above' (alike_of_vain vain) found)
        · rename_i inst_eq
          cases found
          exact .here (fresh (.here inst_eq)) inst_eq
        · rename_i inst goesOn inst_eq
          have ways_eq : (head.step inst ++ rest).map Thread.point =
              inst.ways text head.point.2 ++ rest.map Thread.point := by
            rw [List.map_append, head.map_point_step]
            rfl
          by_cases accepts : program.Accepts text head.point
          · have alike' (point : Point) (accepts : program.Accepts text point) :
                point ∈ (visited.insert head.address head.position).points ↔
                  point ∈ insert head.point entered := by
              simp only [points_eq, Set.mem_insert_iff, alike point accepts]
            have later := ih above' alike' found
            rw [ways_eq] at later
            exact .onward (fresh accepts) accepts inst_eq goesOn later
          · have later := ih above' (alike_of_vain accepts) found
            rw [ways_eq] at later
            refine .pass (fun accepts' => absurd accepts' accepts) (later.of_append_vain ?_)
            exact fun way leads accepts' => accepts (.onward inst_eq leads accepts')

/-- A match ends where the program picks acceptance from where it starts. -/
theorem Attempted.exists_picks {lower origin : Nat} {found : Match text lower}
    (attempted : program.Attempted origin found) :
    ∃ address, program.Picks text [(program.start, found.start)] ∅ (address, found.stop) := by
  obtain ⟨visited, inside, thread, fruitless, base_le, stop_eq, explored⟩ := attempted.attempt
  refine ⟨thread.address, ?_⟩
  rw [stop_eq]
  refine picks_of_explore base_le (fun point accepts => ?_) explored
  exact iff_of_false (fun member => fruitless.not_accepts member accepts) (Set.notMem_empty _)

end Pattern.Program

end Emend
