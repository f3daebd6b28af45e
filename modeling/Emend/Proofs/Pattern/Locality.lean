import Emend.Proofs.Pattern.Preference

/-!
# Searches see what is around

A step of a search looks at the characters right before and right behind its position, and at
whether the text begins or ends there. So a path from one position to another one is a path in any
text that looks the same all the way between them, and where two texts look the same from a position
to their ends, searches find the same there.
-/

namespace Emend

namespace Pattern

/-- A text looks around a position as another one does `shift` characters further on. -/
structure SameAround (text other : Text) (shift position : Nat) : Prop where
  next : other[position + shift]? = text[position]?
  before : other.before? (position + shift) = text.before? position
  start : position + shift = 0 ↔ position = 0
  stop : position + shift = other.size ↔ position = text.size

def movedBy (shift : Nat) (point : Point) : Point := (point.1, point.2 + shift)

namespace SameAround

variable {text other : Text} {shift position : Nat}

theorem holds_eq (same : SameAround text other shift position) (which : Look) :
    which.holds other (position + shift) = which.holds text position := by
  obtain ⟨next, before, start, stop⟩ := same
  cases which <;> simp only [Look.holds, next, before, start, stop]

theorem ways_eq (same : SameAround text other shift position) (inst : Inst) :
    inst.ways other (position + shift) = (inst.ways text position).map (movedBy shift) := by
  have next_eq : position + shift + 1 = position + 1 + shift := Nat.add_right_comm ..
  cases inst with
  | accept => rfl
  | char c next =>
    simp only [Inst.ways, same.next, next_eq]
    split <;> rfl
  | set members next =>
    simp only [Inst.ways, same.next, next_eq]
    split <;> rfl
  | look which next =>
    simp only [Inst.ways, same.holds_eq]
    split <;> rfl
  | save slot next => rfl
  | fork first second => rfl

end SameAround

namespace Program

variable {program : Program} {text other : Text} {shift lower upper : Nat} {point last : Point}

theorem Step.moved (step : program.Step text point last)
    (same : SameAround text other shift point.2) :
    program.Step other (movedBy shift point) (movedBy shift last) := by
  obtain ⟨inst, inst_eq, leads⟩ := step
  refine ⟨inst, inst_eq, ?_⟩
  rw [movedBy, same.ways_eq inst]
  exact List.mem_map_of_mem leads

/-- A path within a part of a text is one in any text with the same part. -/
theorem Path.moved (path : program.Path text point last)
    (same : ∀ position, point.2 ≤ position → position ≤ last.2 →
      SameAround text other shift position) :
    program.Path other (movedBy shift point) (movedBy shift last) := by
  obtain ⟨steps, inst_eq⟩ := path
  have within : ∀ {point}, Relation.ReflTransGen (program.Step text) point last →
      point.2 ≤ last.2 := by
    intro point steps
    induction steps using Relation.ReflTransGen.head_induction_on with
    | refl => exact Nat.le_refl _
    | head step _ ih => exact Nat.le_trans step.le ih
  refine ⟨?_, inst_eq⟩
  induction steps using Relation.ReflTransGen.head_induction_on with
  | refl => exact .refl
  | head step behind ih =>
    have onward := Nat.le_trans step.le (within behind)
    refine .head (step.moved (same _ (Nat.le_refl _) onward)) (ih fun position above => ?_)
    exact same position (Nat.le_trans step.le above)

/-- Where a search finds a match, the program accepts in every text that looks the same all the way
to the end of the match. -/
theorem accepts_of_find? {found : Match text lower}
    (searched : program.find? text lower = some found)
    (same : ∀ position, found.start ≤ position → position ≤ found.stop →
      SameAround text other shift position) :
    program.Accepts other (program.start, found.start + shift) := by
  obtain ⟨_, picks⟩ := (attempted_of_find? searched).exists_picks
  obtain ⟨_, member, path⟩ := picks.exists_path
  cases List.mem_singleton.mp member
  exact (path.moved same).accepts

/-! ## The same up to the end -/

section Suffix

variable (same : ∀ position, lower ≤ position → SameAround text other shift position)
include same

theorem accepts_movedBy (accepts : program.Accepts text point) (above : lower ≤ point.2) :
    program.Accepts other (movedBy shift point) := by
  induction accepts with
  | here inst_eq => exact .here inst_eq
  | onward inst_eq leads _ ih =>
    have step : program.Step text _ _ := ⟨_, inst_eq, leads⟩
    obtain ⟨inst, inst_eq', leads'⟩ := step.moved (same _ above)
    exact .onward inst_eq' leads' (ih (Nat.le_trans above step.le))

theorem accepts_of_movedBy (accepts : program.Accepts other (movedBy shift point))
    (above : lower ≤ point.2) : program.Accepts text point := by
  generalize moved_eq : movedBy shift point = moved at accepts
  induction accepts generalizing point with
  | here inst_eq =>
    subst moved_eq
    exact .here inst_eq
  | @onward _ way inst inst_eq leads _ ih =>
    subst moved_eq
    rw [movedBy, (same _ above).ways_eq inst] at leads
    obtain ⟨way, leads', rfl⟩ := List.mem_map.mp leads
    have step : program.Step text point way := ⟨inst, inst_eq, leads'⟩
    exact .onward inst_eq leads' (ih (Nat.le_trans above step.le) rfl)

theorem Picks.moved {waiting : List Point} {entered : Set Point}
    (picks : program.Picks text waiting entered last) (above : ∀ point ∈ waiting, lower ≤ point.2) :
    program.Picks other (waiting.map (movedBy shift)) (movedBy shift '' entered)
      (movedBy shift last) := by
  have injective : Function.Injective (movedBy shift) := by
    rintro ⟨address, position⟩ ⟨address', position'⟩ alike
    simpa [movedBy] using alike
  have entered_iff (point : Point) (entered : Set Point) :
      movedBy shift point ∈ movedBy shift '' entered ↔ point ∈ entered :=
    injective.mem_set_image
  induction picks with
  | pass vain _ ih =>
    obtain ⟨here, others⟩ := List.forall_mem_cons.mp above
    refine .pass (fun accepts => ?_) (ih others)
    exact (entered_iff _ _).mpr (vain (accepts_of_movedBy same accepts here))
  | here fresh inst_eq => exact .here (fun member => fresh ((entered_iff _ _).mp member)) inst_eq
  | @onward point _ waiting entered inst fresh accepts inst_eq goesOn _ ih =>
    obtain ⟨here, others⟩ := List.forall_mem_cons.mp above
    have within (way : Point) (member : way ∈ inst.ways text point.2 ++ waiting) :
        lower ≤ way.2 := by
      rcases List.mem_append.mp member with leads | waits
      · exact Nat.le_trans here (Step.le ⟨inst, inst_eq, leads⟩)
      · exact others way waits
    have later := ih within
    rw [List.map_append, ← (same _ here).ways_eq inst, Set.image_insert_eq] at later
    exact .onward (fun member => fresh ((entered_iff _ _).mp member))
      (accepts_movedBy same accepts here) inst_eq goesOn later

/-- A search that finds nothing finds nothing in a text that looks the same from there on. -/
theorem find?_eq_none_of_same (missing : program.find? other (lower + shift) = none) :
    program.find? text lower = none := by
  refine find?_eq_none_iff.mpr fun position above within accepts => ?_
  have ends := (same text.size (Nat.le_trans above within)).stop.mpr rfl
  exact find?_eq_none_iff.mp missing (position + shift) (Nat.add_le_add_right above _) (by omega)
    (accepts_movedBy same accepts above)

/-- Matches that start at the same place end at the same place. -/
theorem stop_eq_of_same {first second : Nat} {found : Match text first} {found' : Match other second}
    (searched : program.find? text first = some found)
    (searched' : program.find? other second = some found') (above : lower ≤ found.start)
    (start_eq : found'.start = found.start + shift) : found'.stop = found.stop + shift := by
  obtain ⟨address, picks⟩ := (attempted_of_find? searched).exists_picks
  obtain ⟨address', picks'⟩ := (attempted_of_find? searched').exists_picks
  have moved := picks.moved same (List.forall_mem_singleton.mpr above)
  rw [start_eq] at picks'
  rw [Set.image_empty] at moved
  have alike := picks'.unique moved fun _ _ => Iff.rfl
  exact congrArg Prod.snd alike

/-- Searches that begin in front of where the texts look the same find the same there. -/
theorem start_eq_of_same {first second : Nat} {found : Match text first}
    {found' : Match other second} (searched : program.find? text first = some found)
    (searched' : program.find? other second = some found') (above : lower ≤ found.start)
    (above' : lower + shift ≤ found'.start) (first_le : first ≤ lower)
    (second_le : second ≤ found.start + shift) : found'.start = found.start + shift := by
  have attempted := attempted_of_find? searched
  have attempted' := attempted_of_find? searched'
  obtain ⟨position, start_eq⟩ : ∃ position, found'.start = position + shift :=
    ⟨found'.start - shift, by omega⟩
  have accepts := attempted'.accepts
  rw [start_eq] at accepts above' ⊢
  have reached : lower ≤ position := Nat.le_of_add_le_add_right above'
  apply congrArg (· + shift)
  apply Nat.le_antisymm
  · apply Nat.le_of_not_lt
    intro before
    refine attempted'.leftmost _ second_le ?_ (accepts_movedBy same attempted.accepts above)
    rw [start_eq]
    exact Nat.add_lt_add_right before shift
  · apply Nat.le_of_not_lt
    intro before
    refine attempted.leftmost position (Nat.le_trans first_le reached) before ?_
    exact accepts_of_movedBy same accepts reached

end Suffix

end Program

end Pattern

end Emend
