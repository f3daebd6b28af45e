/-!
# Checks in turn

What several checks in turn come to, when each of them either fails or yields a value.
-/

namespace Emend

variable {ε α β : Type}

theorem exists_of_bind_eq_ok {first : Except ε α} {second : α → Except ε β} {b : β}
    (both : first >>= second = .ok b) : ∃ a, first = .ok a ∧ second a = .ok b := by
  cases first with
  | error error => cases both
  | ok a => exact ⟨a, rfl, both⟩

theorem ok_bind (a : α) (second : α → Except ε β) : (Except.ok a >>= second) = second a := rfl

theorem exists_of_map_eq_ok {first : Except ε α} {make : α → β} {b : β}
    (made : first.map make = .ok b) : ∃ a, first = .ok a ∧ make a = b := by
  cases first with
  | error error => cases made
  | ok a => exact ⟨a, rfl, Except.ok.inj made⟩

theorem eq_error_of_map_eq_error {first : Except ε α} {make : α → β} {error : ε}
    (made : first.map make = .error error) : first = .error error := by
  cases first with
  | error other => exact congrArg Except.error (Except.error.inj made)
  | ok a => cases made

theorem eq_ok_of_mapError_eq_ok {φ : Type} {first : Except ε α} {reword : ε → φ} {a : α}
    (made : first.mapError reword = .ok a) : first = .ok a := by
  cases first with
  | error error => cases made
  | ok a => exact congrArg Except.ok (Except.ok.inj made)

theorem mapM_of_forall_ok {check : α → Except ε β} {value : α → β} {items : List α}
    (each : ∀ item ∈ items, check item = .ok (value item)) :
    items.mapM check = .ok (items.map value) := by
  induction items with
  | nil => rfl
  | cons item rest ih =>
    obtain ⟨first, others⟩ := List.forall_mem_cons.mp each
    rw [List.mapM_cons, first, ok_bind, ih others]
    rfl

theorem exists_of_mapM_eq_ok {check : α → Except ε β} {items : List α} {values : List β}
    (checked : items.mapM check = .ok values) {item : α} (member : item ∈ items) :
    ∃ b, check item = .ok b := by
  induction items generalizing values with
  | nil => cases member
  | cons first rest ih =>
    rw [List.mapM_cons] at checked
    obtain ⟨b, front, checked⟩ := exists_of_bind_eq_ok checked
    obtain ⟨later, behind, -⟩ := exists_of_bind_eq_ok checked
    rcases List.mem_cons.mp member with rfl | inside
    · exact ⟨b, front⟩
    · exact ih behind inside

/-- Checks fail together with the error of the first item that fails. -/
theorem mapM_eq_error_iff {check : α → Except ε β} {items : List α} {error : ε} :
    items.mapM check = .error error ↔
      ∃ front item back, items = front ++ item :: back ∧
        (∀ earlier ∈ front, ∃ b, check earlier = .ok b) ∧ check item = .error error := by
  induction items with
  | nil =>
    constructor
    · nofun
    · rintro ⟨front, item, back, split, -⟩
      exact absurd split.symm (List.append_ne_nil_of_right_ne_nil _ (List.cons_ne_nil _ _))
  | cons item rest ih =>
    rw [List.mapM_cons]
    cases first : check item with
    | error other =>
      constructor
      · rintro ⟨⟩
        exact ⟨[], item, rest, rfl, nofun, first⟩
      · rintro ⟨front, faulty, back, split, fine, fails⟩
        cases front with
        | nil =>
          cases split
          cases first.symm.trans fails
          rfl
        | cons _ _ =>
          cases split
          obtain ⟨b, same⟩ := fine item (List.mem_cons_self ..)
          cases first.symm.trans same
    | ok b =>
      have behind : (Except.ok b >>= fun b => rest.mapM check >>= fun values =>
          pure (b :: values)) = .error error ↔ rest.mapM check = .error error := by
        rw [ok_bind]
        cases rest.mapM check with
        | error other => exact Iff.rfl
        | ok values => exact ⟨nofun, nofun⟩
      rw [behind, ih]
      constructor
      · rintro ⟨front, faulty, back, rfl, fine, fails⟩
        exact ⟨item :: front, faulty, back, rfl, List.forall_mem_cons.mpr ⟨⟨b, first⟩, fine⟩, fails⟩
      · rintro ⟨front, faulty, back, split, fine, fails⟩
        cases front with
        | nil =>
          cases split
          cases first.symm.trans fails
        | cons _ front =>
          cases split
          exact ⟨front, faulty, back, rfl, (List.forall_mem_cons.mp fine).2, fails⟩

theorem eq_ok_of_toOption {first : Except ε α} {a : α} (fine : first.toOption = some a) :
    first = .ok a := by
  cases first with
  | error error => cases fine
  | ok a => exact congrArg Except.ok (Option.some.inj fine)

theorem exists_of_isOk {first : Except ε α} (fine : first.isOk = true) : ∃ a, first = .ok a := by
  cases first with
  | error error => cases fine
  | ok a => exact ⟨a, rfl⟩

end Emend
