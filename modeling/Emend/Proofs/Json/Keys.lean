import Emend.Json.Reader
import Emend.Proofs.Checks
import Mathlib.Data.String.Basic

/-!
# Keys of objects

A value that was read lists the members of each of its objects by key, and no key twice.
-/

namespace Emend.Json

/-- Members listed by key, no key twice. -/
def Ascending (members : List (String × Json)) : Prop :=
  members.Pairwise fun first second => first.1 < second.1

inductive Keyed : Json → Prop where
  | null : Keyed .null
  | bool (value : Bool) : Keyed (.bool value)
  | number (value : Number) : Keyed (.number value)
  | string (value : String) : Keyed (.string value)
  | array {items : List Json} (each : ∀ item ∈ items, Keyed item) : Keyed (.array items)
  | object {members : List (String × Json)} (ascending : Ascending members)
      (each : ∀ member ∈ members, Keyed member.2) : Keyed (.object members)

/-! ## Inserting members -/

section Inserting

variable {key : String} {value : Json} {members : List (String × Json)}

/-- A new member takes the place of one with the same key, and leaves the others. -/
theorem mem_insertMember_iff (ascending : Ascending members) {member : String × Json} :
    member ∈ insertMember key value members ↔
      member = (key, value) ∨ member ∈ members ∧ member.1 ≠ key := by
  induction members with
  | nil => simp [insertMember]
  | cons head rest ih =>
    obtain ⟨key', value'⟩ := head
    obtain ⟨above, behind⟩ := List.pairwise_cons.mp ascending
    unfold insertMember
    split_ifs with before same
    · -- The new key comes before all others.
      have apart : ∀ other ∈ (key', value') :: rest, other.1 ≠ key := by
        rw [List.forall_mem_cons]
        exact ⟨ne_of_gt before, fun other later => ne_of_gt (before.trans (above other later))⟩
      rw [List.mem_cons]
      exact or_congr_right ⟨fun old => ⟨old, apart _ old⟩, And.left⟩
    · subst same
      have apart : ∀ other ∈ rest, other.1 ≠ key := fun other later => ne_of_gt (above other later)
      constructor
      · intro present
        rcases List.mem_cons.mp present with new | old
        · exact .inl new
        · exact .inr ⟨List.mem_cons_of_mem _ old, apart _ old⟩
      · rintro (rfl | ⟨old, other⟩)
        · exact List.mem_cons_self ..
        · rcases List.mem_cons.mp old with rfl | later
          · exact absurd rfl other
          · exact List.mem_cons_of_mem _ later
    · rw [List.mem_cons, ih behind, List.mem_cons]
      constructor
      · rintro (rfl | new | ⟨old, other⟩)
        · exact .inr ⟨.inl rfl, Ne.symm same⟩
        · exact .inl new
        · exact .inr ⟨.inr old, other⟩
      · rintro (new | ⟨first | old, other⟩)
        · exact .inr (.inl new)
        · exact .inl first
        · exact .inr (.inr ⟨old, other⟩)

theorem Ascending.insertMember (ascending : Ascending members) :
    Ascending (insertMember key value members) := by
  induction members with
  | nil => exact List.pairwise_singleton _ _
  | cons head rest ih =>
    obtain ⟨key', value'⟩ := head
    obtain ⟨above, behind⟩ := List.pairwise_cons.mp ascending
    unfold Json.insertMember
    split_ifs with before same
    · apply List.pairwise_cons.mpr
      refine ⟨?_, ascending⟩
      intro member present
      rcases List.mem_cons.mp present with rfl | later
      · exact before
      · exact before.trans (above member later)
    · subst same
      exact List.pairwise_cons.mpr ⟨above, behind⟩
    · have after : key' < key := (lt_or_gt_of_ne same).resolve_left before
      apply List.pairwise_cons.mpr
      refine ⟨?_, ih behind⟩
      intro member present
      rcases (mem_insertMember_iff behind).mp present with rfl | ⟨old, -⟩
      · exact after
      · exact above member old

theorem Ascending.nodup (ascending : Ascending members) : (members.map Prod.fst).Nodup := by
  apply List.Pairwise.map Prod.fst _ ascending
  intro first second before
  exact ne_of_lt before

/-- A member with a new key is put among the others. -/
theorem insertMember_perm (apart : key ∉ members.map Prod.fst) :
    (insertMember key value members).Perm ((key, value) :: members) := by
  induction members with
  | nil => exact .refl _
  | cons head rest ih =>
    obtain ⟨key', value'⟩ := head
    rw [List.map_cons, List.mem_cons, not_or] at apart
    obtain ⟨other, apart⟩ := apart
    unfold insertMember
    rw [if_neg other]
    split_ifs with before
    · exact .refl _
    · exact ((ih apart).cons _).trans (.swap _ _ _)

end Inserting

/-- Members put in order among those found before, so that they stand by key. -/
def collect (found members : List (String × Json)) : List (String × Json) :=
  members.foldl (fun found member => insertMember member.1 member.2 found) found

/-- Members with distinct keys are all kept. -/
theorem collect_perm {found members : List (String × Json)}
    (distinct : ((found ++ members).map Prod.fst).Nodup) :
    (collect found members).Perm (found ++ members) := by
  induction members generalizing found with
  | nil =>
    rw [List.append_nil]
    exact .refl _
  | cons head rest ih =>
    have moved : (found ++ head :: rest).Perm (head :: (found ++ rest)) := List.perm_middle
    have distinct_moved := (moved.map Prod.fst).nodup_iff.mp distinct
    have apart : head.1 ∉ found.map Prod.fst := by
      intro present
      apply (List.nodup_cons.mp distinct_moved).1
      rw [List.map_append]
      exact List.mem_append_left _ present
    have front : (insertMember head.1 head.2 found ++ rest).Perm (head :: (found ++ rest)) :=
      (insertMember_perm apart).append_right rest
    exact (ih ((front.map Prod.fst).nodup_iff.mpr distinct_moved)).trans (front.trans moved.symm)

/-! ## Reading -/

def YieldsKeyed (readValue : ValueReader) : Prop :=
  ∀ {text rest : List Char} {value : Json}, readValue text = .ok (value, rest) → Keyed value

section Reading

variable {readValue : ValueReader} {isFirst : Bool} {text rest : List Char}

theorem keyed_of_readItems (keyed : YieldsKeyed readValue) {fuel : Nat} {items : List Json}
    (read : readItems readValue fuel isFirst text = .ok (items, rest)) :
    ∀ item ∈ items, Keyed item := by
  induction fuel generalizing isFirst text items with
  | zero => cases read
  | succ fuel ih =>
    unfold readItems at read
    obtain ⟨⟨more, middle⟩, -, read⟩ := exists_of_bind_eq_ok read
    cases more with
    | false =>
      cases read
      intro item member
      cases member
    | true =>
      obtain ⟨⟨item, middle⟩, first, read⟩ := exists_of_bind_eq_ok read
      obtain ⟨⟨later, last⟩, others, read⟩ := exists_of_bind_eq_ok read
      cases read
      intro other member
      rcases List.mem_cons.mp member with rfl | behind
      · exact keyed first
      · exact ih others other behind

theorem keyed_of_readMembers (keyed : YieldsKeyed readValue) {fuel : Nat}
    {members result : List (String × Json)} (ascending : Ascending members)
    (each : ∀ member ∈ members, Keyed member.2)
    (read : readMembers readValue fuel isFirst members text = .ok (result, rest)) :
    Ascending result ∧ ∀ member ∈ result, Keyed member.2 := by
  induction fuel generalizing isFirst text members with
  | zero => cases read
  | succ fuel ih =>
    unfold readMembers at read
    obtain ⟨⟨more, middle⟩, -, read⟩ := exists_of_bind_eq_ok read
    cases more with
    | false =>
      cases read
      exact ⟨ascending, each⟩
    | true =>
      obtain ⟨⟨key, middle⟩, -, read⟩ := exists_of_bind_eq_ok read
      obtain ⟨⟨_, middle⟩, -, read⟩ := exists_of_bind_eq_ok read
      obtain ⟨⟨value, middle⟩, valued, read⟩ := exists_of_bind_eq_ok read
      refine ih ascending.insertMember ?_ read
      intro member present
      rcases (mem_insertMember_iff ascending).mp present with rfl | ⟨old, -⟩
      · exact keyed valued
      · exact each member old

theorem keyed_of_readScalar {fuel : Nat} {c : Char} {value : Json}
    (read : readScalar fuel c text = .ok (value, rest)) : Keyed value := by
  unfold readScalar at read
  split_ifs at read
  · obtain ⟨_, -, made⟩ := exists_of_map_eq_ok read
    cases made
    exact .string _
  · obtain ⟨_, -, made⟩ := exists_of_map_eq_ok read
    cases made
    exact .number _
  · obtain ⟨_, -, made⟩ := exists_of_map_eq_ok read
    cases made
    exact .number _
  · obtain ⟨_, -, made⟩ := exists_of_map_eq_ok read
    cases made
    exact .null
  · obtain ⟨_, -, made⟩ := exists_of_map_eq_ok read
    cases made
    exact .bool _
  · obtain ⟨_, -, made⟩ := exists_of_map_eq_ok read
    cases made
    exact .bool _

/-- What is read is keyed, however deep lists and objects are nested. -/
theorem keyed_of_readValue {fuel depth : Nat} {value : Json}
    (read : Json.readValue fuel depth text = .ok (value, rest)) : Keyed value := by
  induction depth generalizing text rest value with
  | zero =>
    unfold Json.readValue at read
    split at read
    · cases read
    · split at read
      · cases read
      · split at read
        · cases read
        · exact keyed_of_readScalar read
  | succ depth ih =>
    unfold Json.readValue at read
    split at read
    · cases read
    · split at read
      · obtain ⟨⟨items, left⟩, listed, made⟩ := exists_of_map_eq_ok read
        cases made
        exact .array (keyed_of_readItems ih listed)
      · split at read
        · obtain ⟨⟨members, left⟩, listed, made⟩ := exists_of_map_eq_ok read
          cases made
          obtain ⟨ascending, each⟩ := keyed_of_readMembers ih List.Pairwise.nil nofun listed
          exact .object ascending each
        · exact keyed_of_readScalar read

end Reading

theorem keyed_of_parse {text : String} {value : Json} (parsed : parse text = .ok value) :
    Keyed value := by
  have read := eq_ok_of_mapError_eq_ok parsed
  unfold parseChars at read
  obtain ⟨⟨value, rest⟩, read, ended⟩ := exists_of_bind_eq_ok read
  dsimp only at ended
  split at ended
  · cases ended
    exact keyed_of_readValue read
  · cases ended

end Emend.Json
