import Emend.Proofs.Json.Spelling

/-!
# Reading back what was printed

A text that spells a value is read as that value, up to a character that can not belong to it. So a
printed value is read back, without blanks and over several lines.
-/

namespace Emend.Json

/-! ## Blanks -/

theorem skipBlanks_append {blanks : List Char} (blank : Blank blanks) (text : List Char) :
    skipBlanks (blanks ++ text) = skipBlanks text :=
  List.dropWhile_append_of_pos blank

theorem skipBlanks_cons {c : Char} (shown : isBlank c = false) (text : List Char) :
    skipBlanks (c :: text) = c :: text :=
  List.dropWhile_cons_of_neg (by simp [shown])

theorem skipBlanks_append_cons {blanks : List Char} (blank : Blank blanks) {c : Char}
    (shown : isBlank c = false) (text : List Char) :
    skipBlanks (blanks ++ c :: text) = c :: text := by
  rw [skipBlanks_append blank, skipBlanks_cons shown]

theorem apart_append {blanks rest : List Char} (blank : Blank blanks) (apart : Apart rest) :
    Apart (blanks ++ rest) := by
  cases blanks with
  | nil => exact apart
  | cons c blanks =>
    rintro _ ⟨⟩
    have shown := blank c (List.mem_cons_self ..)
    simp only [isBlank, Bool.or_eq_true, decide_eq_true_eq] at shown
    rcases shown with ((rfl | rfl) | rfl) | rfl <;> decide

theorem apart_cons {c : Char} (other : c.isDigit = false ∧ c ≠ '.' ∧ c ≠ 'e' ∧ c ≠ 'E')
    (rest : List Char) : Apart (c :: rest) := by
  rintro _ ⟨⟩
  exact other

/-- What follows an item can not belong to it. -/
theorem Listed.apart {α : Type} {close : Char} {Spells : α → List Char → Prop} {items : List α}
    {text : List Char} (listed : Listed close Spells false items text)
    (closes : close.isDigit = false ∧ close ≠ '.' ∧ close ≠ 'e' ∧ close ≠ 'E') (rest : List Char) :
    Apart (text ++ rest) := by
  cases listed with
  | nil blank =>
    rw [List.append_assoc]
    exact apart_append blank (apart_cons closes rest)
  | cons leads spells others =>
    cases leads with
    | next front back =>
      rw [List.append_assoc, List.append_assoc]
      exact apart_append front (apart_cons (by decide) _)

/-! ## Lists -/

/-- Values are read as they are spelled, behind blanks and from fewer than `bound` characters. -/
def Reads (read : ValueReader) (Inner : Json → List Char → Prop) (bound : Nat) : Prop :=
  ∀ {blanks : List Char} {value : Json} {text rest : List Char}, Blank blanks → Inner value text →
    Apart rest → (text ++ rest).length < bound → read (blanks ++ (text ++ rest)) = .ok (value, rest)

/-- Values begin with a character that is no blank and ends no list. -/
def Begins (Inner : Json → List Char → Prop) : Prop :=
  ∀ {value : Json} {text : List Char}, Inner value text →
    ∃ c behind, text = c :: behind ∧ isBlank c = false ∧ c ≠ ']'

theorem beforeItem_close (isFirst : Bool) {blanks : List Char} (blank : Blank blanks)
    (rest : List Char) : beforeItem isFirst (blanks ++ ']' :: rest) = .ok (false, rest) := by
  unfold beforeItem
  rw [skipBlanks_append_cons blank rfl]
  rfl

theorem beforeItem_lead {isFirst : Bool} {lead : List Char} (leads : Leads isFirst lead) {c : Char}
    (shown : isBlank c = false) (other : c ≠ ']') (rest : List Char) :
    beforeItem isFirst (lead ++ c :: rest) = .ok (true, c :: rest) := by
  cases leads with
  | first blank =>
    unfold beforeItem
    rw [skipBlanks_append_cons blank shown]
    dsimp only
    rw [if_neg other, if_pos rfl]
  | next front back =>
    unfold beforeItem
    rw [List.append_assoc, List.cons_append, skipBlanks_append_cons front rfl]
    dsimp only
    rw [if_neg (by decide), if_neg (by decide), if_pos rfl, skipBlanks_append_cons back shown]
    split
    · rename_i nothing
      cases nothing
    · rename_i same
      cases same
      exact absurd rfl other
    · rfl

/-- Items are read as they are listed. Each of them takes a character at least, so the fuel does not
run out before they do; what reads a single item keeps its own bound. -/
theorem readItems_listed {read : ValueReader} {Inner : Json → List Char → Prop} {bound fuel : Nat}
    (reads : Reads read Inner bound) (begins : Begins Inner) {isFirst : Bool} {items : List Json}
    {text rest : List Char} (listed : Listed ']' Inner isFirst items text)
    (bounded : (text ++ rest).length < bound) (fits : (text ++ rest).length < fuel) :
    readItems read fuel isFirst (text ++ rest) = .ok (items, rest) := by
  induction listed generalizing fuel with
  | nil blank =>
    obtain ⟨fuel, rfl⟩ := Nat.exists_eq_add_one_of_ne_zero (Nat.ne_zero_of_lt fits)
    rw [readItems, List.append_assoc, List.singleton_append, beforeItem_close _ blank]
    rfl
  | @cons isFirst item items lead text behind leads spells others ih =>
    obtain ⟨fuel, rfl⟩ := Nat.exists_eq_add_one_of_ne_zero (Nat.ne_zero_of_lt fits)
    obtain ⟨c, tail, text_eq, shown, other⟩ := begins spells
    have some : 0 < text.length := by simp [text_eq]
    simp only [List.length_append] at bounded fits
    have inside : (text ++ (behind ++ rest)).length < bound := by
      simp only [List.length_append]
      omega
    have item_eq := reads .nil spells (others.apart (by decide) rest) inside
    rw [List.nil_append] at item_eq
    have items_eq : readItems read fuel false (behind ++ rest) = .ok (items, rest) := by
      apply ih <;> simp only [List.length_append] <;> omega
    have lead_eq : beforeItem isFirst (lead ++ (text ++ (behind ++ rest))) =
        .ok (true, text ++ (behind ++ rest)) := by
      rw [text_eq]
      exact beforeItem_lead leads shown other _
    rw [readItems, List.append_assoc, List.append_assoc, lead_eq, ok_bind]
    dsimp only
    rw [if_pos rfl, item_eq, ok_bind]
    dsimp only
    rw [items_eq]
    rfl

/-! ## Objects -/

theorem beforeKey_close (isFirst : Bool) {blanks : List Char} (blank : Blank blanks)
    (rest : List Char) : beforeKey isFirst (blanks ++ '}' :: rest) = .ok (false, rest) := by
  unfold beforeKey
  rw [skipBlanks_append_cons blank rfl]
  rfl

theorem beforeKey_lead {isFirst : Bool} {lead : List Char} (leads : Leads isFirst lead)
    (rest : List Char) : beforeKey isFirst (lead ++ '"' :: rest) = .ok (true, rest) := by
  cases leads with
  | first blank =>
    unfold beforeKey
    rw [skipBlanks_append_cons blank rfl]
    rfl
  | next front back =>
    unfold beforeKey
    rw [List.append_assoc, List.cons_append, skipBlanks_append_cons front rfl]
    dsimp only
    rw [if_neg (by decide), if_neg (by decide), if_pos rfl, skipBlanks_append_cons back rfl]
    rfl

theorem readColon_append {blanks : List Char} (blank : Blank blanks) (rest : List Char) :
    readColon (blanks ++ ':' :: rest) = .ok ((), rest) := by
  unfold readColon
  rw [skipBlanks_append_cons blank rfl]
  rfl

/-- Members are read as they are listed, and put among those found before. -/
theorem readMembers_listed {read : ValueReader} {Inner : Json → List Char → Prop}
    {bound fuel : Nat} (reads : Reads read Inner bound) {isFirst : Bool}
    {members : List (String × Json)} {text rest : List Char}
    (listed : Listed '}' (SpellsMember Inner) isFirst members text)
    (bounded : (text ++ rest).length < bound) (fits : (text ++ rest).length < fuel)
    (found : List (String × Json)) :
    readMembers read fuel isFirst found (text ++ rest) = .ok (collect found members, rest) := by
  induction listed generalizing fuel found with
  | nil blank =>
    obtain ⟨fuel, rfl⟩ := Nat.exists_eq_add_one_of_ne_zero (Nat.ne_zero_of_lt fits)
    rw [readMembers, List.append_assoc, List.singleton_append, beforeKey_close _ blank]
    rfl
  | @cons isFirst member members lead text behind leads spells others ih =>
    obtain ⟨fuel, rfl⟩ := Nat.exists_eq_add_one_of_ne_zero (Nat.ne_zero_of_lt fits)
    cases spells with
    | @mk key value before after text front back spells =>
      let later := before ++ ':' :: (after ++ (text ++ (behind ++ rest)))
      have text_eq :
          lead ++ (stringText key ++ (before ++ ':' :: (after ++ text)) ++ behind) ++ rest =
            lead ++ '"' :: (key.toList.flatMap escaped ++ '"' :: later) := by
        simp [stringText, later]
      have some : 0 < (stringText key).length := by simp [stringText]
      simp only [List.length_append, List.length_cons] at bounded fits
      have key_fits : (stringText key ++ later).length < fuel + 1 := by
        simp only [later, List.length_append, List.length_cons]
        omega
      have value_fits : (text ++ (behind ++ rest)).length < bound := by
        simp only [List.length_append]
        omega
      have key_eq := readString_stringText key later key_fits
      have value_eq := reads back spells (others.apart (by decide) rest) value_fits
      have members_eq : readMembers read fuel false (insertMember key value found)
          (behind ++ rest) = .ok (collect (insertMember key value found) members, rest) := by
        apply ih <;> simp only [List.length_append] <;> omega
      rw [readMembers, text_eq, beforeKey_lead leads, ok_bind]
      dsimp only
      rw [if_pos rfl, key_eq, ok_bind]
      dsimp only
      rw [readColon_append front, ok_bind]
      dsimp only
      rw [value_eq, ok_bind]
      exact members_eq

/-! ## Values -/

theorem beginsScalar {value : Json} {text : List Char} (spells : SpellsScalar value text) :
    ∃ c behind, text = c :: behind ∧ isBlank c = false ∧ c ≠ ']' := by
  obtain ⟨c, behind, text_eq, begins, -⟩ := spells.exists_read
  exact ⟨c, behind, text_eq, begins.1, begins.2.1⟩

theorem begins_spells (depth : Nat) : Begins (Spells depth) := by
  intro value text spells
  cases depth with
  | zero => exact beginsScalar spells
  | succ depth =>
    cases spells with
    | scalar spells => exact beginsScalar spells
    | array listed => exact ⟨'[', _, rfl, rfl, by decide⟩
    | object listed => exact ⟨'{', _, rfl, rfl, by decide⟩

theorem readValue_append {blanks : List Char} (blank : Blank blanks) (fuel depth : Nat)
    (text : List Char) : readValue fuel depth (blanks ++ text) = readValue fuel depth text := by
  unfold readValue
  rw [skipBlanks_append blank]

theorem reads_scalar (fuel depth : Nat) : Reads (readValue fuel depth) SpellsScalar fuel := by
  intro blanks value text rest blank spells apart fits
  obtain ⟨c, behind, rfl, begins, read⟩ := spells.exists_read
  obtain ⟨shown, -, list, object⟩ := begins
  rw [readValue_append blank, readValue.eq_def, List.cons_append, skipBlanks_cons shown]
  dsimp only
  rw [if_neg list, if_neg object]
  exact read fits apart

/-- **Values are read as they are spelled.** -/
theorem reads_spells (fuel depth : Nat) : Reads (readValue fuel depth) (Spells depth) fuel := by
  -- What is inside of a list or an object is nested one level less.
  induction depth with
  | zero => exact reads_scalar fuel 0
  | succ depth ih =>
    intro blanks value text rest blank spells apart fits
    cases spells with
    | scalar spells => exact reads_scalar fuel (depth + 1) blank spells apart fits
    | @array items text listed =>
      have inside : (text ++ rest).length < fuel := Nat.lt_of_succ_lt fits
      rw [readValue_append blank, readValue.eq_def, List.cons_append, skipBlanks_cons rfl]
      dsimp only
      rw [if_pos rfl, readItems_listed ih (begins_spells depth) listed inside inside]
      rfl
    | @object members text listed =>
      have inside : (text ++ rest).length < fuel := Nat.lt_of_succ_lt fits
      rw [readValue_append blank, readValue.eq_def, List.cons_append, skipBlanks_cons rfl]
      dsimp only
      rw [if_neg (by decide), if_pos rfl, readMembers_listed ih listed inside inside]
      rfl

/-! ## Texts -/

theorem parseChars_of_spells {value : Json} {text behind : List Char}
    (spells : Spells maxDepth value text) (blank : Blank behind) :
    parseChars (text ++ behind) = .ok value := by
  have ends : Apart [] := nofun
  have apart : Apart behind := by simpa using apart_append blank ends
  have read := reads_spells ((text ++ behind).length + 1) maxDepth .nil spells apart (by simp)
  have nothing : skipBlanks behind = [] := by
    rw [← List.append_nil behind, skipBlanks_append blank]
    rfl
  rw [List.nil_append] at read
  unfold parseChars
  rw [read, ok_bind]
  dsimp only
  rw [nothing]
  rfl

theorem parse_compact {value : Json} (readable : Readable maxDepth value) :
    parse value.compact = .ok value.reread := by
  have read := parseChars_of_spells (spells_compactText readable) .nil
  unfold parse compact
  rw [String.toList_ofList, ← List.append_nil value.compactText, read]
  rfl

theorem parse_pretty {value : Json} (readable : Readable maxDepth value) :
    parse value.pretty = .ok value.reread := by
  have read := parseChars_of_spells (spells_prettyText readable 0) .nil
  unfold parse pretty
  rw [String.toList_ofList, ← List.append_nil (value.prettyText 0), read]
  rfl

theorem parse_pretty_newline {value : Json} (readable : Readable maxDepth value) :
    parse (value.pretty ++ "\n") = .ok value.reread := by
  have blank : Blank ['\n'] := by simp [Blank, isBlank]
  have read := parseChars_of_spells (spells_prettyText readable 0) blank
  unfold parse pretty
  rw [String.toList_append, String.toList_ofList]
  change (parseChars (value.prettyText 0 ++ ['\n'])).mapError _ = _
  rw [read]
  rfl

end Emend.Json
