import Emend.Proofs.Json.Keys
import Emend.Proofs.Json.Scalars

/-!
# How values are spelled

A grammar of JSON texts with blanks between tokens, by how deep lists and objects are nested. What
is printed, without blanks or over several lines, spells the value that `reread` makes of the
printed one: in an object the members stand by key, and the last one of several with a key counts.
-/

namespace Emend.Json

/-! ## Lists of anything -/

def Blank (text : List Char) : Prop := ∀ c ∈ text, isBlank c = true

theorem Blank.nil : Blank [] := nofun

/-- What stands in front of an item: behind another one, a comma among blanks. -/
inductive Leads : (isFirst : Bool) → List Char → Prop where
  | first {blanks : List Char} (blank : Blank blanks) : Leads true blanks
  | next {before after : List Char} (front : Blank before) (back : Blank after) :
      Leads false (before ++ ',' :: after)

/-- How items are spelled one after another, up to the end of what holds them. -/
inductive Listed {α : Type} (close : Char) (Spells : α → List Char → Prop) :
    (isFirst : Bool) → List α → List Char → Prop where
  | nil {isFirst : Bool} {blanks : List Char} (blank : Blank blanks) :
      Listed close Spells isFirst [] (blanks ++ [close])
  | cons {isFirst : Bool} {item : α} {items : List α} {lead text behind : List Char}
      (leads : Leads isFirst lead) (spells : Spells item text)
      (others : Listed close Spells false items behind) :
      Listed close Spells isFirst (item :: items) (lead ++ (text ++ behind))

/-- Behind other items, items need a comma in front. -/
theorem Listed.next {α : Type} {close : Char} {Spells : α → List Char → Prop} {items : List α}
    {text : List Char} (listed : Listed close Spells true items text) (some : items ≠ []) :
    Listed close Spells false items (',' :: text) := by
  cases listed with
  | nil blank => exact absurd rfl some
  | cons leads spells others =>
    cases leads with
    | first blank => exact .cons (.next .nil blank) spells others

/-! ## Values -/

inductive SpellsMember (Inner : Json → List Char → Prop) : String × Json → List Char → Prop where
  | mk {key : String} {value : Json} {before after text : List Char} (front : Blank before)
      (back : Blank after) (spells : Inner value text) :
      SpellsMember Inner (key, value) (stringText key ++ (before ++ ':' :: (after ++ text)))

inductive SpellsOver (Inner : Json → List Char → Prop) : Json → List Char → Prop where
  | scalar {value : Json} {text : List Char} (spells : SpellsScalar value text) :
      SpellsOver Inner value text
  | array {items : List Json} {text : List Char} (listed : Listed ']' Inner true items text) :
      SpellsOver Inner (.array items) ('[' :: text)
  | object {members : List (String × Json)} {text : List Char}
      (listed : Listed '}' (SpellsMember Inner) true members text) :
      SpellsOver Inner (.object (collect [] members)) ('{' :: text)

/-- How a value is spelled in which lists and objects are nested at most `depth` deep. -/
def Spells : (depth : Nat) → Json → List Char → Prop
  | 0 => SpellsScalar
  | depth + 1 => SpellsOver (Spells depth)

theorem SpellsScalar.spells {value : Json} {text : List Char} (spells : SpellsScalar value text)
    (depth : Nat) : Spells depth value text := by
  cases depth with
  | zero => exact spells
  | succ depth => exact .scalar spells

/-! ## What is printed -/

/-- A value that can be read back: its scalars can be spelled, and lists and objects are nested at
most `depth` deep. -/
inductive Readable : (depth : Nat) → Json → Prop where
  | scalar {depth : Nat} {value : Json} {text : List Char} (spells : SpellsScalar value text) :
      Readable depth value
  | array {depth : Nat} {items : List Json} (each : ∀ item ∈ items, Readable depth item) :
      Readable (depth + 1) (.array items)
  | object {depth : Nat} {members : List (String × Json)}
      (each : ∀ member ∈ members, Readable depth member.2) : Readable (depth + 1) (.object members)

/-- What a printed value is read back as. -/
def reread : Json → Json
  | array items => .array (items.map reread)
  | object members => .object (collect [] (members.map fun member => (member.1, reread member.2)))
  | value => value
decreasing_by
  · have smaller := List.sizeOf_lt_of_mem ‹_ ∈ items›
    simp
    omega
  · have smaller := List.sizeOf_lt_of_mem ‹_ ∈ members›
    cases member
    simp at smaller ⊢
    omega

theorem SpellsScalar.printed {value : Json} {text : List Char} (spells : SpellsScalar value text) :
    value.reread = value ∧ value.compactText = text ∧ ∀ indent, value.prettyText indent = text := by
  cases spells <;> simp [reread, compactText, prettyText]

/-- Texts one after another with commas, the same blanks in front of each, and blanks before the
end. -/
def laidOut (before behind : List Char) (close : Char) : List (List Char) → List Char
  | [] => behind ++ [close]
  | [text] => before ++ text ++ behind ++ [close]
  | text :: next :: rest => before ++ text ++ ',' :: laidOut before behind close (next :: rest)

theorem listed_laidOut {α β : Type} {before behind : List Char} (front : Blank before)
    (back : Blank behind) (close : Char) {Spells : β → List Char → Prop} {meaning : α → β}
    {text : α → List Char} {items : List α}
    (spells : ∀ item ∈ items, Spells (meaning item) (text item)) :
    Listed close Spells true (items.map meaning)
      (laidOut before behind close (items.map text)) := by
  induction items with
  | nil => exact .nil back
  | cons item rest ih =>
    obtain ⟨first, others⟩ := List.forall_mem_cons.mp spells
    cases rest with
    | nil =>
      have ends : Listed close Spells false [] (behind ++ [close]) := .nil back
      have listed := Listed.cons (.first front) first ends
      simpa [laidOut] using listed
    | cons next rest =>
      have listed := Listed.cons (.first front) first ((ih others).next (by simp))
      simpa [laidOut] using listed

/-! ## Without blanks -/

theorem compactItems_eq (items : List Json) :
    compactItems items = laidOut [] [] ']' (items.map compactText) := by
  induction items with
  | nil => rfl
  | cons item rest ih =>
    cases rest with
    | nil => simp [compactItems, laidOut]
    | cons next rest =>
      rw [compactItems, ih]
      rfl

theorem compactMembers_eq (members : List (String × Json)) :
    compactMembers members = laidOut [] [] '}' (members.map fun member =>
      stringText member.1 ++ ':' :: compactText member.2) := by
  induction members with
  | nil => rfl
  | cons member rest ih =>
    cases rest with
    | nil => simp [compactMembers, laidOut]
    | cons next rest =>
      rw [compactMembers, ih]
      simp [laidOut]

theorem spells_compactText {depth : Nat} {value : Json} (readable : Readable depth value) :
    Spells depth value.reread value.compactText := by
  induction readable with
  | scalar spells =>
    obtain ⟨same, printed⟩ := spells.printed
    rw [same, printed.1]
    exact spells.spells _
  | array each ih =>
    rw [reread, compactText, compactItems_eq]
    exact .array (listed_laidOut .nil .nil ']' ih)
  | object each ih =>
    rw [reread, compactText, compactMembers_eq]
    refine .object (listed_laidOut .nil .nil '}' ?_)
    intro member present
    exact .mk .nil .nil (ih member present)

/-! ## Over several lines -/

theorem blank_lineBreak (depth : Nat) : Blank (lineBreak depth) := by
  intro c member
  rcases List.mem_cons.mp member with rfl | member
  · rfl
  · rw [List.eq_of_mem_replicate member]
    rfl

theorem prettyItems_eq (indent : Nat) (items : List Json) :
    prettyItems indent items = laidOut (lineBreak (indent + 1)) (lineBreak indent) ']'
      (items.map (prettyText (indent + 1))) := by
  induction items with
  | nil => rfl
  | cons item rest ih =>
    cases rest with
    | nil => rfl
    | cons next rest =>
      rw [prettyItems, ih]
      rfl

theorem prettyMembers_eq (indent : Nat) (members : List (String × Json)) :
    prettyMembers indent members = laidOut (lineBreak (indent + 1)) (lineBreak indent) '}'
      (members.map fun member =>
        stringText member.1 ++ ':' :: ' ' :: prettyText (indent + 1) member.2) := by
  induction members with
  | nil => rfl
  | cons member rest ih =>
    cases rest with
    | nil => simp [prettyMembers, laidOut]
    | cons next rest =>
      rw [prettyMembers, ih]
      simp [laidOut]

theorem spells_prettyText {depth : Nat} {value : Json} (readable : Readable depth value)
    (indent : Nat) : Spells depth value.reread (value.prettyText indent) := by
  induction readable generalizing indent with
  | scalar spells =>
    obtain ⟨same, printed⟩ := spells.printed
    rw [same, printed.2 indent]
    exact spells.spells _
  | @array depth items each ih =>
    cases items with
    | nil =>
      rw [reread]
      exact .array (.nil .nil)
    | cons item rest =>
      rw [reread, prettyText, prettyItems_eq]
      refine .array (listed_laidOut (blank_lineBreak _) (blank_lineBreak _) ']' ?_)
      intro inner member
      exact ih inner member (indent + 1)
  | @object depth members each ih =>
    cases members with
    | nil =>
      rw [reread]
      exact .object (.nil .nil)
    | cons member rest =>
      rw [reread, prettyText, prettyMembers_eq]
      refine .object (listed_laidOut (blank_lineBreak _) (blank_lineBreak _) '}' ?_)
      intro inner member
      have blank : Blank [' '] := by simp [Blank, isBlank]
      exact .mk .nil blank (ih inner member (indent + 1))

end Emend.Json
