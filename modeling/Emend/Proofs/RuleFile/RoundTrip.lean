import Emend.Proofs.Json.Reading
import Emend.Proofs.RuleFile.Acceptance
import Emend.RuleFile.Writer

/-!
# Rule files that were written

Rules that were written are read back as they were, field by field and in order, except that those
without a name are named for their place. What is printed stands for the rules in the format of rule
files, in whatever order the members of its objects are read. Rules that were read have names, so
writing and reading them changes nothing.
-/

namespace Emend

open Json (Readable reread collect)

/-! ## A rule -/

namespace RuleSpec

def members (spec : RuleSpec) : List (String × Json) :=
  [("name", .string spec.name), ("pattern", .string spec.pattern),
    ("replacement", .string spec.replacement), ("mode", .string spec.mode.name)] ++
  spec.terminator.toList.map fun terminator => ("until", .string terminator)

theorem toJson_eq (spec : RuleSpec) : spec.toJson = .object spec.members := rfl

theorem nodup_members (spec : RuleSpec) : (spec.members.map Prod.fst).Nodup := by
  unfold members
  cases spec.terminator <;> simp

theorem mem_members_iff {spec : RuleSpec} {member : String × Json} :
    member ∈ spec.members ↔
      member = ("name", .string spec.name) ∨ member = ("pattern", .string spec.pattern) ∨
      member = ("replacement", .string spec.replacement) ∨
      member = ("mode", .string spec.mode.name) ∨
      ∃ terminator, spec.terminator = some terminator ∧ member = ("until", .string terminator) := by
  unfold members
  cases spec.terminator <;> simp

/-- A rule is written by texts alone. -/
theorem exists_text_of_mem_members {spec : RuleSpec} {member : String × Json}
    (present : member ∈ spec.members) : ∃ text, member.2 = .string text := by
  rcases mem_members_iff.mp present with rfl | rfl | rfl | rfl | ⟨terminator, -, rfl⟩
  all_goals exact ⟨_, rfl⟩

theorem readable_toJson (spec : RuleSpec) (depth : Nat) : Readable (depth + 1) spec.toJson := by
  refine .object ?_
  intro member present
  obtain ⟨text, text_eq⟩ := exists_text_of_mem_members present
  rw [text_eq]
  exact .scalar (.string text)

theorem reread_toJson (spec : RuleSpec) :
    spec.toJson.reread = .object (collect [] spec.members) := by
  have same : ∀ member ∈ spec.members, (member.1, reread member.2) = member := by
    intro member present
    obtain ⟨text, text_eq⟩ := exists_text_of_mem_members present
    rw [Prod.ext_iff, text_eq, reread.eq_def]
    exact ⟨rfl, rfl⟩
  rw [toJson_eq, reread, List.map_congr_left same, List.map_id']

end RuleSpec

namespace RuleFile

theorem namesMode_name (mode : Mode) : NamesMode mode.name mode := by
  cases mode
  · exact .firstMatch
  · exact .replaceAll
  · exact .eraseRegion

/-- What the members of a written rule describe, in whatever order they stand. -/
theorem describes_of_perm {spec : RuleSpec} {members : List (String × Json)}
    (perm : members.Perm spec.members) : Describes members spec := by
  have among {member : String × Json} := (perm.mem_iff (a := member)).trans RuleSpec.mem_members_iff
  constructor
  case known =>
    intro member present
    rcases among.mp present with rfl | rfl | rfl | rfl | ⟨terminator, -, rfl⟩ <;>
      simp [fieldOrder]
  case name => exact .given (among.mpr (by simp)) (.string spec.name)
  case pattern => exact ⟨_, among.mpr (by simp), .string spec.pattern⟩
  case replacement => exact .given (among.mpr (by simp)) (.string spec.replacement)
  case mode => exact .given (among.mpr (by simp)) (.name (namesMode_name spec.mode))
  case terminator =>
    cases set : spec.terminator with
    | some terminator => exact .given (among.mpr (by simp [set])) (.string terminator)
    | none =>
      apply Tells.missing
      intro member present
      rcases among.mp present with rfl | rfl | rfl | rfl | ⟨terminator, other, -⟩
      · simp
      · simp
      · simp
      · simp
      · cases set.symm.trans other

theorem isRule_reread (spec : RuleSpec) : IsRule spec.toJson.reread spec := by
  rw [spec.reread_toJson]
  exact .object (describes_of_perm (Json.collect_perm spec.nodup_members))

/-! ## Rules -/

variable {specs : List RuleSpec}

theorem isRuleList_reread (specs : List RuleSpec) : IsRuleList (listJson specs).reread specs := by
  rw [listJson, reread, List.map_map]
  refine .list ?_
  rw [List.forall₂_map_left_iff, List.forall₂_same]
  exact fun spec _ => isRule_reread spec

theorem readable_listJson (specs : List RuleSpec) (depth : Nat) :
    Readable (depth + 2) (listJson specs) := by
  refine .array ?_
  intro item present
  obtain ⟨spec, -, rfl⟩ := List.mem_map.mp present
  exact spec.readable_toJson depth

def documentMembers (description? : Option String) (rules : Json) : List (String × Json) :=
  (description?.toList.map fun description => ("description", .string description)) ++
    [("rules", rules)]

/-- The values as which rules are written: a bare list, or a document. -/
inductive Holds (specs : List RuleSpec) : Json → Prop where
  | list : Holds specs (listJson specs)
  | document (description? : Option String) :
      Holds specs (.object (documentMembers description? (listJson specs)))

theorem mem_documentMembers {description? : Option String} {rules : Json} {member : String × Json} :
    member ∈ documentMembers description? rules ↔
      (∃ description, member = ("description", .string description) ∧
        description? = some description) ∨ member = ("rules", rules) := by
  cases description? <;> simp [documentMembers]

theorem nodup_documentMembers (description? : Option String) (rules : Json) :
    ((documentMembers description? rules).map Prod.fst).Nodup := by
  cases description? <;> simp [documentMembers]

theorem reread_document (description? : Option String) (rules : Json) :
    (Json.object (documentMembers description? rules)).reread =
      .object (collect [] (documentMembers description? rules.reread)) := by
  cases description? <;> simp [documentMembers, reread]

theorem Holds.readable {value : Json} (holds : Holds specs value) :
    Readable Json.maxDepth value := by
  cases holds with
  | list => exact readable_listJson specs 125
  | document description? =>
    refine .object ?_
    intro member present
    rcases mem_documentMembers.mp present with ⟨description, rfl, -⟩ | rfl
    · exact .scalar (.string description)
    · exact readable_listJson specs 124

/-- What is read back has the format of rule files and stands for the rules. -/
theorem Holds.isRuleFile {value : Json} (holds : Holds specs value) :
    IsRuleFile value.reread specs := by
  cases holds with
  | list => exact .bare (isRuleList_reread specs)
  | document description? =>
    let rules := (listJson specs).reread
    have perm : (collect [] (documentMembers description? rules)).Perm _ :=
      Json.collect_perm (nodup_documentMembers description? rules)
    have among {member : String × Json} := (perm.mem_iff (a := member)).trans mem_documentMembers
    rw [reread_document]
    refine .document ?_ ?_ (among.mpr (.inr rfl)) (isRuleList_reread specs)
    · intro member present
      rcases among.mp present with ⟨description, rfl, -⟩ | rfl
      · exact .inl rfl
      · exact .inr rfl
    · intro value present
      rcases among.mp present with ⟨description, same, -⟩ | same
      · cases same
        exact ⟨_, .string description⟩
      · simp at same

/-- Where the text of a file is read as the value of rules, it is read as the rules. -/
theorem parse_of_holds (origin : String) {value : Json} (holds : Holds specs value)
    {text : String} (read : Json.parse text = .ok value.reread) (some : specs ≠ []) :
    parse origin text = .ok (specs.mapIdx named) := by
  have keyed := Json.keyed_of_parse read
  unfold parse
  rw [read]
  show ofJson origin value.reread = _
  rw [ofJson_eq, (specsOf_eq_ok_iff keyed).mpr holds.isRuleFile]
  cases specs with
  | nil => exact absurd rfl some
  | cons spec rest => rfl

/-! ## Names -/

theorem named_of_parse {origin text : String} (read : parse origin text = .ok specs) :
    specs ≠ [] ∧ ∀ spec ∈ specs, spec.name ≠ "" := by
  obtain ⟨value, -, read⟩ := exists_of_bind_eq_ok read
  rw [ofJson_eq] at read
  split at read
  · cases read
  · cases read
  · rename_i spec rest _
    cases read
    exact ⟨by simp, names_mapIdx_named (spec :: rest)⟩

theorem mapIdx_named_of_names (names : ∀ spec ∈ specs, spec.name ≠ "") :
    specs.mapIdx named = specs := by
  apply List.ext_getElem (by simp)
  intro index inside _
  rw [List.getElem_mapIdx, named_eq, if_neg (names _ (List.getElem_mem _))]

/-- **Rule files round-trip.** Rules that are written, as a bare list or as the rules of a document,
are read back in order and with every field as it was, where the nameless one at an index is named
for the number after it. So rules that were read from a file are read from what is written of them,
under the names that they got. -/
theorem parse_write (origin : String) (first : RuleSpec) (rest : List RuleSpec) :
    let specs := first :: rest
    let result := specs.mapIdx fun index spec =>
      { spec with name := if spec.name = "" then "rule-" ++ toString (index + 1) else spec.name }
    parse origin (writeList specs) = .ok result ∧ parse origin (writeDocument specs) = .ok result ∧
    (∀ value, Holds specs value →
      parse origin value.compact = .ok result ∧ parse origin value.pretty = .ok result) ∧
    ∀ elsewhere text read, parse elsewhere text = .ok read → ∀ value, Holds read value →
      parse origin value.compact = .ok read ∧ parse origin value.pretty = .ok read := by
  intro specs result
  have parse_text {specs : List RuleSpec} {value : Json} (holds : Holds specs value)
      (some : specs ≠ []) : parse origin value.compact = .ok (specs.mapIdx named) ∧
      parse origin value.pretty = .ok (specs.mapIdx named) :=
    ⟨parse_of_holds origin holds (Json.parse_compact holds.readable) some,
      parse_of_holds origin holds (Json.parse_pretty holds.readable) some⟩
  have result_eq : specs.mapIdx named = result := mapIdx_named_eq specs
  have whole (value : Json) (holds : Holds specs value) :
      parse origin value.compact = .ok result ∧ parse origin value.pretty = .ok result := by
    rw [← result_eq]
    exact parse_text holds (List.cons_ne_nil first rest)
  refine ⟨(whole _ .list).1, (whole _ (.document none)).1, whole, ?_⟩
  intro elsewhere text read parsed value holds
  obtain ⟨some, names⟩ := named_of_parse parsed
  have kept := parse_text holds some
  rw [mapIdx_named_of_names names] at kept
  exact kept

end RuleFile

end Emend
