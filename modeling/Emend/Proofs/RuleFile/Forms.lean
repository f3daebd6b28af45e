import Emend.Proofs.Checks
import Emend.Proofs.Json.Reading
import Emend.Proofs.RuleFile.Acceptance

/-!
# Forms of rule files

A rule file that is a list of rules and a document with this list, with or without a description,
mean the same. Both are read item by item, so that the first item that is no rule decides the fault
in both.
-/

namespace Emend

namespace RuleFile

/-- A document that holds rules and perhaps a description. -/
inductive Wraps (rules : Json) : Json → Prop where
  | plain : Wraps rules (.object [("rules", rules)])
  | described {description : Json} {text? : Option String} (is : IsOptionalText description text?) :
      Wraps rules (.object [("description", description), ("rules", rules)])

variable {items : List Json} {document : Json} {specs : List RuleSpec}

theorem readDocumentField_rules (rules? : Option (List RuleSpec)) (items : List Json) :
    readDocumentField rules? ("rules", .array items) = (items.mapM ruleOf).map some := by
  simp [readDocumentField, rulesOf]

/-- A description that is a text or null tells nothing. -/
theorem readDocumentField_description (rules? : Option (List RuleSpec)) {description : Json}
    {text? : Option String} (is : IsOptionalText description text?) :
    readDocumentField rules? ("description", description) = .ok rules? := by
  simp [readDocumentField, optionalTextOf_eq_ok_iff.mpr is, Except.map]

/-- A document lists the rules that it holds. -/
theorem specsOf_of_wraps (wraps : Wraps (.array items) document) :
    specsOf document = specsOf (.array items) := by
  have listed : specsOf (.object [("rules", .array items)]) = specsOf (.array items) := by
    have value_eq : specsOf (.array items) = items.mapM ruleOf := rfl
    rw [value_eq, specsOf, List.foldlM_cons, readDocumentField_rules]
    cases items.mapM ruleOf with
    | error fault => rfl
    | ok specs => rfl
  cases wraps with
  | plain => exact listed
  | described is =>
    rw [← listed, specsOf, List.foldlM_cons, readDocumentField_description none is, ok_bind, specsOf]

/-- What a text is read as depends on its value alone. -/
theorem parse_of_value {text : String} {value : Json} (origin : String)
    (parsed : Json.parse text = .ok value) : parse origin text = ofJson origin value := by
  unfold parse
  rw [parsed]
  rfl

structure ReadsItems (origin : String) (items : List Json)
    (result : Except Error (List RuleSpec)) : Prop where
  noRules : items = [] → result = .error (.noRules origin)
  /-- A rule without a name is named for its place, counted from one. -/
  rules : ∀ specs, items ≠ [] → List.Forall₂ IsRule items specs →
    result = .ok (specs.mapIdx fun index spec =>
      { spec with name := if spec.name = "" then "rule-" ++ toString (index + 1) else spec.name })
  /-- Of items that are no rules the first one decides the fault. -/
  faulty : ∀ item ∈ items, (¬ ∃ spec, IsRule item spec) →
    ∃ front first back fault, items = front ++ first :: back ∧
      (∀ earlier ∈ front, ∃ spec, IsRule earlier spec) ∧ (¬ ∃ spec, IsRule first spec) ∧
      ruleOf first = .error fault ∧ result = .error (.faulty origin (.shape fault))

theorem readsItems_ofJson (origin : String) (each : ∀ item ∈ items, item.Keyed) :
    ReadsItems origin items (ofJson origin (.array items)) := by
  have listed : specsOf (.array items) = items.mapM ruleOf := rfl
  rw [ofJson_eq, listed]
  refine ⟨?_, ?_, ?_⟩
  · rintro rfl
    rfl
  · intro specs present rules
    rw [(mapM_ruleOf_eq_ok_iff each).mpr rules]
    rw [← mapIdx_named_eq]
    cases rules with
    | nil => exact absurd rfl present
    | cons _ _ => rfl
  · intro item member noRule
    cases read : items.mapM ruleOf with
    | ok specs =>
      obtain ⟨spec, rule⟩ := exists_of_mapM_eq_ok read member
      exact absurd ⟨spec, (ruleOf_eq_ok_iff (each item member)).mp rule⟩ noRule
    | error fault =>
      obtain ⟨front, first, back, rfl, fine, fails⟩ := mapM_eq_error_iff.mp read
      obtain ⟨before, behind⟩ := List.forall_mem_append.mp each
      refine ⟨front, first, back, fault, rfl, ?_, ?_, fails, rfl⟩
      · intro earlier present
        obtain ⟨spec, rule⟩ := fine earlier present
        exact ⟨spec, (ruleOf_eq_ok_iff (before earlier present)).mp rule⟩
      · rintro ⟨spec, rule⟩
        cases fails.symm.trans
          ((ruleOf_eq_ok_iff (behind first (List.mem_cons_self ..))).mpr rule)

/-- **Both forms mean the same.** A document is read like the list of rules that it holds: with the
same rules, named for the same places, with the same refusal where there are none, and with the same
fault where one is malformed, which is the fault of the first such item. -/
theorem forms_agree {origin bare whole : String} (listed : Json.parse bare = .ok (.array items))
    (wrapped : Json.parse whole = .ok document) (wraps : Wraps (.array items) document) :
    parse origin whole = parse origin bare ∧ ReadsItems origin items (parse origin bare) := by
  rw [parse_of_value origin wrapped, parse_of_value origin listed]
  constructor
  · rw [ofJson_eq, ofJson_eq, specsOf_of_wraps wraps]
  · cases Json.keyed_of_parse listed with
    | array each => exact readsItems_ofJson origin each

def vowelAnd (other : Json) : List Json := [.array [.string "vowel", .string "a"], other]

/-- A document with these items, which begins with them. -/
def vowelAndDocument (other : Json) : Json :=
  .object [("rules", .array (vowelAnd other)), ("description", .null)]

theorem readable_vowelAnd {depth : Nat} {other : Json} (readable : other.Readable (depth + 1)) :
    Json.Readable (depth + 2) (.array (vowelAnd other)) := by
  have rule : Json.Readable (depth + 1) (.array [.string "vowel", .string "a"]) := by
    refine .array (List.forall_mem_cons.mpr ⟨.scalar (.string "vowel"), ?_⟩)
    exact List.forall_mem_singleton.mpr (.scalar (.string "a"))
  exact .array (List.forall_mem_cons.mpr ⟨rule, List.forall_mem_singleton.mpr readable⟩)

theorem parse_vowelAnd {other : Json} (readable : ∀ depth, other.Readable (depth + 2))
    (same : other.reread = other) :
    Json.parse (Json.array (vowelAnd other)).compact = .ok (.array (vowelAnd other)) ∧
      Json.parse (vowelAndDocument other).pretty =
        .ok (.object [("description", .null), ("rules", .array (vowelAnd other))]) := by
  have same : (Json.array (vowelAnd other)).reread = .array (vowelAnd other) := by
    simp [vowelAnd, Json.reread, same]
  have sorted : (vowelAndDocument other).reread =
      .object [("description", .null), ("rules", .array (vowelAnd other))] := by
    have before : "description" < "rules" := by decide
    simp [vowelAndDocument, Json.reread, same, Json.collect, Json.insertMember, before]
  have whole : Json.Readable 127 (vowelAndDocument other) := by
    refine .object (List.forall_mem_cons.mpr ⟨readable_vowelAnd (readable 123), ?_⟩)
    exact List.forall_mem_singleton.mpr (.scalar .null)
  constructor
  · rw [Json.parse_compact (readable_vowelAnd (readable 124)), same]
  · rw [Json.parse_pretty whole, sorted]

def unnamed : Json := .array [.string "", .string "x"]

/-- Behind the rule for a vowel, a rule without a name is the second one, and null is a fault. -/
theorem forms_agree_vowelAnd :
    (parse "r.json" (vowelAndDocument unnamed).pretty =
        parse "r.json" (Json.array (vowelAnd unnamed)).compact ∧
      parse "r.json" (Json.array (vowelAnd unnamed)).compact =
        .ok [.firstMatch "vowel" "a" "", .firstMatch "rule-2" "x" ""]) ∧
    parse "r.json" (vowelAndDocument .null).pretty =
        parse "r.json" (Json.array (vowelAnd .null)).compact ∧
      ∃ fault, parse "r.json" (Json.array (vowelAnd .null)).compact =
        .error (.faulty "r.json" (.shape fault)) := by
  refine ⟨?unnamed, ?null⟩
  case unnamed =>
    have readable (depth : Nat) : unnamed.Readable (depth + 2) := by
      refine .array (List.forall_mem_cons.mpr ⟨.scalar (.string ""), ?_⟩)
      exact List.forall_mem_singleton.mpr (.scalar (.string "x"))
    obtain ⟨listed, wrapped⟩ := parse_vowelAnd readable (by simp [unnamed, Json.reread])
    obtain ⟨same, reads⟩ := forms_agree listed wrapped (.described .null)
    refine ⟨same, reads.rules [.firstMatch "vowel" "a" "", .firstMatch "" "x" ""]
      (List.cons_ne_nil _ _) ?_⟩
    cases Json.keyed_of_parse listed with
    | array each => exact (mapM_ruleOf_eq_ok_iff each).mp (by rfl)
  case null =>
    obtain ⟨listed, wrapped⟩ := parse_vowelAnd (fun _ => .scalar .null) (by simp [Json.reread])
    obtain ⟨same, reads⟩ := forms_agree listed wrapped (.described .null)
    have noRule : ¬ ∃ spec, IsRule .null spec := by
      rintro ⟨spec, ⟨⟩⟩
    obtain ⟨_, _, _, fault, -, -, -, -, fails⟩ :=
      reads.faulty .null (List.mem_cons_of_mem _ (List.mem_singleton_self _)) noRule
    exact ⟨same, fault, fails⟩

end RuleFile

end Emend
