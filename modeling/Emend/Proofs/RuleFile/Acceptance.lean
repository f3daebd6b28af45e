import Emend.Proofs.Json.Keys
import Emend.Proofs.RuleFile.Format
import Emend.RuleFile.Basic
import Mathlib.Data.List.Nodup

/-!
# What is accepted as a rule file

Reading a rule file succeeds if and only if its value has the format and lists a rule at least, and
it then yields the rules that the value stands for. Members are read one after another; under
distinct keys what they say of one field does not depend on the others.
-/

namespace Emend.RuleFile

/-! ## Members in turn -/

namespace Tells

variable {α : Type} {members : List (String × Json)} {key : String} {Stands : Json → α → Prop}
variable {default : α}

/-- What a member says of its field has to stand. -/
theorem stands_of_mem {value : Json} {meaning : α} (distinct : (members.map Prod.fst).Nodup)
    (tells : Tells members key Stands default meaning) (member : (key, value) ∈ members) :
    Stands value meaning := by
  cases tells with
  | given other stands =>
    cases List.inj_on_of_nodup_map distinct member other rfl
    exact stands
  | missing absent => exact absurd rfl (absent _ member)

theorem unique {first second : α}
    (functional : ∀ value first second, Stands value first → Stands value second → first = second)
    (distinct : (members.map Prod.fst).Nodup) (tells : Tells members key Stands default first)
    (again : Tells members key Stands default second) : first = second := by
  cases tells with
  | given member stands => exact functional _ _ _ stands (again.stands_of_mem distinct member)
  | missing absent =>
    cases again with
    | given member _ => exact absurd rfl (absent _ member)
    | missing _ => rfl

theorem cons {other : String} {value : Json} {meaning : α} (apart : other ≠ key)
    (tells : Tells members key Stands default meaning) :
    Tells ((other, value) :: members) key Stands default meaning := by
  cases tells with
  | given member stands => exact .given (List.mem_cons_of_mem _ member) stands
  | missing absent => exact .missing (List.forall_mem_cons.mpr ⟨apart, absent⟩)

/-- Behind a member with its key nothing more is said of a field. -/
theorem eq_default {meaning : α} (absent : key ∉ members.map Prod.fst)
    (tells : Tells members key Stands default meaning) : meaning = default := by
  cases tells with
  | given member _ => exact absurd (List.mem_map_of_mem member) absent
  | missing _ => rfl

end Tells

section Folding

variable {ε σ : Type} {read : σ → String × Json → Except ε σ} {members : List (String × Json)}

/-- Where members are read one after another, each of them was read. -/
theorem exists_read_of_foldlM {start last : σ} (folded : members.foldlM read start = .ok last) :
    ∀ member ∈ members, ∃ before after, read before member = .ok after := by
  induction members generalizing start with
  | nil => simp
  | cons head rest ih =>
    rw [List.foldlM_cons] at folded
    obtain ⟨next, first, folded⟩ := exists_of_bind_eq_ok folded
    exact List.forall_mem_cons.mpr ⟨⟨start, next, first⟩, ih folded⟩

/-- Members that can be read whatever was read before can be read one after another. -/
theorem exists_foldlM (readable : ∀ member ∈ members, ∀ start, ∃ next, read start member = .ok next)
    (start : σ) : ∃ last, members.foldlM read start = .ok last := by
  induction members generalizing start with
  | nil => exact ⟨start, rfl⟩
  | cons head rest ih =>
    obtain ⟨first, others⟩ := List.forall_mem_cons.mp readable
    obtain ⟨next, front⟩ := first start
    rw [List.foldlM_cons, front]
    exact ih others next

/-- What members say of a field is what is there when they were read, if no other key touches it. -/
theorem tells_of_foldlM {α : Type} {key : String} {Stands : Json → α → Prop} (field : σ → α)
    (puts : ∀ {start other value next}, read start (other, value) = .ok next →
      if other = key then Stands value (field next) else field next = field start)
    (distinct : (members.map Prod.fst).Nodup) {start last : σ}
    (folded : members.foldlM read start = .ok last) :
    Tells members key Stands (field start) (field last) := by
  induction members generalizing start with
  | nil =>
    cases folded
    exact .missing nofun
  | cons head rest ih =>
    obtain ⟨other, value⟩ := head
    obtain ⟨absent, distinct⟩ := List.nodup_cons.mp distinct
    rw [List.foldlM_cons] at folded
    obtain ⟨next, first, folded⟩ := exists_of_bind_eq_ok folded
    have behind := ih distinct folded
    have put := puts first
    split at put
    · rename_i same
      subst same
      rw [behind.eq_default absent]
      exact .given (List.mem_cons_self ..) put
    · rename_i apart
      rw [← put]
      exact behind.cons apart

end Folding

/-! ## Values of fields -/

theorem textOf_eq_ok_iff {value : Json} {text : String} :
    textOf value = .ok text ↔ IsText value text := by
  constructor
  · intro read
    cases value with
    | string text =>
      cases read
      exact .string text
    | _ => cases read
  · rintro ⟨⟩
    rfl

theorem optionalTextOf_eq_ok_iff {value : Json} {text? : Option String} :
    optionalTextOf value = .ok text? ↔ IsOptionalText value text? := by
  constructor
  · intro read
    cases value with
    | null =>
      cases read
      exact .null
    | string text =>
      cases read
      exact .string text
    | _ => cases read
  · rintro (_ | _)
    · rfl
    · rfl

theorem modeNamed_eq_ok_iff {name : String} {mode : Mode} :
    modeNamed name = .ok mode ↔ NamesMode name mode := by
  constructor
  · intro read
    unfold modeNamed at read
    split at read
    · rename_i found
      cases read
      obtain ⟨front, back, same, -⟩ := List.lookup_eq_some_iff.mp found
      have accepted : (name, mode) ∈ Mode.acceptedNames := by
        rw [same]
        simp
      simp only [Mode.acceptedNames, List.mem_cons, Prod.mk.injEq, List.not_mem_nil, or_false]
        at accepted
      rcases accepted with ⟨rfl, rfl⟩ | ⟨rfl, rfl⟩ | ⟨rfl, rfl⟩ | ⟨rfl, rfl⟩
      · exact .firstMatch
      · exact .firstMatchOnly
      · exact .replaceAll
      · exact .eraseRegion
    · cases read
  · rintro (_ | _ | _ | _) <;> rfl

theorem modeOf_eq_ok_iff {value : Json} {mode : Mode} :
    modeOf value = .ok mode ↔ IsMode value mode := by
  constructor
  · intro read
    unfold modeOf at read
    split at read
    · exact .name (modeNamed_eq_ok_iff.mp read)
    · obtain ⟨named, names, read⟩ := exists_of_bind_eq_ok read
      split at read
      · cases read
        exact .key (modeNamed_eq_ok_iff.mp names)
      · cases read
    · cases read
    · cases read
  · intro is
    cases is with
    | name names => exact modeNamed_eq_ok_iff.mpr names
    | key names =>
      rw [modeOf, modeNamed_eq_ok_iff.mpr names]
      rfl

/-! ## Rules -/

/-- What a member does to the rule read so far: the field of its key becomes what its value stands
for, and the others stay. -/
structure Puts (spec : RuleSpec) (key : String) (value : Json) (next : RuleSpec) : Prop where
  known : key ∈ fieldOrder
  name : if key = "name" then IsText value next.name else next.name = spec.name
  pattern : if key = "pattern" then IsText value next.pattern else next.pattern = spec.pattern
  replacement :
    if key = "replacement" then IsText value next.replacement
    else next.replacement = spec.replacement
  mode : if key = "mode" then IsMode value next.mode else next.mode = spec.mode
  terminator :
    if key = "until" then IsOptionalText value next.terminator
    else next.terminator = spec.terminator

theorem puts_of_readField {spec next : RuleSpec} {key : String} {value : Json}
    (read : readField spec (key, value) = .ok next) : Puts spec key value next := by
  unfold readField at read
  split at read
  · rename_i same
    cases same
    obtain ⟨name, is, rfl⟩ := exists_of_map_eq_ok read
    have stands := textOf_eq_ok_iff.mp is
    constructor <;> simp [fieldOrder, stands]
  · rename_i same
    cases same
    obtain ⟨pattern, is, rfl⟩ := exists_of_map_eq_ok read
    have stands := textOf_eq_ok_iff.mp is
    constructor <;> simp [fieldOrder, stands]
  · rename_i same
    cases same
    obtain ⟨replacement, is, rfl⟩ := exists_of_map_eq_ok read
    have stands := textOf_eq_ok_iff.mp is
    constructor <;> simp [fieldOrder, stands]
  · rename_i same
    cases same
    obtain ⟨mode, is, rfl⟩ := exists_of_map_eq_ok read
    have stands := modeOf_eq_ok_iff.mp is
    constructor <;> simp [fieldOrder, stands]
  · rename_i same
    cases same
    obtain ⟨terminator, is, rfl⟩ := exists_of_map_eq_ok read
    have stands := optionalTextOf_eq_ok_iff.mp is
    constructor <;> simp [fieldOrder, stands]
  · cases read

section Rules

variable {members : List (String × Json)} {spec : RuleSpec}

/-- Members that are read and give a pattern describe the rule that is read. -/
theorem describes_of_readFields (distinct : (members.map Prod.fst).Nodup)
    (read : readFields members = .ok spec) (given : ∃ value, ("pattern", value) ∈ members) :
    Describes members spec := by
  constructor
  case known =>
    intro member present
    obtain ⟨before, after, read⟩ := exists_read_of_foldlM read member present
    exact (puts_of_readField read).known
  case name =>
    exact tells_of_foldlM RuleSpec.name (fun read => (puts_of_readField read).name) distinct read
  case pattern =>
    have tells : Tells members "pattern" IsText "" spec.pattern :=
      tells_of_foldlM RuleSpec.pattern (fun read => (puts_of_readField read).pattern) distinct read
    obtain ⟨value, member⟩ := given
    exact ⟨value, member, tells.stands_of_mem distinct member⟩
  case replacement =>
    exact tells_of_foldlM RuleSpec.replacement (fun read => (puts_of_readField read).replacement)
      distinct read
  case mode =>
    exact tells_of_foldlM RuleSpec.mode (fun read => (puts_of_readField read).mode) distinct read
  case terminator =>
    exact tells_of_foldlM RuleSpec.terminator (fun read => (puts_of_readField read).terminator)
      distinct read

/-- Members that describe a rule describe no other one. -/
theorem Describes.unique {other : RuleSpec} (distinct : (members.map Prod.fst).Nodup)
    (describes : Describes members spec) (again : Describes members other) : spec = other := by
  have text (value : Json) (first second : String) (is : IsText value first)
      (also : IsText value second) : first = second := by
    cases is
    cases also
    rfl
  have mode (value : Json) (first second : Mode) (is : IsMode value first)
      (also : IsMode value second) : first = second :=
    Except.ok.inj ((modeOf_eq_ok_iff.mpr is).symm.trans (modeOf_eq_ok_iff.mpr also))
  have optional (value : Json) (first second : Option String) (is : IsOptionalText value first)
      (also : IsOptionalText value second) : first = second :=
    Except.ok.inj
      ((optionalTextOf_eq_ok_iff.mpr is).symm.trans (optionalTextOf_eq_ok_iff.mpr also))
  obtain ⟨value, member, is⟩ := describes.pattern
  obtain ⟨_, otherMember, also⟩ := again.pattern
  cases List.inj_on_of_nodup_map distinct member otherMember rfl
  have name_eq := describes.name.unique text distinct again.name
  have pattern_eq := text value _ _ is also
  have replacement_eq := describes.replacement.unique text distinct again.replacement
  have mode_eq := describes.mode.unique mode distinct again.mode
  have terminator_eq := describes.terminator.unique optional distinct again.terminator
  cases spec
  cases other
  simp_all

theorem Describes.readFields (distinct : (members.map Prod.fst).Nodup)
    (describes : Describes members spec) : readFields members = .ok spec := by
  have readable : ∀ member ∈ members, ∀ start, ∃ next, readField start member = .ok next := by
    rintro ⟨key, value⟩ member start
    have known := describes.known _ member
    simp only [fieldOrder, List.mem_cons, List.not_mem_nil, or_false] at known
    rcases known with rfl | rfl | rfl | rfl | rfl
    · have is := describes.name.stands_of_mem distinct member
      simp [readField, textOf_eq_ok_iff.mpr is, Except.map]
    · obtain ⟨_, other, is⟩ := describes.pattern
      cases List.inj_on_of_nodup_map distinct member other rfl
      simp [readField, textOf_eq_ok_iff.mpr is, Except.map]
    · have is := describes.replacement.stands_of_mem distinct member
      simp [readField, textOf_eq_ok_iff.mpr is, Except.map]
    · have is := describes.mode.stands_of_mem distinct member
      simp [readField, modeOf_eq_ok_iff.mpr is, Except.map]
    · have is := describes.terminator.stands_of_mem distinct member
      simp [readField, optionalTextOf_eq_ok_iff.mpr is, Except.map]
  obtain ⟨last, read⟩ := exists_foldlM readable {}
  obtain ⟨value, member, -⟩ := describes.pattern
  have again := describes_of_readFields distinct read ⟨value, member⟩
  rw [describes.unique distinct again]
  exact read

/-- Values in order stand under the first keys in order. -/
theorem map_fst_zip_sublist (keys : List String) (values : List Json) :
    ((keys.zip values).map Prod.fst).Sublist keys := by
  induction keys generalizing values with
  | nil => simp
  | cons key rest ih =>
    cases values with
    | nil => simp
    | cons value values => simpa using ih values

theorem nodup_fieldOrder_zip (values : List Json) :
    ((fieldOrder.zip values).map Prod.fst).Nodup :=
  (map_fst_zip_sublist fieldOrder values).nodup (by decide)

theorem ruleOf_eq_ok_iff {value : Json} (keyed : value.Keyed) :
    ruleOf value = .ok spec ↔ IsRule value spec := by
  constructor
  · intro read
    unfold ruleOf at read
    split at read
    · rename_i members
      obtain ⟨_, described, read⟩ := exists_of_bind_eq_ok read
      split at read
      · rename_i given
        cases read
        cases keyed with
        | object ascending each =>
          obtain ⟨⟨key, value⟩, member, same⟩ := List.any_eq_true.mp given
          cases of_decide_eq_true same
          exact .object (describes_of_readFields ascending.nodup described ⟨value, member⟩)
      · cases read
    · rename_i values
      obtain ⟨_, described, read⟩ := exists_of_bind_eq_ok read
      split at read
      · cases read
      · rename_i two
        split at read
        · cases read
        · rename_i five
          cases read
          refine .list (Nat.le_of_not_lt two) (Nat.le_of_not_lt five) ?_
          refine describes_of_readFields (nodup_fieldOrder_zip values) described ?_
          -- The second value stands under the pattern's key.
          match values, two with
          | _ :: second :: _, _ => exact ⟨second, by simp [fieldOrder]⟩
          | [], two => simp at two
          | [_], two => simp at two
    · cases read
  · intro is
    cases is with
    | @object members _ describes =>
      cases keyed with
      | object ascending each =>
        obtain ⟨value, member, -⟩ := describes.pattern
        have given : (members.any fun member => member.1 = "pattern") = true :=
          List.any_eq_true.mpr ⟨_, member, decide_eq_true rfl⟩
        rw [ruleOf, describes.readFields ascending.nodup, ok_bind, if_pos given]
        rfl
    | @list values _ two five describes =>
      have read : readFields (ruleFields.zip values) = .ok spec :=
        describes.readFields (nodup_fieldOrder_zip values)
      have fits : ¬ ruleFields.length < values.length := Nat.not_lt_of_le five
      rw [ruleOf, read, ok_bind, if_neg (Nat.not_lt_of_le two), if_neg fits]
      rfl

end Rules

/-! ## Documents -/

theorem mapM_ruleOf_eq_ok_iff {items : List Json} (each : ∀ item ∈ items, item.Keyed)
    {specs : List RuleSpec} :
    items.mapM ruleOf = .ok specs ↔ List.Forall₂ IsRule items specs := by
  induction items generalizing specs with
  | nil =>
    rw [List.forall₂_nil_left_iff]
    constructor
    · intro read
      cases read
      rfl
    · rintro rfl
      rfl
  | cons item rest ih =>
    obtain ⟨first, others⟩ := List.forall_mem_cons.mp each
    rw [List.mapM_cons, List.forall₂_cons_left_iff]
    constructor
    · intro read
      obtain ⟨spec, front, read⟩ := exists_of_bind_eq_ok read
      obtain ⟨later, behind, read⟩ := exists_of_bind_eq_ok read
      cases read
      exact ⟨spec, later, (ruleOf_eq_ok_iff first).mp front, (ih others).mp behind, rfl⟩
    · rintro ⟨spec, later, front, behind, rfl⟩
      rw [(ruleOf_eq_ok_iff first).mpr front, (ih others).mpr behind]
      rfl

theorem rulesOf_eq_ok_iff {value : Json} (keyed : value.Keyed) {specs : List RuleSpec} :
    rulesOf value = .ok specs ↔ IsRuleList value specs := by
  constructor
  · intro read
    cases keyed with
    | array each => exact .list ((mapM_ruleOf_eq_ok_iff each).mp read)
    | _ => cases read
  · rintro ⟨listed⟩
    cases keyed with
    | array each => exact (mapM_ruleOf_eq_ok_iff each).mpr listed

structure PutsRules (rules? : Option (List RuleSpec)) (key : String) (value : Json)
    (next : Option (List RuleSpec)) : Prop where
  known : key = "description" ∨ key = "rules"
  description : key = "description" → ∃ text?, IsOptionalText value text?
  rules :
    if key = "rules" then ∃ specs, next = some specs ∧ rulesOf value = .ok specs
    else next = rules?

theorem putsRules_of_readDocumentField {rules? next : Option (List RuleSpec)} {key : String}
    {value : Json} (read : readDocumentField rules? (key, value) = .ok next) :
    PutsRules rules? key value next := by
  unfold readDocumentField at read
  split at read
  · rename_i same
    cases same
    obtain ⟨text?, is, rfl⟩ := exists_of_map_eq_ok read
    have stands := optionalTextOf_eq_ok_iff.mp is
    constructor <;> simp
    exact ⟨text?, stands⟩
  · rename_i same
    cases same
    obtain ⟨specs, listed, rfl⟩ := exists_of_map_eq_ok read
    constructor <;> simp [listed]
  · cases read

section Documents

variable {members : List (String × Json)} {specs : List RuleSpec}

/-- What a document that is read tells of its rules. -/
theorem tells_of_readDocument (distinct : (members.map Prod.fst).Nodup)
    {rules? : Option (List RuleSpec)}
    (read : members.foldlM readDocumentField none = .ok rules?) :
    Tells members "rules" (fun value rules? => ∃ specs, rules? = some specs ∧
      rulesOf value = .ok specs) none rules? :=
  tells_of_foldlM id (fun read => (putsRules_of_readDocumentField read).rules) distinct read

/-- A document is read if and only if its members are known, its description is a text or null, and
its rules are read. -/
theorem readDocument_eq_ok_iff (distinct : (members.map Prod.fst).Nodup) :
    members.foldlM readDocumentField none = .ok (some specs) ↔
      (∀ member ∈ members, member.1 = "description" ∨ member.1 = "rules") ∧
      (∀ value, ("description", value) ∈ members → ∃ text?, IsOptionalText value text?) ∧
      ∃ value, ("rules", value) ∈ members ∧ rulesOf value = .ok specs := by
  constructor
  · intro read
    have puts := exists_read_of_foldlM read
    refine ⟨?_, ?_, ?_⟩
    · intro member present
      obtain ⟨before, after, read⟩ := puts member present
      exact (putsRules_of_readDocumentField read).known
    · intro value present
      obtain ⟨before, after, read⟩ := puts _ present
      exact (putsRules_of_readDocumentField read).description rfl
    · cases tells_of_readDocument distinct read with
      | given member stands =>
        obtain ⟨_, same, listed⟩ := stands
        cases same
        exact ⟨_, member, listed⟩
  · rintro ⟨known, description, value, member, listed⟩
    have readable : ∀ member ∈ members, ∀ start, ∃ next,
        readDocumentField start member = .ok next := by
      rintro ⟨key, other⟩ present start
      rcases known _ present with rfl | rfl
      · obtain ⟨text?, is⟩ := description other present
        simp [readDocumentField, optionalTextOf_eq_ok_iff.mpr is, Except.map]
      · cases List.inj_on_of_nodup_map distinct present member rfl
        simp [readDocumentField, listed, Except.map]
    obtain ⟨rules?, read⟩ := exists_foldlM readable none
    obtain ⟨_, rfl, again⟩ := (tells_of_readDocument distinct read).stands_of_mem distinct member
    cases listed.symm.trans again
    exact read

end Documents

/-- The value of a rule file is read if and only if it has the format. -/
theorem specsOf_eq_ok_iff {value : Json} (keyed : value.Keyed) {specs : List RuleSpec} :
    specsOf value = .ok specs ↔ IsRuleFile value specs := by
  cases value with
  | array items =>
    refine (rulesOf_eq_ok_iff keyed).trans ⟨.bare, ?_⟩
    rintro ⟨list⟩
    exact list
  | object members =>
    cases keyed with
    | object ascending each =>
      have distinct := ascending.nodup
      constructor
      · intro read
        obtain ⟨rules?, read, found⟩ := exists_of_bind_eq_ok read
        cases rules? with
        | none => cases found
        | some rules =>
          cases found
          obtain ⟨known, description, value, member, listed⟩ :=
            (readDocument_eq_ok_iff distinct).mp read
          exact .document known description member
            ((rulesOf_eq_ok_iff (each _ member)).mp listed)
      · intro is
        cases is with
        | bare list => cases list
        | document known description member list =>
          have listed := (rulesOf_eq_ok_iff (each _ member)).mpr list
          rw [specsOf, (readDocument_eq_ok_iff distinct).mpr
            ⟨known, description, _, member, listed⟩]
          rfl
  | _ =>
    constructor
    · intro read
      cases read
    · rintro (⟨⟨⟩⟩)

/-! ## Rule files -/

theorem ofJson_eq (origin : String) (value : Json) :
    ofJson origin value = match specsOf value with
      | .error fault => .error (.faulty origin (.shape fault))
      | .ok [] => .error (.noRules origin)
      | .ok (spec :: rest) => .ok ((spec :: rest).mapIdx named) := by
  unfold ofJson
  cases specsOf value with
  | error fault => rfl
  | ok specs => cases specs <;> rfl

theorem named_eq (index : Nat) (spec : RuleSpec) :
    named index spec = { spec with
      name := if spec.name = "" then "rule-" ++ toString (index + 1) else spec.name } := by
  unfold named
  split_ifs <;> simp_all [defaultName]

theorem mapIdx_named_eq (specs : List RuleSpec) :
    specs.mapIdx named = specs.mapIdx fun index spec =>
      { spec with name := if spec.name = "" then "rule-" ++ toString (index + 1) else spec.name } :=
  congrArg specs.mapIdx (funext fun index => funext fun spec => named_eq index spec)

theorem name_named_ne (index : Nat) (spec : RuleSpec) : (named index spec).name ≠ "" := by
  unfold named
  split
  · simp [defaultName]
  · rename_i present
    simpa using present

theorem names_mapIdx_named (specs : List RuleSpec) :
    ∀ spec ∈ specs.mapIdx named, spec.name ≠ "" := by
  intro spec member
  obtain ⟨index, inside, rfl⟩ := List.mem_mapIdx.mp member
  exact name_named_ne index _

/-- **Rule files are read by their format.** A text that is no JSON is refused as such. Where it has
a value, reading yields rules if and only if the value stands for rules, one at least, and yields
these, where a rule without a name is named for its place. A value with the format and no rule is
refused for having none, and a value without the format for its shape. -/
theorem parse_accepts_format (origin text : String) :
    match Json.parse text with
    | .error error => parse origin text = .error (.faulty origin (.text error))
    | .ok value =>
      value.Keyed ∧
      (∀ result, parse origin text = .ok result ↔
        ∃ specs, IsRuleFile value specs ∧ specs ≠ [] ∧ result = specs.mapIdx named) ∧
      (∀ result, parse origin text = .ok result → ∀ spec ∈ result, spec.name ≠ "") ∧
      (parse origin text = .error (.noRules origin) ↔ IsRuleFile value []) ∧
      ((∃ fault, parse origin text = .error (.faulty origin (.shape fault))) ↔
        ¬ ∃ specs, IsRuleFile value specs) := by
  cases parsed : Json.parse text with
  | error error =>
    unfold parse
    rw [parsed]
    rfl
  | ok value =>
    have keyed := Json.keyed_of_parse parsed
    have parse_eq : parse origin text = ofJson origin value := by
      unfold parse
      rw [parsed]
      rfl
    have stands {specs : List RuleSpec} : specsOf value = .ok specs ↔ IsRuleFile value specs :=
      specsOf_eq_ok_iff keyed
    dsimp only
    rw [parse_eq, ofJson_eq]
    simp only [← stands]
    refine ⟨keyed, ?_⟩
    cases specsOf value with
    | error fault => simp
    | ok specs =>
      cases specs with
      | nil => simp
      | cons spec rest =>
        refine ⟨?_, ?_, by simp, by simp⟩
        · intro result
          constructor
          · rintro ⟨⟩
            exact ⟨_, rfl, List.cons_ne_nil _ _, rfl⟩
          · rintro ⟨_, ⟨⟩, -, rfl⟩
            rfl
        · rintro result ⟨⟩
          exact names_mapIdx_named (spec :: rest)

end Emend.RuleFile
