import Emend.Json.Value
import Emend.Rule.Spec
import Mathlib.Data.List.Forall2

/-!
# The format of rule files

What a rule file may say and which rules it then lists, told without reading one. A rule is an
object with a pattern and perhaps further fields, or a list of the values of its fields; a rule file
is a list of rules, or a document that holds such a list.
-/

namespace Emend.RuleFile

/-! ## Values of fields -/

inductive IsText : Json → String → Prop where
  | string (text : String) : IsText (.string text) text

inductive IsOptionalText : Json → Option String → Prop where
  | string (text : String) : IsOptionalText (.string text) (some text)
  | null : IsOptionalText .null none

inductive NamesMode : String → Mode → Prop where
  | firstMatch : NamesMode "first-match" .firstMatch
  | firstMatchOnly : NamesMode "first-match-only" .firstMatch
  | replaceAll : NamesMode "replace-all" .replaceAll
  | eraseRegion : NamesMode "erase-region" .eraseRegion

/-- A value that stands for a mode: its name, alone or as the one key of an object. -/
inductive IsMode : Json → Mode → Prop where
  | name {name : String} {mode : Mode} (names : NamesMode name mode) : IsMode (.string name) mode
  | key {name : String} {mode : Mode} (names : NamesMode name mode) :
      IsMode (.object [(name, .null)]) mode

/-- What members say of a field: what the value under its key stands for, or its default where the
key is missing. -/
inductive Tells {α : Type} (members : List (String × Json)) (key : String)
    (Stands : Json → α → Prop) (default : α) : α → Prop where
  | given {value : Json} {meaning : α} (member : (key, value) ∈ members)
      (stands : Stands value meaning) : Tells members key Stands default meaning
  | missing (absent : ∀ member ∈ members, member.1 ≠ key) :
      Tells members key Stands default default

/-! ## Rules -/

def fieldOrder : List String := ["name", "pattern", "replacement", "mode", "until"]

/-- Members that say what is in a rule. Only the pattern must be given. -/
structure Describes (members : List (String × Json)) (spec : RuleSpec) : Prop where
  known : ∀ member ∈ members, member.1 ∈ fieldOrder
  name : Tells members "name" IsText "" spec.name
  pattern : ∃ value, ("pattern", value) ∈ members ∧ IsText value spec.pattern
  replacement : Tells members "replacement" IsText "" spec.replacement
  mode : Tells members "mode" IsMode .firstMatch spec.mode
  terminator : Tells members "until" IsOptionalText none spec.terminator

/-- A value that stands for a rule. A list gives the values of the first two to five fields. -/
inductive IsRule : Json → RuleSpec → Prop where
  | object {members : List (String × Json)} {spec : RuleSpec} (describes : Describes members spec) :
      IsRule (.object members) spec
  | list {values : List Json} {spec : RuleSpec} (two : 2 ≤ values.length)
      (five : values.length ≤ 5) (describes : Describes (fieldOrder.zip values) spec) :
      IsRule (.array values) spec

/-! ## Rule files -/

inductive IsRuleList : Json → List RuleSpec → Prop where
  | list {items : List Json} {specs : List RuleSpec} (each : List.Forall₂ IsRule items specs) :
      IsRuleList (.array items) specs

/-- A value that stands for a rule file: a list of rules, or an object that holds one and perhaps a
description. -/
inductive IsRuleFile : Json → List RuleSpec → Prop where
  | bare {value : Json} {specs : List RuleSpec} (list : IsRuleList value specs) :
      IsRuleFile value specs
  | document {members : List (String × Json)} {value : Json} {specs : List RuleSpec}
      (known : ∀ member ∈ members, member.1 = "description" ∨ member.1 = "rules")
      (description : ∀ value, ("description", value) ∈ members →
        ∃ text?, IsOptionalText value text?)
      (rules : ("rules", value) ∈ members) (list : IsRuleList value specs) :
      IsRuleFile (.object members) specs

end Emend.RuleFile
