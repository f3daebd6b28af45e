import Emend.Json.Value
import Emend.Rule.Spec
import Emend.Text.Quoted

/-!
# The shape of rule files

A rule file holds a list of rules, or a document with such a list and perhaps a description. A
rule is an object of named fields, or a list of their values in a fixed order. Fields that are
left out have defaults, except the pattern; a field with another name is refused.
-/

namespace Emend.RuleFile

/-! ## Faults -/

inductive Found where
  | null
  | bool (value : Bool)
  | number (value : Json.Number)
  | string (value : String)
  | list
  | map
deriving DecidableEq, Repr

def Found.ofJson : Json → Found
  | .null => null
  | .bool value => bool value
  | .number value => number value
  | .string value => string value
  | .array _ => list
  | .object _ => map

def Found.message : Found → String
  | null => "null"
  | bool value => "boolean `" ++ toString value ++ "`"
  | number (.float isNegative magnitude) =>
    "floating point `" ++ String.ofList (Json.Number.float isNegative magnitude).text ++ "`"
  | number value => "integer `" ++ String.ofList value.text ++ "`"
  | string value => "string " ++ Text.quoted value
  | list => "sequence"
  | map => "map"

inductive Expected where
  | string
  | list
  | rule
  | document
  | mode
  | nothing
deriving DecidableEq, Repr

def Expected.message : Expected → String
  | string => "a string"
  | list => "a sequence"
  | rule => "struct RuleSpec"
  | document => "struct RuleDocument"
  | mode => "string or map"
  | nothing => "unit"

inductive ShapeFault where
  | wrongKind (found : Found) (expected : Expected)
  /-- A mode given as an object that does not have exactly one key. -/
  | notOneKey
  | unknownMode (name : String)
  | unknownRuleField (name : String)
  | unknownDocumentField (name : String)
  | missingField (name : String)
  /-- A rule given as a list that ends before the pattern. -/
  | tooFewValues
  /-- A rule given as a list of more values than there are fields. -/
  | tooManyValues (count : Nat)
deriving DecidableEq, Repr

/-- The fields of a rule, in the order of a rule given as a list. -/
def ruleFields : List String := ["name", "pattern", "replacement", "mode", "until"]

def listed (names : List String) : String :=
  ", ".intercalate (names.map fun name => "`" ++ name ++ "`")

def ShapeFault.message : ShapeFault → String
  | wrongKind found expected =>
    "invalid type: " ++ found.message ++ ", expected " ++ expected.message
  | notOneKey => "invalid value: map, expected map with a single key"
  | unknownMode name =>
    "unknown variant `" ++ name ++ "`, expected one of " ++
      listed (Mode.acceptedNames.map Prod.fst)
  | unknownRuleField name =>
    "unknown field `" ++ name ++ "`, expected one of " ++ listed ruleFields
  | unknownDocumentField name =>
    "unknown field `" ++ name ++ "`, expected `description` or `rules`"
  | missingField name => "missing field `" ++ name ++ "`"
  | tooFewValues =>
    "invalid length 1, expected struct RuleSpec with " ++ toString ruleFields.length ++ " elements"
  | tooManyValues count =>
    "invalid length " ++ toString count ++ ", expected fewer elements in array"

/-! ## Values of fields -/

def wrong (value : Json) (expected : Expected) : ShapeFault :=
  .wrongKind (.ofJson value) expected

def textOf : Json → Except ShapeFault String
  | .string text => .ok text
  | other => .error (wrong other .string)

/-- The text that a value stands for; the null value stands for none. -/
def optionalTextOf : Json → Except ShapeFault (Option String)
  | .null => .ok none
  | other => (textOf other).map some

def modeNamed (name : String) : Except ShapeFault Mode :=
  match Mode.ofName? name with
  | some mode => .ok mode
  | none => .error (.unknownMode name)

/-- The mode that a value stands for: its name, or an object with the name as its one key. -/
def modeOf : Json → Except ShapeFault Mode
  | .string name => modeNamed name
  | .object [(name, value)] => do
    let mode ← modeNamed name
    match value with
    | .null => return mode
    | other => throw (wrong other .nothing)
  | .object _ => .error .notOneKey
  | other => .error (wrong other .mode)

/-! ## Rules -/

def readField (spec : RuleSpec) (field : String × Json) : Except ShapeFault RuleSpec :=
  match field with
  | ("name", value) => (textOf value).map fun name => { spec with name }
  | ("pattern", value) => (textOf value).map fun pattern => { spec with pattern }
  | ("replacement", value) => (textOf value).map fun replacement => { spec with replacement }
  | ("mode", value) => (modeOf value).map fun mode => { spec with mode }
  | ("until", value) => (optionalTextOf value).map fun terminator => { spec with terminator }
  | (name, _) => .error (.unknownRuleField name)

/-- Read fields of a rule in order; the first faulty one decides the fault. -/
def readFields (fields : List (String × Json)) : Except ShapeFault RuleSpec :=
  fields.foldlM readField {}

def ruleOf : Json → Except ShapeFault RuleSpec
  | .object fields => do
    let spec ← readFields fields
    if fields.any fun field => field.1 = "pattern" then return spec
    else throw (.missingField "pattern")
  | .array values => do
    let spec ← readFields (ruleFields.zip values)
    if values.length < 2 then throw .tooFewValues
    else if ruleFields.length < values.length then throw (.tooManyValues values.length)
    else return spec
  | other => .error (wrong other .rule)

/-! ## Documents -/

def rulesOf : Json → Except ShapeFault (List RuleSpec)
  | .array items => items.mapM ruleOf
  | other => .error (wrong other .list)

/-- Read one field of a document; the rules may be given once. -/
def readDocumentField (rules? : Option (List RuleSpec)) (field : String × Json) :
    Except ShapeFault (Option (List RuleSpec)) :=
  match field with
  | ("description", value) => (optionalTextOf value).map fun _ => rules?
  | ("rules", value) => (rulesOf value).map some
  | (name, _) => .error (.unknownDocumentField name)

def specsOf : Json → Except ShapeFault (List RuleSpec)
  | .array items => rulesOf (.array items)
  | .object fields => do
    match ← fields.foldlM readDocumentField none with
    | some rules => return rules
    | none => throw (.missingField "rules")
  | other => .error (wrong other .document)

end Emend.RuleFile
