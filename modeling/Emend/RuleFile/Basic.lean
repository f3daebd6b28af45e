import Emend.Json.Reader
import Emend.RuleFile.Shape

/-!
# Rule files

A rule file is a JSON text that lists one rule at least. Rules without a name are named for
their place in the list.
-/

namespace Emend.RuleFile

inductive Fault where
  /-- It is no JSON text. -/
  | text (error : Json.Error)
  /-- Its value does not describe rules. -/
  | shape (fault : ShapeFault)
deriving DecidableEq, Repr

def Fault.message : Fault → String
  | text error => error.message
  | shape fault => fault.message

/-- Why a rule file is refused. The file goes by the path it was read from. -/
inductive Error where
  | faulty (origin : String) (fault : Fault)
  | noRules (origin : String)
deriving DecidableEq, Repr

def Error.message : Error → String
  | faulty origin fault => "Rule file " ++ origin ++ ": " ++ fault.message
  | noRules origin => "Invalid rule '" ++ origin ++ "': rule file defines no rules"

def defaultName (index : Nat) : String := "rule-" ++ toString (index + 1)

def named (index : Nat) (spec : RuleSpec) : RuleSpec :=
  if spec.name.isEmpty then { spec with name := defaultName index } else spec

def ofJson (origin : String) (value : Json) : Except Error (List RuleSpec) := do
  let specs ← (specsOf value).mapError fun fault => .faulty origin (.shape fault)
  if specs.isEmpty then throw (.noRules origin)
  return specs.mapIdx named

def parse (origin text : String) : Except Error (List RuleSpec) := do
  ofJson origin (← (Json.parse text).mapError fun error => .faulty origin (.text error))

end Emend.RuleFile
