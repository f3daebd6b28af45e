import Emend.Json.Printer
import Emend.Rule.Spec

/-!
# Writing rule files

A rule is written as an object of all its fields, where a terminator that is not set is left
out. A rule file is written as a bare list of rules or as a document.
-/

namespace Emend

def RuleSpec.toJson (spec : RuleSpec) : Json :=
  .object <|
    [("name", .string spec.name), ("pattern", .string spec.pattern),
      ("replacement", .string spec.replacement), ("mode", .string spec.mode.name)] ++
    spec.terminator.toList.map fun terminator => ("until", .string terminator)

namespace RuleFile

def listJson (specs : List RuleSpec) : Json := .array (specs.map RuleSpec.toJson)

def documentJson (specs : List RuleSpec) : Json := .object [("rules", listJson specs)]

def writeList (specs : List RuleSpec) : String := (listJson specs).compact

def writeDocument (specs : List RuleSpec) : String := (documentJson specs).compact

end RuleFile

end Emend
