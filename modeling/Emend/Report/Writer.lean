import Emend.Json.Printer
import Emend.Report

/-!
# Writing reports

A report is written as a JSON list with one object for each outcome. The number of matches
without a terminator is left out when there are none.
-/

namespace Emend

def Outcome.toJson (outcome : Outcome) : Json :=
  .object <|
    [("rule_index", .nat outcome.ruleIndex), ("rule_name", .string outcome.ruleName),
      ("match_count", .nat outcome.matchCount), ("applied", .bool outcome.applied)] ++
    if outcome.unterminated = 0 then [] else [("unterminated", .nat outcome.unterminated)]

namespace Report

def toJson (report : Report) : Json := .array (report.outcomes.map Outcome.toJson)

def write (report : Report) : String := report.toJson.pretty

end Report

end Emend
