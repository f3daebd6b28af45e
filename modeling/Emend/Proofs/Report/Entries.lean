import Emend.Proofs.Json.Reading
import Emend.Report.Writer
import Mathlib.Data.List.Forall2

/-!
# Reports that were written

A report is written as a list of objects, one for each outcome and in the same order. An object has
a member for each number, name and mark of its outcome; the number of matches without a terminator
is left out when there are none. What is written is read back as such a list, whatever the order in
which the members of an object are read, as long as the numbers fit a machine word.
-/

namespace Emend

open Json (Readable SpellsScalar reread collect)

namespace Outcome

variable {outcome : Outcome}

def members (outcome : Outcome) : List (String × Json) :=
  [("rule_index", .nat outcome.ruleIndex), ("rule_name", .string outcome.ruleName),
    ("match_count", .nat outcome.matchCount), ("applied", .bool outcome.applied)] ++
  if outcome.unterminated = 0 then [] else [("unterminated", .nat outcome.unterminated)]

theorem toJson_eq (outcome : Outcome) : outcome.toJson = .object outcome.members := rfl

/-- A value is an object with the members of an outcome, in some order. -/
def IsEntry (outcome : Outcome) (value : Json) : Prop :=
  ∃ members, value = .object members ∧ members.Perm outcome.members

/-- The numbers of an outcome fit a machine word. -/
structure Fits (outcome : Outcome) : Prop where
  ruleIndex : outcome.ruleIndex < Json.wordBound
  matchCount : outcome.matchCount < Json.wordBound
  unterminated : outcome.unterminated < Json.wordBound

theorem mem_members_iff {member : String × Json} :
    member ∈ outcome.members ↔
      member = ("rule_index", .nat outcome.ruleIndex) ∨
      member = ("rule_name", .string outcome.ruleName) ∨
      member = ("match_count", .nat outcome.matchCount) ∨
      member = ("applied", .bool outcome.applied) ∨
      outcome.unterminated ≠ 0 ∧ member = ("unterminated", .nat outcome.unterminated) := by
  unfold members
  by_cases none : outcome.unterminated = 0 <;> simp [none]

theorem nodup_members (outcome : Outcome) : (outcome.members.map Prod.fst).Nodup := by
  unfold members
  by_cases none : outcome.unterminated = 0 <;> simp [none]

theorem Fits.exists_spells (fits : outcome.Fits) {member : String × Json}
    (present : member ∈ outcome.members) : ∃ text, SpellsScalar member.2 text := by
  rcases mem_members_iff.mp present with rfl | rfl | rfl | rfl | ⟨-, rfl⟩
  · exact ⟨_, .number (.natural fits.ruleIndex)⟩
  · exact ⟨_, .string outcome.ruleName⟩
  · exact ⟨_, .number (.natural fits.matchCount)⟩
  · cases outcome.applied
    · exact ⟨_, .no⟩
    · exact ⟨_, .yes⟩
  · exact ⟨_, .number (.natural fits.unterminated)⟩

theorem Fits.readable (fits : outcome.Fits) (depth : Nat) : Readable (depth + 1) outcome.toJson := by
  refine .object ?_
  intro member present
  obtain ⟨text, spells⟩ := fits.exists_spells present
  exact .scalar spells

/-- What is read back of an outcome has its members. -/
theorem Fits.isEntry_reread (fits : outcome.Fits) : outcome.IsEntry outcome.toJson.reread := by
  have same : ∀ member ∈ outcome.members, (member.1, reread member.2) = member := by
    intro member present
    obtain ⟨text, spells⟩ := fits.exists_spells present
    rw [spells.printed.1]
  refine ⟨collect [] outcome.members, ?_, Json.collect_perm outcome.nodup_members⟩
  rw [toJson_eq, reread, List.map_congr_left same, List.map_id']

end Outcome

namespace Report

variable {report : Report}

theorem readable_toJson (fits : ∀ outcome ∈ report.outcomes, outcome.Fits) :
    Readable Json.maxDepth report.toJson := by
  refine .array ?_
  intro item present
  obtain ⟨outcome, member, rfl⟩ := List.mem_map.mp present
  exact (fits outcome member).readable 125

/-- A report is read back as a list of its outcomes, also with its last line ended. -/
theorem exists_entries_of_fits (fits : ∀ outcome ∈ report.outcomes, outcome.Fits) :
    ∃ entries, Json.parse report.write = .ok (.array entries) ∧
      Json.parse (report.write ++ "\n") = .ok (.array entries) ∧
      List.Forall₂ Outcome.IsEntry report.outcomes entries := by
  have readable := readable_toJson fits
  have reread_eq : report.toJson.reread =
      .array (report.outcomes.map fun outcome => outcome.toJson.reread) := by
    rw [toJson, reread, List.map_map]
    rfl
  refine ⟨_, reread_eq ▸ Json.parse_pretty readable, reread_eq ▸ Json.parse_pretty_newline readable,
    ?_⟩
  rw [List.forall₂_map_right_iff, List.forall₂_same]
  exact fun outcome member => (fits outcome member).isEntry_reread

end Report

end Emend
