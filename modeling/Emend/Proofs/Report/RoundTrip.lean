import Emend.Proofs.Cli.Console

/-!
# Reports that are read back

A report that was written can be read back: its text is a list of objects, and what each of them has
to say about an outcome is found under its keys, in whatever order they stand. A number of matches
without a terminator that is missing is zero. So nothing is lost in what a run prints, and no two
reports are printed alike.
-/

namespace Emend

/-! ## Members by key -/

namespace Json

theorem lookup_of_mem {members : List (String × Json)} (nodup : (members.map Prod.fst).Nodup)
    {key : String} {value : Json} (present : (key, value) ∈ members) :
    members.lookup key = some value := by
  induction members with
  | nil => cases present
  | cons member rest ih =>
    obtain ⟨fresh, nodup⟩ := List.nodup_cons.mp nodup
    rcases List.mem_cons.mp present with rfl | behind
    · exact List.lookup_cons_self
    · have other : (key == member.1) = false := by
        refine beq_false_of_ne ?_
        rintro rfl
        exact fresh (List.mem_map.mpr ⟨_, behind, rfl⟩)
      rw [List.lookup_cons, other]
      exact ih nodup behind

theorem lookup_of_perm {members others : List (String × Json)} (perm : members.Perm others)
    (nodup : (others.map Prod.fst).Nodup) (key : String) :
    members.lookup key = others.lookup key := by
  have nodup' := (perm.map Prod.fst).nodup_iff.mpr nodup
  cases found : others.lookup key with
  | none =>
    refine List.lookup_eq_none_iff.mpr ?_
    intro member present
    exact List.lookup_eq_none_iff.mp found member (perm.mem_iff.mp present)
  | some value =>
    obtain ⟨front, back, same, -⟩ := List.lookup_eq_some_iff.mp found
    have present : (key, value) ∈ others := by simp [same]
    exact lookup_of_mem nodup' (perm.mem_iff.mpr present)

/-! ## Reading values -/

def nat? : Json → Option Nat
  | number (.natural value) => some value
  | _ => none

def string? : Json → Option String
  | string value => some value
  | _ => none

def bool? : Json → Option Bool
  | bool value => some value
  | _ => none

def outcome? : Json → Option Outcome
  | object members => do
    let ruleIndex ← (← members.lookup "rule_index").nat?
    let ruleName ← (← members.lookup "rule_name").string?
    let matchCount ← (← members.lookup "match_count").nat?
    let applied ← (← members.lookup "applied").bool?
    let unterminated ← ((members.lookup "unterminated").getD (nat 0)).nat?
    return { ruleIndex, ruleName, matchCount, applied, unterminated }
  | _ => none

def report? : Json → Option Report
  | array items => return ⟨← items.mapM outcome?⟩
  | _ => none

end Json

/-! ## Reading what was written -/

namespace Outcome

variable {outcome : Outcome}

theorem outcome?_toJson (outcome : Outcome) : outcome.toJson.outcome? = some outcome := by
  obtain ⟨ruleIndex, ruleName, matchCount, applied, unterminated⟩ := outcome
  rw [toJson_eq, members]
  cases unterminated <;>
    simp [Json.outcome?, List.lookup_cons, Json.nat?, Json.string?, Json.bool?, Json.nat]

theorem IsEntry.outcome?_eq {value : Json} (entry : outcome.IsEntry value) :
    value.outcome? = some outcome := by
  obtain ⟨members, rfl, perm⟩ := entry
  have found := Json.lookup_of_perm perm outcome.nodup_members
  have read := outcome.outcome?_toJson
  rw [toJson_eq] at read
  unfold Json.outcome? at read ⊢
  simp only [found]
  exact read

end Outcome

namespace Report

variable {report : Report}

theorem mapM_outcome?_of_entries {outcomes : List Outcome} {entries : List Json}
    (alike : List.Forall₂ Outcome.IsEntry outcomes entries) :
    entries.mapM Json.outcome? = some outcomes := by
  induction alike with
  | nil => rfl
  | cons entry others ih =>
    rw [List.mapM_cons, entry.outcome?_eq, ih]
    rfl

/-- A text tells of a report in JSON: it spells a list with an object for each outcome, in order,
is read as that list also with its last line ended, and the list is read as the report. -/
def ToldIn (report : Report) (text : String) : Prop :=
  ∃ entries, Json.Spells Json.maxDepth (.array entries) text.toList ∧
    Json.parse text = .ok (.array entries) ∧ Json.parse (text ++ "\n") = .ok (.array entries) ∧
    List.Forall₂ Outcome.IsEntry report.outcomes entries ∧
    (Json.array entries).report? = some report

theorem toldIn_write (fits : ∀ outcome ∈ report.outcomes, outcome.Fits) :
    report.ToldIn report.write := by
  obtain ⟨entries, parsed, parsedLine, alike⟩ := exists_entries_of_fits fits
  have readable := readable_toJson fits
  have reread_eq : report.toJson.reread = .array entries :=
    Except.ok.inj ((Json.parse_pretty readable).symm.trans parsed)
  have spelled := Json.spells_prettyText readable 0
  rw [reread_eq] at spelled
  refine ⟨entries, ?_, parsed, parsedLine, alike, ?_⟩
  · unfold write Json.pretty
    rwa [String.toList_ofList]
  · rw [Json.report?, mapM_outcome?_of_entries alike]
    rfl

/-- A text tells of one report at most. -/
theorem ToldIn.unique {other : Report} {text : String} (told : report.ToldIn text)
    (toldOther : other.ToldIn text) : other = report := by
  obtain ⟨entries, -, parsed, -, -, read⟩ := told
  obtain ⟨entries', -, parsed', -, -, read'⟩ := toldOther
  cases parsed.symm.trans parsed'
  exact Option.some.inj (read'.symm.trans read)

/-- **Reports are printed without loss.** Whatever numbers of a machine word and names a report
holds, a run that is to print it puts its text behind the first line. The text tells of the report,
and is not that of another one. -/
theorem write_is_lossless (report : Report) (fits : ∀ outcome ∈ report.outcomes, outcome.Fits) :
    (∀ (options : Cli.Options) (summary : Summary) (console : Cli.Console),
      options.report = true → summary.report = report →
      (Cli.tell options summary).run console = (.ok (), { console with
        printed := console.printed ++
          (Cli.headline options summary ++ (report.write ++ "\n")) })) ∧
    report.ToldIn report.write ∧
    ∀ other : Report, (∀ outcome ∈ other.outcomes, outcome.Fits) →
      other.write = report.write → other = report := by
  have told := toldIn_write fits
  refine ⟨?_, told, ?_⟩
  · intro options summary console wanted same
    rw [Cli.run_tell, Cli.appendix, if_pos wanted, same]
  · intro other fits' same
    have told' := toldIn_write fits'
    rw [same] at told'
    exact told.unique told'

/-- A report on names with quotes, a backslash, a control character and a character of two UTF-16
units, with regions that no terminator ends in one of them. -/
def quoted : Report :=
  ⟨[⟨0, "say \"no\" \\ 𝕏", 2, true, 0⟩, ⟨1, "\u0001é", 0, false, 3⟩]⟩

theorem write_is_lossless_quoted :
    (∀ outcome ∈ quoted.outcomes, outcome.Fits) ∧
    quoted.ToldIn quoted.write ∧
    ∀ other : Report, (∀ outcome ∈ other.outcomes, outcome.Fits) →
      other.write = quoted.write → other = quoted := by
  have fits : ∀ outcome ∈ quoted.outcomes, outcome.Fits := by
    intro outcome present
    rcases List.mem_cons.mp present with rfl | present
    · exact ⟨by decide, by decide, by decide⟩
    · cases List.mem_singleton.mp present
      exact ⟨by decide, by decide, by decide⟩
  exact ⟨fits, (write_is_lossless quoted fits).2⟩

end Report

end Emend
