import Emend.Proofs.Disk.Backup
import Emend.Proofs.Pipeline.Compilation
import Emend.Proofs.Revision.SourceKept
import Emend.Proofs.Scan.PutBack

/-!
# Revisions that change nothing

A revision with rules that put their regions back delivers the text that it has read. It reports no
change, and a source that it delivers to holds what it held. One that it only reads from is lost
where its backup is made, and nowhere else.
-/

namespace Emend

/-- A transformation that leaves every text as it was. -/
def Transformation.Keeps (transformation : Transformation) : Prop :=
  ∀ context buffer, (transformation.emend context buffer).text = buffer

theorem Run.buffer_steps_of_keeps {transformations : List Transformation} (context : Context)
    (run : Run) (index : Nat)
    (keep : ∀ transformation ∈ transformations, transformation.Keeps) :
    (run.steps context index transformations).buffer = run.buffer := by
  induction transformations generalizing run index with
  | nil => rfl
  | cons transformation rest ih =>
    obtain ⟨first, others⟩ := List.forall_mem_cons.mp keep
    rw [Run.steps, ih _ _ others]
    exact first context run.buffer

namespace Pipeline

variable {limit : Nat} {specs : List RuleSpec} {pipeline : Pipeline}

/-- Rules that put their regions back compile to transformations that keep every text. -/
theorem keeps_of_ofSpecs (putBack : ∀ spec ∈ specs, spec.PutsBack)
    (compiles : ofSpecs limit specs = .ok pipeline) :
    ∀ transformation ∈ pipeline.transformations, transformation.Keeps := by
  intro transformation member
  obtain ⟨spec, inside, rule, compiled, rfl⟩ := exists_compile_of_mem compiles member
  exact fun _ => Rule.text_emend_of_putsBack (putBack spec inside) compiled

end Pipeline

namespace Revision

variable {revision : Revision} {specs : List RuleSpec} {source output : String}
variable {disk after : Disk} {content : ByteArray} {place : Disk.Location}

theorem Emends.buffer_eq_of_putBack {text : String} {emended : Emended}
    (putBack : ∀ spec ∈ specs, spec.PutsBack)
    (emends : Emends revision specs source disk text emended) : emended.buffer = text := by
  obtain ⟨pipeline, compiled, rfl⟩ := emends.compiled
  exact Run.buffer_steps_of_keeps _ _ _ (Pipeline.keeps_of_ofSpecs putBack compiled)

/-- What a revision that succeeds says of changes, it says of what its rules make of the source. -/
theorem Course.changed_eq {summary : Summary}
    (course : Course revision specs source disk (.ok summary) after) :
    ∃ text emended, Emends revision specs source disk text emended ∧
      summary.changed = decide (emended.buffer ≠ text) := by
  cases dryRun : revision.dryRun with
  | true =>
    obtain ⟨text, emended, emends, rfl, -⟩ := course.emends_of_dry dryRun
    exact ⟨text, emended, emends, rfl⟩
  | false =>
    obtain ⟨text, emended, backup, emends, -, rfl⟩ := course.delivery_of_ok dryRun
    exact ⟨text, emended, emends, rfl⟩

/-! ## Delivering what is there -/

/-- A backup is made beside the output. -/
theorem Prepared.node?_eq {room ready : Disk} {backup : Option String}
    (prepared : Prepared revision output room backup ready) (names : room.Names output place) :
    ready.node? place = room.node? place := by
  cases prepared with
  | plain => rfl
  | copied _ made =>
    obtain ⟨_, beside, -, wrote⟩ := Disk.exists_wrote_of_copy made
    rw [wrote.node?_eq, if_neg (names.ne_backup wrote.named)]

/-- A delivery of what the output holds leaves it there. -/
theorem Delivery.holds {result : Except Failure (Option String)}
    (delivery : Delivery revision output content disk result after)
    (names : (disk.roomFor output).Names output place)
    (holds : disk.node? place = some (.file content)) :
    after.node? place = some (.file content) := by
  have held : (disk.roomFor output).node? place = some (.file content) :=
    (Disk.gains_makeChain disk (Path.above output)).node?_eq_file_iff.mpr holds
  cases delivery with
  | crowded => exact held
  | uncopied => exact held
  | unwritten _ prepared refused =>
    rw [refused.alike.node?_eq, prepared.node?_eq names, held]
  | written _ prepared written =>
    obtain ⟨written_place, wrote⟩ := written.wrote
    rw [wrote.node?_eq, if_pos (names.unique (prepared.names wrote.named))]

/-- A backup that takes the place of the source is made of another file. -/
theorem Overwrites.apart (overwrites : revision.Overwrites specs source output disk content)
    (tree : disk.IsTree) (located : disk.locate source = .ok place)
    (holds : disk.node? place = some (.file content)) :
    ¬ (disk.roomFor output).Names output place := by
  obtain ⟨other, found, taken⟩ := overwrites.leads
  cases located.symm.trans found
  have gains := Disk.gains_makeChain disk (Path.above output)
  have held := gains.node?_eq_file_iff.mpr holds
  intro names
  exact names.ne_backup (Disk.names_of_locate (gains.tree tree) taken held) rfl

/-- Nor does the backup of a source take its place. -/
theorem not_overwrites_self (tree : disk.IsTree) (held : disk.read source = .ok content) :
    ¬ revision.Overwrites specs source source disk content := by
  obtain ⟨place, located, holds, names⟩ := Disk.exists_names_of_read tree held
  have grows := (Disk.gains_makeChain disk (Path.above source)).grows
  intro overwrites
  exact overwrites.apart tree located holds (names.mono grows)

/-- A source whose text is delivered is kept, unless the backup of the output takes its place. -/
theorem Course.read_iff_of_putBack {result : Except Failure Summary}
    (course : Course revision specs source disk result after)
    (putBack : ∀ spec ∈ specs, spec.PutsBack) (tree : disk.IsTree)
    (held : disk.read source = .ok content) :
    after.read source = .ok content ↔
      ¬ revision.Overwrites specs source (revision.outputFor source) disk content := by
  obtain ⟨place, located, holds⟩ := Disk.read_eq_ok_iff.mp held
  rw [course.read_eq_ok_iff located]
  constructor
  · intro kept overwrites
    obtain ⟨text, emended, emends⟩ := overwrites.emends
    obtain ⟨delivered, delivery, -⟩ := course.delivery emends overwrites.wet
    have apart := overwrites.apart tree located holds
    exact delivery.lost tree overwrites located holds apart kept
  · intro spared
    cases course with
    | uncompiled => exact holds
    | unread => exact holds
    | unapplied => exact holds
    | dry => exact holds
    | @delivered text emended _ _ emends wet delivery =>
      -- An output that names the source is delivered what the source holds.
      by_cases names : (disk.roomFor (revision.outputFor source)).Names
          (revision.outputFor source) place
      · have same : emended.buffer.toUTF8 = content := by
          rw [emends.buffer_eq_of_putBack putBack]
          exact Except.ok.inj ((Disk.readText_eq_ok_iff.mp emends.loaded).symm.trans held)
        rw [same] at delivery
        exact delivery.holds names holds
      · exact delivery.kept_of_not_overwrites emends wet located holds names spared

/-- **Putting regions back is the identity.** A rule whose replacement is its region compiles where
its patterns do, and leaves every buffer as it was. A revision with such rules reports no change. In
place it leaves the bytes of its source as they were, whether it succeeds or fails; with a separate
output it does so too, unless the backup of the output takes the place of the source. -/
theorem putting_back_is_identity (revision : Revision) (specs : List RuleSpec) (source : String)
    (session : Session) :
    (∀ (limit : Nat) (spec : RuleSpec), spec.PutsBack →
      ((∃ rule, Rule.compile limit spec = .ok rule) ↔
        (∃ pattern, Rule.compilePattern spec.displayName limit spec.pattern = .ok pattern) ∧
          ∃ terminator,
            Rule.compileTerminator spec.displayName limit spec.terminator = .ok terminator) ∧
      ∀ rule, Rule.compile limit spec = .ok rule → ∀ buffer, (rule.emend buffer).text = buffer) ∧
    ((∀ spec ∈ specs, spec.PutsBack) → session.disk.IsTree →
      let ended := (revision.run specs source).run session
      (∀ summary, ended.1 = .ok summary → summary.changed = false) ∧
      ∀ content, session.disk.read source = .ok content →
        (revision.output = none → ended.2.disk.read source = .ok content) ∧
        (ended.2.disk.read source = .ok content ↔
          ¬ revision.Overwrites specs source (revision.outputFor source) session.disk content)) := by
  refine ⟨?rules, ?files⟩
  case rules =>
    intro limit spec putsBack
    exact ⟨Rule.exists_compile_iff_of_putsBack putsBack,
      fun rule => Rule.text_emend_of_putsBack putsBack⟩
  case files =>
    intro putBack tree
    dsimp only
    cases ran : (revision.run specs source).run session with
    | mk result after =>
      have course := course_of_run ran
      refine ⟨?unchanged, ?kept⟩
      case unchanged =>
        rintro summary rfl
        obtain ⟨text, emended, emends, changed_eq⟩ := course.changed_eq
        rw [changed_eq, emends.buffer_eq_of_putBack putBack]
        exact decide_eq_false (fun differs => differs rfl)
      case kept =>
        intro content held
        have kept_iff := course.read_iff_of_putBack putBack tree held
        refine ⟨?_, kept_iff⟩
        intro inPlace
        have back : revision.outputFor source = source := by
          unfold outputFor
          rw [inPlace]
          rfl
        rw [back] at kept_iff
        exact kept_iff.mpr (not_overwrites_self tree held)

def sameLetters : List RuleSpec := [.replaceAll "letters" "[a-z]" RuleSpec.wholeRegion]

theorem sameLetters_putBack : ∀ spec ∈ sameLetters, spec.PutsBack := by
  intro spec member
  cases List.mem_singleton.mp member
  exact ⟨rfl, nofun⟩

/-- Three letters are replaced, and nothing has changed. -/
theorem putting_back_is_identity_letters :
    ∃ rule summary after,
      Rule.compile Pattern.defaultWeightLimit
        (.replaceAll "letters" "[a-z]" RuleSpec.wholeRegion) = .ok rule ∧
      (rule.emend "new").text = "new" ∧
      (careful.run sameLetters "a.bak").run ⟨Disk.twoFiles, []⟩ = (.ok summary, after) ∧
      summary.report.outcomes.map (·.matchCount) = [3] ∧ summary.changed = false ∧
      after.disk.read "a.bak" = .ok "new".toUTF8 := by
  have compiles : (Rule.compile Pattern.defaultWeightLimit
      (.replaceAll "letters" "[a-z]" RuleSpec.wholeRegion)).isOk = true := by decide +kernel
  have counted : ((careful.run sameLetters "a.bak").run ⟨Disk.twoFiles, []⟩).1.toOption.any
      (fun summary => summary.report.outcomes.map (·.matchCount) = [3]) = true := by decide +kernel
  have tree := Disk.twoFiles_isTree
  have held := Disk.read_twoFiles
  generalize Disk.twoFiles = disk at counted tree held ⊢
  obtain ⟨rules, files⟩ := putting_back_is_identity careful sameLetters "a.bak" ⟨disk, []⟩
  obtain ⟨unchanged, kept⟩ := files sameLetters_putBack tree
  have stays := (kept _ held).1 rfl
  generalize (careful.run sameLetters "a.bak").run ⟨disk, []⟩ = ended at counted unchanged stays ⊢
  simp only [Option.any_eq_true, decide_eq_true_eq] at counted
  obtain ⟨summary, succeeds, counts⟩ := counted
  obtain ⟨result, after⟩ := ended
  cases eq_ok_of_toOption succeeds
  obtain ⟨rule, compiled⟩ := exists_of_isOk compiles
  have same := (rules _ _ (sameLetters_putBack _ (List.mem_singleton_self _))).2 rule compiled "new"
  exact ⟨rule, summary, after, compiled, same, rfl, counts, unchanged summary rfl, stays⟩

def aside : Revision := { output := some "a", backup := true }

/-- Rules that put their regions back do not keep a source that a backup takes the place of. -/
theorem exists_source_not_put_back :
    (∀ spec ∈ sameLetters, spec.PutsBack) ∧ Disk.twoFiles.IsTree ∧
    Disk.twoFiles.read "a.bak" = .ok "new".toUTF8 ∧
    ∃ summary after,
      (aside.run sameLetters "a.bak").run ⟨Disk.twoFiles, []⟩ = (.ok summary, after) ∧
      after.disk.readText "a.bak" = .ok "old" := by
  have succeeds : ((aside.run sameLetters "a.bak").run ⟨Disk.twoFiles, []⟩).1.isOk = true := by
    decide +kernel
  have lost : (((aside.run sameLetters "a.bak").run ⟨Disk.twoFiles, []⟩).2.disk.readText
      "a.bak").toOption = some "old" := by decide +kernel
  refine ⟨sameLetters_putBack, Disk.twoFiles_isTree, Disk.read_twoFiles, ?_⟩
  generalize (aside.run sameLetters "a.bak").run ⟨Disk.twoFiles, []⟩ = ended at succeeds lost ⊢
  obtain ⟨result, after⟩ := ended
  obtain ⟨summary, rfl⟩ := exists_of_isOk succeeds
  exact ⟨summary, after, rfl, eq_ok_of_toOption lost⟩

end Revision

end Emend
