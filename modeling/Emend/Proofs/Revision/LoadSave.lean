import Emend.Proofs.Pipeline.Inert
import Emend.Proofs.Revision.PutBack
import Emend.Proofs.Revision.WriteModes
import Emend.Proofs.Text.Utf8

/-!
# Loading and saving

Loading a file and saving a text undo each other. A file can be loaded just when its bytes are
well-formed, and then saving its text leaves its bytes; a text that was saved is what is loaded. So
a revision of which no rule applies leaves the bytes of its source as they are, whatever they are.
-/

namespace Emend

/-! ## Bytes and texts -/

namespace Disk

variable {disk after : Disk} {path text : String} {content : ByteArray}

theorem Alike.read_eq (alike : disk.Alike after) (held : disk.read path = .ok content) :
    after.read path = .ok content := by
  obtain ⟨place, located, holds⟩ := read_eq_ok_iff.mp held
  exact read_eq_ok_iff.mpr ⟨place, locate_mono alike.grows located, (alike.node?_eq _).trans holds⟩

/-- Bytes are read as a text if and only if they are well-formed. -/
theorem exists_readText_iff (held : disk.read path = .ok content) :
    (∃ text, disk.readText path = .ok text) ↔ Utf8.WellFormed content.data.toList := by
  rw [← Utf8.isValidUTF8_iff_wellFormed]
  constructor
  · rintro ⟨text, loaded⟩
    cases held.symm.trans (readText_eq_ok_iff.mp loaded)
    exact text.isValidUTF8
  · intro valid
    exact ⟨String.fromUTF8 content valid, readText_eq_ok_iff.mpr held⟩

theorem readText_eq_notText (held : disk.read path = .ok content)
    (malformed : ¬ Utf8.WellFormed content.data.toList) :
    disk.readText path = .error .notText := by
  rw [← Utf8.isValidUTF8_iff_wellFormed] at malformed
  unfold readText
  rw [held, ok_bind]
  unfold String.fromUTF8?
  rw [dif_neg malformed]
  rfl

end Disk

namespace Revision

variable {revision : Revision} {pipeline : Pipeline} {session after : Session}
variable {path text source : String} {content : ByteArray}

/-! ## One file -/

theorem run_load_eq_ok_iff :
    (Action.load path).run session = (.ok text, after) ↔
      session.disk.readText path = .ok text ∧ after = session := by
  rw [Action.run_load, Prod.mk.injEq]
  constructor
  · rintro ⟨loaded, rfl⟩
    exact ⟨eq_ok_of_mapError_eq_ok loaded, rfl⟩
  · rintro ⟨loaded, rfl⟩
    rw [loaded]
    exact ⟨rfl, rfl⟩

theorem run_load_of_write (revision : Revision)
    (written : (revision.write path text).run session = (.ok (), after)) :
    (Action.load path).run after = (.ok text, after) := by
  rcases write_cases written with ⟨-, written⟩ | ⟨failure, clash, -⟩
  · obtain ⟨place, wrote⟩ := written.wrote
    exact run_load_eq_ok_iff.mpr ⟨Disk.readText_eq_ok_iff.mpr wrote.read, rfl⟩
  · cases clash

/-- Writing what a file holds leaves it there. It succeeds unless the path of a temporary file is
needed and too long. -/
theorem write_back (revision : Revision) (tree : session.disk.IsTree)
    (held : session.disk.read path = .ok text.toUTF8) :
    let ended := (revision.write path text).run session
    ended.2.disk.read path = .ok text.toUTF8 ∧
      (ended.1 = .ok () ↔ revision.writeMode = .atomic → session.disk.HasRoomBeside path) := by
  obtain ⟨place, -, holds, names⟩ := Disk.exists_names_of_read tree held
  dsimp only
  cases ran : (revision.write path text).run session with
  | mk result ended =>
    rcases write_cases ran with ⟨rfl, written⟩ | ⟨failure, rfl, refused⟩
    · obtain ⟨written_place, wrote⟩ := written.wrote
      refine ⟨wrote.read, fun _ atomic => ?_, fun _ => rfl⟩
      rw [atomic] at written
      exact written.hasRoomBeside
    · obtain ⟨atomic, -, tooLong, -⟩ := refused.tooLong names (Disk.ne_directory_of_file holds)
      refine ⟨refused.alike.read_eq held, nofun, ?_⟩
      intro room
      exact absurd (room atomic) (Nat.not_lt_of_le tooLong)

/-- Loading a file stands for its bytes being well-formed, and saving what was loaded leaves them. -/
structure Reloads (session : Session) (path : String) (content : ByteArray) : Prop where
  loads : (∃ text, (Action.load path).run session = (.ok text, session)) ↔
    Utf8.WellFormed content.data.toList
  refuses : ¬ Utf8.WellFormed content.data.toList →
    (Action.load path).run session = (.error (.disk path .notText), session)
  saved : ∀ text, (Action.load path).run session = (.ok text, session) →
    ∃ ended, (Action.save path text).run session = (.ok (), ended) ∧
      ended.disk.read path = .ok content
  savedAtomic : ∀ text, (Action.load path).run session = (.ok text, session) →
    let ended := (Action.saveAtomic path text).run session
    ended.2.disk.read path = .ok content ∧ (ended.1 = .ok () ↔ session.disk.HasRoomBeside path)

theorem reloads_of_read (tree : session.disk.IsTree) (held : session.disk.read path = .ok content) :
    Reloads session path content where
  loads := by
    simp only [run_load_eq_ok_iff, and_true]
    exact Disk.exists_readText_iff held
  refuses := by
    intro malformed
    rw [Action.run_load, Disk.readText_eq_notText held malformed]
    rfl
  saved := by
    intro text loaded
    cases held.symm.trans (Disk.readText_eq_ok_iff.mp (run_load_eq_ok_iff.mp loaded).1)
    obtain ⟨kept, succeeds⟩ := write_back { writeMode := .inPlace } tree held
    exact ⟨_, Prod.ext (succeeds.mpr nofun) rfl, kept⟩
  savedAtomic := by
    intro text loaded
    cases held.symm.trans (Disk.readText_eq_ok_iff.mp (run_load_eq_ok_iff.mp loaded).1)
    obtain ⟨kept, succeeds⟩ := write_back { writeMode := .atomic } tree held
    exact ⟨kept, succeeds.trans (forall_prop_of_true rfl)⟩

end Revision

/-! ## Revisions without effect -/

namespace Pipeline

variable {pipeline : Pipeline} {context : Context} {buffer : String}

def OfRules (pipeline : Pipeline) : Prop :=
  ∀ transformation ∈ pipeline.transformations, ∃ rule : Rule, transformation = rule.transformation

def Idle (pipeline : Pipeline) (context : Context) (buffer : String) : Prop :=
  ∀ outcome ∈ (pipeline.run context buffer).report.outcomes, outcome.applied = false

theorem Idle.buffer_run (idle : pipeline.Idle context buffer) (ofRules : pipeline.OfRules) :
    (pipeline.run context buffer).buffer = buffer := by
  have inert : ∀ transformation ∈ pipeline.transformations, transformation.IsInert := by
    intro transformation member
    obtain ⟨rule, rfl⟩ := ofRules transformation member
    exact rule.isInert_transformation
  have nothing : ((Run.start buffer).steps context 0 pipeline.transformations).report.keep
      pipeline.transformations = [] := Report.keep_eq_nil _ idle
  have same := Run.steps_keep context buffer inert
  dsimp only at same
  rw [nothing] at same
  exact (congrArg Emended.buffer same).symm

theorem require_run_of_nil (none : pipeline.transformations = []) :
    (pipeline.run context buffer).report.require = .ok () := by
  unfold run
  rw [none]
  rfl

end Pipeline

namespace Revision

variable {revision : Revision} {pipeline : Pipeline} {session : Session} {disk after : Disk}
variable {source : String} {content : ByteArray} {place : Disk.Location}

/-- A revision can write over a file: its backup can be made if it is wanted, and so can a temporary
file. -/
structure CanWriteOver (revision : Revision) (disk : Disk) (source : String) : Prop where
  backup : revision.backup = true →
    ∃ copy, disk.copy source (Path.backup source) = .ok copy
  room : revision.writeMode = .atomic → disk.HasRoomBeside source

/-- A delivery to a file that can be written over succeeds. -/
theorem Delivery.exists_ok {written : ByteArray} {result : Except Failure (Option String)}
    (delivery : Delivery revision source written disk result after) (tree : disk.IsTree)
    (held : disk.read source = .ok content) (can : revision.CanWriteOver disk source) :
    ∃ backup, result = .ok backup := by
  obtain ⟨place, -, holds, names⟩ := Disk.exists_names_of_read tree held
  have chain := Disk.makeChain_above tree names
  have room_eq := Disk.roomFor_of_names tree names
  cases delivery with
  | crowded refused =>
    rw [chain] at refused
    cases refused
  | uncopied _ wanted refused =>
    obtain ⟨copy, copied⟩ := can.backup wanted
    rw [room_eq] at refused
    cases refused.symm.trans copied
  | @unwritten backup ready _ failure _ prepared refused =>
    rw [room_eq] at prepared
    have there := Disk.ne_directory_of_file ((prepared.node?_eq names).trans holds)
    obtain ⟨atomic, -, tooLong, -⟩ := refused.tooLong (names.mono prepared.grows) there
    have room := (Disk.hasRoomBeside_iff prepared.grows source).mpr (can.room atomic)
    exact absurd room (Nat.not_lt_of_le tooLong)
  | written => exact ⟨_, rfl⟩

/-- How a revision ends that is to write a file back and whose rules leave its text as it is. -/
inductive Idles (revision : Revision) (report : Report) (source text : String) (disk : Disk) :
    Except Failure Summary → Disk → Prop where
  | stopped {missed : Unapplied} (refused : revision.gate report = .error missed) :
      Idles revision report source text disk (.error (.unapplied missed)) disk
  | dry {summary : Summary} (unchanged : summary.changed = false) :
      Idles revision report source text disk (.ok summary) disk
  | delivered {summary : Summary} {result : Except Failure (Option String)} {after : Disk}
      (wet : revision.dryRun = false) (unchanged : summary.changed = false)
      (delivery : Delivery revision source text.toUTF8 disk result after) :
      Idles revision report source text disk
        (result.map fun backup => { summary with output := some source, backup }) after

theorem idles_of_revise {text : String} {ended : Session} {result : Except Failure Summary}
    (back : revision.output = none) (ofRules : pipeline.OfRules)
    (idle : pipeline.Idle { sourceFile := some source } text)
    (loaded : session.disk.readText source = .ok text)
    (ran : (revision.revise pipeline source).run session = (result, ended)) :
    Idles revision (pipeline.run { sourceFile := some source } text).report source text session.disk
      result ended.disk := by
  have same := idle.buffer_run ofRules
  rw [run_revise, loaded] at ran
  dsimp only at ran
  generalize pipeline.run { sourceFile := some source } text = run at same ran ⊢
  have unchanged : (summarize source text run.toEmended).changed = false :=
    decide_eq_false fun differs => differs same
  cases passed : revision.gate run.report with
  | error missed =>
    rw [passed] at ran
    cases ran
    exact .stopped passed
  | ok _ =>
    rw [passed] at ran
    dsimp only at ran
    cases dryRun : revision.dryRun with
    | true =>
      rw [dryRun, if_pos rfl] at ran
      cases ran
      exact .dry unchanged
    | false =>
      rw [dryRun, if_neg Bool.false_ne_true, same] at ran
      obtain ⟨delivered, delivery, rfl⟩ := delivery_of_run ran
      have output_eq : revision.outputFor source = source := by
        unfold outputFor
        rw [back]
        rfl
      rw [summarize, output_eq] at delivery ⊢
      exact .delivered dryRun unchanged delivery

namespace Idles

variable {report : Report} {text : String} {result : Except Failure Summary}

theorem read (idles : Idles revision report source text disk result after) (tree : disk.IsTree)
    (held : disk.read source = .ok text.toUTF8) : after.read source = .ok text.toUTF8 := by
  cases idles with
  | stopped => exact held
  | dry => exact held
  | delivered _ _ delivery =>
    obtain ⟨place, located, holds, names⟩ := Disk.exists_names_of_read tree held
    have room := (Disk.gains_makeChain disk (Path.above source)).grows
    exact Disk.read_eq_ok_iff.mpr
      ⟨place, Disk.locate_mono delivery.grows located, delivery.holds (names.mono room) holds⟩

theorem changed_eq {summary : Summary}
    (idles : Idles revision report source text disk (.ok summary) after) :
    summary.changed = false := by
  generalize ended : (Except.ok summary : Except Failure Summary) = result at idles
  cases idles with
  | stopped => cases ended
  | dry unchanged =>
    cases ended
    exact unchanged
  | delivered _ unchanged =>
    obtain ⟨backup, -, rfl⟩ := exists_of_map_eq_ok ended.symm
    exact unchanged

theorem exists_ok (idles : Idles revision report source text disk result after)
    (tree : disk.IsTree) (held : disk.read source = .ok text.toUTF8)
    (passed : revision.gate report = .ok ())
    (can : revision.dryRun = true ∨ revision.CanWriteOver disk source) :
    ∃ summary, result = .ok summary := by
  cases idles with
  | stopped refused => cases passed.symm.trans refused
  | dry => exact ⟨_, rfl⟩
  | delivered wet _ delivery =>
    have able := can.resolve_left (by rw [wet]; exact Bool.false_ne_true)
    obtain ⟨backup, rfl⟩ := delivery.exists_ok tree held able
    exact ⟨_, rfl⟩

end Idles

/-- What comes of a revision that is to write a file back and has no effect on it. -/
structure LeavesAsIs (revision : Revision) (pipeline : Pipeline) (source : String)
    (session : Session) (content : ByteArray) : Prop where
  kept : ((revision.revise pipeline source).run session).2.disk.read source = .ok content
  unchanged : ∀ summary, ((revision.revise pipeline source).run session).1 = .ok summary →
    summary.changed = false
  /-- Only a strict revision minds that no rule applied. -/
  succeeds : Utf8.WellFormed content.data.toList →
    (revision.strict = true → pipeline.transformations = []) →
    revision.dryRun = true ∨ revision.CanWriteOver session.disk source →
    ∃ summary, ((revision.revise pipeline source).run session).1 = .ok summary

/-- A text that no rule applies to is left as it is. -/
theorem leavesAsIs_of_idle {text : String} (tree : session.disk.IsTree)
    (back : revision.output = none) (ofRules : pipeline.OfRules)
    (idle : pipeline.Idle { sourceFile := some source } text)
    (held : session.disk.read source = .ok text.toUTF8) :
    revision.LeavesAsIs pipeline source session text.toUTF8 := by
  have loaded := Disk.readText_eq_ok_iff.mpr held
  cases ran : (revision.revise pipeline source).run session with
  | mk result ended =>
    have idles := idles_of_revise back ofRules idle loaded ran
    constructor <;> rw [ran]
    case kept => exact idles.read tree held
    case unchanged =>
      rintro summary rfl
      exact idles.changed_eq
    case succeeds =>
      intro _ lenient can
      refine idles.exists_ok tree held ?_ can
      unfold gate
      cases strict : revision.strict with
      | true => exact Pipeline.require_run_of_nil (lenient strict)
      | false => rfl

/-- A file that is no text is left as it is, for it is not even loaded. -/
theorem leavesAsIs_of_malformed (held : session.disk.read source = .ok content)
    (malformed : ¬ Utf8.WellFormed content.data.toList) :
    revision.LeavesAsIs pipeline source session content := by
  have ran : (revision.revise pipeline source).run session =
      (.error (.disk source .notText), session) := by
    rw [run_revise, Disk.readText_eq_notText held malformed]
  constructor <;> rw [ran]
  case kept => exact held
  case unchanged => nofun
  case succeeds => exact fun wellFormed => absurd wellFormed malformed

/-! ## Both ways round -/

def Saves (path text : String) (action : Action Unit) : Prop :=
  ∀ session after, action.run session = (.ok (), after) →
    (Action.load path).run after = (.ok text, after)

/-- **Loading and saving are inverse.** A file is loaded if and only if its bytes are well-formed
UTF-8, and then saving the text, in place or by way of a temporary file, leaves just these bytes. A
text that was saved in either way is what is then loaded. So a revision in place of which no rule
applies leaves its source byte for byte, whatever it holds, and reports no change. -/
theorem load_and_save_are_inverse (session : Session) (tree : session.disk.IsTree) :
    (∀ path content, session.disk.read path = .ok content → Reloads session path content) ∧
    (∀ path text, Saves path text (Action.save path text) ∧
      Saves path text (Action.saveAtomic path text)) ∧
    ∀ (revision : Revision) (pipeline : Pipeline) (source : String) (content : ByteArray),
      revision.output = none → pipeline.OfRules → session.disk.read source = .ok content →
      (∀ text, session.disk.readText source = .ok text →
        pipeline.Idle { sourceFile := some source } text) →
      revision.LeavesAsIs pipeline source session content := by
  refine ⟨fun _ _ => reloads_of_read tree, ?saves, ?revisions⟩
  case saves =>
    intro path text
    exact ⟨fun _ _ => run_load_of_write { writeMode := .inPlace },
      fun _ _ => run_load_of_write { writeMode := .atomic }⟩
  case revisions =>
    intro revision pipeline source content back ofRules held idle
    by_cases wellFormed : Utf8.WellFormed content.data.toList
    · obtain ⟨text, loaded⟩ := (Disk.exists_readText_iff held).mpr wellFormed
      cases held.symm.trans (Disk.readText_eq_ok_iff.mp loaded)
      exact leavesAsIs_of_idle tree back ofRules (idle text loaded) held
    · exact leavesAsIs_of_malformed held wellFormed

def noDigits : List RuleSpec := [.replaceAll "digits" "[0-9]" "#"]

theorem load_and_save_are_inverse_noDigits :
    Disk.small.IsTree ∧ Disk.small.read "a" = .ok "old".toUTF8 ∧
    Reloads ⟨Disk.small, []⟩ "a" "old".toUTF8 ∧
    ∃ pipeline, Pipeline.ofSpecs Pattern.defaultWeightLimit noDigits = .ok pipeline ∧
      pipeline.Idle { sourceFile := some "a" } "old" ∧
      LeavesAsIs { writeMode := .atomic, backup := true } pipeline "a" ⟨Disk.small, []⟩
        "old".toUTF8 := by
  have loaded : Disk.small.readText "a" = .ok "old" := eq_ok_of_toOption (by decide +kernel)
  have held := Disk.readText_eq_ok_iff.mp loaded
  have inverse := load_and_save_are_inverse ⟨Disk.small, []⟩ Disk.small_isTree
  have idles : (Pipeline.ofSpecs Pattern.defaultWeightLimit noDigits).toOption.map (fun pipeline =>
      (pipeline.run { sourceFile := some "a" } "old").report.outcomes.all
        fun outcome => !outcome.applied) = some true := by decide +kernel
  cases compiled : Pipeline.ofSpecs Pattern.defaultWeightLimit noDigits with
  | error error =>
    rw [compiled] at idles
    cases idles
  | ok pipeline =>
    rw [compiled] at idles
    have idle : pipeline.Idle { sourceFile := some "a" } "old" := by
      intro outcome member
      simpa using List.all_eq_true.mp (Option.some.inj idles) outcome member
    have ofRules : pipeline.OfRules := fun _ => Pipeline.exists_rule_of_mem compiled
    refine ⟨Disk.small_isTree, held, inverse.1 "a" _ held, pipeline, rfl, idle, ?_⟩
    refine inverse.2.2 _ pipeline "a" _ rfl ofRules held ?_
    intro text again
    cases loaded.symm.trans again
    exact idle

end Revision

end Emend
