import Emend.Proofs.Revision.Gate
import Emend.Proofs.Revision.WriteBack

/-!
# Write modes

Writing over a file and moving a temporary file over it come to the same. Where one is refused the
other is, and neither leaves a trace. There is one difference: the path of the temporary file may be
too long where the path of the file is not.
-/

namespace Emend

namespace Disk

def HasRoomBeside (disk : Disk) (path : String) : Prop :=
  disk.temporaryPathLength (Path.directoryOf path) < pathLengthBound

theorem hasRoomBeside_iff {disk after : Disk} (grows : disk.Grows after) (path : String) :
    after.HasRoomBeside path ↔ disk.HasRoomBeside path := by
  unfold HasRoomBeside
  rw [temporaryPathLength_eq grows]

end Disk

namespace Revision

variable {revision : Revision} {disk : Disk} {path text output : String}
variable {content : ByteArray} {session : Session}

/-! ## One write -/

/-- A file is written atomically by way of a temporary file that there is room for. -/
theorem Written.hasRoomBeside {after : Disk} (written : Written disk path content .atomic after) :
    disk.HasRoomBeside path := by
  cases written with
  | moved made => exact (Disk.makeTemporary_eq_ok_iff.mp made).1

/-- Both ways of writing leave the same. -/
theorem Written.alike {mode mode' : WriteMode} {after after' : Disk}
    (written : Written disk path content mode after)
    (written' : Written disk path content mode' after') : after.Alike after' := by
  obtain ⟨place, wrote⟩ := written.wrote
  obtain ⟨place', wrote'⟩ := written'.wrote
  cases wrote.named.unique wrote'.named
  refine ⟨wrote'.workingDirectory_eq.trans wrote.workingDirectory_eq.symm, ?_⟩
  intro other
  rw [wrote'.node?_eq, wrote.node?_eq]

/-- What a run that writes to a path in place and one that writes there atomically have in common.
The atomic one succeeds where the other does and the path of its temporary file is short. -/
structure Agree {α : Type} (path : String) (short : Prop)
    (plain atomic : Except Failure α × Session) : Prop where
  ok_iff : ∀ a, atomic.1 = .ok a ↔ plain.1 = .ok a ∧ short
  alike : ∀ a, atomic.1 = .ok a → plain.2.disk.Alike atomic.2.disk
  tooLong : ∀ a, plain.1 = .ok a → ¬ short →
    atomic.1 = .error (.temporary (Path.directoryOf path) .nameTooLong)

theorem agree_write (revision : Revision) (path text : String) (session : Session) :
    Agree path (session.disk.HasRoomBeside path)
      (({ revision with writeMode := .inPlace }.write path text).run session)
      (({ revision with writeMode := .atomic }.write path text).run session) := by
  cases ran : ({ revision with writeMode := .inPlace }.write path text).run session with
  | mk plain plain_after =>
    cases ran' : ({ revision with writeMode := .atomic }.write path text).run session with
    | mk atomic atomic_after =>
      -- Where one write is done and the other is not, it is for the length of a path.
      rcases write_cases ran with ⟨rfl, written⟩ | ⟨failure, rfl, refused⟩
      · rcases write_cases ran' with ⟨rfl, written'⟩ | ⟨failure', rfl, refused'⟩
        · have short := written'.hasRoomBeside
          exact ⟨fun _ => ⟨fun _ => ⟨rfl, short⟩, fun _ => rfl⟩,
            fun _ _ => written.alike written', fun _ _ long => absurd short long⟩
        · obtain ⟨place, wrote⟩ := written.wrote
          obtain ⟨-, rfl, tooLong, -⟩ := refused'.tooLong wrote.named wrote.spared
          exact ⟨fun _ => ⟨nofun, fun ⟨_, short⟩ => absurd short (Nat.not_lt_of_le tooLong)⟩,
            nofun, fun _ _ _ => rfl⟩
      · rcases write_cases ran' with ⟨rfl, written'⟩ | ⟨failure', rfl, refused'⟩
        · obtain ⟨place, wrote'⟩ := written'.wrote
          obtain ⟨clash, -⟩ := refused.tooLong wrote'.named wrote'.spared
          cases clash
        · exact ⟨fun _ => ⟨nofun, nofun⟩, nofun, nofun⟩

/-! ## Runs with a write -/

namespace Agree

variable {α β : Type} {short short' : Prop}

/-- A run that does not depend on the mode agrees with itself. -/
theorem refl (ended : Except Failure α × Session) (free : ∀ a, ended.1 = .ok a → short) :
    Agree path short ended ended where
  ok_iff a := ⟨fun same => ⟨same, free a same⟩, And.left⟩
  alike _ _ := .refl _
  tooLong a same long := absurd (free a same) long

theorem congr {plain atomic : Except Failure α × Session} (same : short' ↔ short)
    (agree : Agree path short' plain atomic) : Agree path short plain atomic := by
  cases propext same
  exact agree

/-- What comes before the write is the same in both modes. -/
theorem behind {first : Action α} {plain atomic : α → Action β}
    (agree : ∀ a middle, first.run session = (.ok a, middle) →
      Agree path short ((plain a).run middle) ((atomic a).run middle)) :
    Agree path short ((first >>= plain).run session) ((first >>= atomic).run session) := by
  rw [run_bind, run_bind]
  cases ran : first.run session with
  | mk result middle =>
    cases result with
    | ok a => exact agree a middle ran
    | error failure => exact .refl _ nofun

/-- What comes after the write does not fail and leaves the disk as it is. -/
theorem followed {plain atomic : Action α} {last : α → Action β} {value : α → β}
    (agree : Agree path short (plain.run session) (atomic.run session))
    (quiet : ∀ a middle, ((last a).run middle).1 = .ok (value a) ∧
      ((last a).run middle).2.disk = middle.disk) :
    Agree path short ((plain >>= last).run session) ((atomic >>= last).run session) := by
  rw [run_bind, run_bind]
  generalize plain.run session = plain_end at agree ⊢
  generalize atomic.run session = atomic_end at agree ⊢
  obtain ⟨plain_result, plain_after⟩ := plain_end
  obtain ⟨atomic_result, atomic_after⟩ := atomic_end
  obtain ⟨ok_iff, alike, tooLong⟩ := agree
  dsimp only at ok_iff alike tooLong
  cases plain_result with
  | error failure =>
    cases atomic_result with
    | error failure' => exact ⟨fun _ => ⟨nofun, nofun⟩, nofun, nofun⟩
    | ok a => cases ((ok_iff a).mp rfl).1
  | ok a =>
    cases atomic_result with
    | error failure =>
      have long : ¬ short := by
        intro fits
        cases (ok_iff a).mpr ⟨rfl, fits⟩
      cases tooLong a rfl long
      exact ⟨fun _ => ⟨nofun, fun ⟨_, fits⟩ => absurd fits long⟩, nofun, fun _ _ _ => rfl⟩
    | ok a' =>
      obtain ⟨same, fits⟩ := (ok_iff a').mp rfl
      cases same
      obtain ⟨plain_eq, plain_disk⟩ := quiet a plain_after
      obtain ⟨atomic_eq, atomic_disk⟩ := quiet a atomic_after
      dsimp only
      refine ⟨?_, ?_, fun _ _ long => absurd fits long⟩
      · intro b
        rw [plain_eq, atomic_eq]
        exact ⟨fun same => ⟨same, fits⟩, And.left⟩
      · intro _ _
        rw [plain_disk, atomic_disk]
        exact alike a rfl

end Agree

theorem disk_of_compile {specs : List RuleSpec} {after : Session}
    {result : Except Failure Pipeline}
    (ran : (revision.compile specs).run session = (result, after)) : after.disk = session.disk := by
  unfold compile at ran
  cases compiled : Pipeline.ofSpecs revision.weightLimit specs with
  | ok pipeline =>
    rw [compiled] at ran
    cases ran
    rfl
  | error error =>
    rw [compiled] at ran
    cases ran
    rfl

theorem disk_of_emendFile {pipeline : Pipeline} {source : String} {after : Session}
    {result : Except Failure (String × Emended)}
    (ran : (revision.emendFile pipeline source).run session = (result, after)) :
    after.disk = session.disk := by
  rw [run_emendFile] at ran
  cases loaded : session.disk.readText source with
  | error fault =>
    rw [loaded] at ran
    cases ran
    rfl
  | ok text =>
    rw [loaded] at ran
    dsimp only at ran
    split at ran
    · cases ran
      rfl
    · cases ran
      rfl

theorem grows_of_makeRoom {after : Session} {result : Except Failure Unit}
    (ran : (Action.makeRoom output).run session = (result, after)) :
    session.disk.Grows after.disk := by
  rw [Action.run_makeRoom] at ran
  cases ran
  exact (Disk.gains_makeChain session.disk (Path.above output)).grows

theorem grows_of_backUp {after : Session} {result : Except Failure (Option String)}
    (wanted : revision.backup = true)
    (ran : (Action.backUp output).run session = (result, after)) :
    session.disk.Grows after.disk := by
  rcases backUp_cases wanted ran with ⟨backup, -, prepared⟩ | ⟨fault, -, -, same⟩
  · exact prepared.grows
  · rw [same]
    exact .refl session.disk

/-- Only the write depends on the mode, and it follows on a disk that has what was there before. -/
theorem agree_deliver (revision : Revision) (summary : Summary) (text : String)
    (session : Session) :
    Agree (revision.outputFor summary.source)
      (session.disk.HasRoomBeside (revision.outputFor summary.source))
      (({ revision with writeMode := .inPlace }.deliver summary text).run session)
      (({ revision with writeMode := .atomic }.deliver summary text).run session) := by
  have output_eq : revision.output.getD summary.source = revision.outputFor summary.source := rfl
  unfold deliver
  dsimp only
  rw [output_eq]
  generalize revision.outputFor summary.source = output
  refine .behind ?_
  intro _ room roomy
  have grows := grows_of_makeRoom roomy
  have agree {ready : Session} (prepared : room.disk.Grows ready.disk) :=
    (agree_write revision output text ready).congr
      (Disk.hasRoomBeside_iff (grows.trans prepared) output)
  cases wanted : revision.backup with
  | true =>
    rw [if_pos rfl, if_pos rfl]
    refine .behind ?_
    intro backup ready copied
    exact (agree (grows_of_backUp wanted copied)).followed fun _ _ => ⟨rfl, rfl⟩
  | false =>
    rw [if_neg Bool.false_ne_true, if_neg Bool.false_ne_true, pure_bind, pure_bind]
    exact (agree (.refl room.disk)).followed fun _ _ => ⟨rfl, rfl⟩

/-- A dry revision does not come to the write. -/
theorem agree_run (revision : Revision) (specs : List RuleSpec) (source : String)
    (session : Session) :
    Agree (revision.outputFor source)
      (revision.dryRun = true ∨ session.disk.HasRoomBeside (revision.outputFor source))
      (({ revision with writeMode := .inPlace }.run specs source).run session)
      (({ revision with writeMode := .atomic }.run specs source).run session) := by
  unfold run revise
  refine .behind ?_
  intro pipeline compiled_session compiled
  refine .behind ?_
  rintro ⟨text, emended⟩ read_session read
  have same : read_session.disk = session.disk := by
    rw [disk_of_emendFile read, disk_of_compile compiled]
  dsimp only
  cases dryRun : revision.dryRun with
  | true =>
    rw [if_pos rfl, if_pos rfl]
    exact .refl _ fun _ _ => .inl rfl
  | false =>
    rw [if_neg Bool.false_ne_true, if_neg Bool.false_ne_true]
    refine (agree_deliver revision (summarize source text emended) emended.buffer read_session).congr
      ?_
    rw [same]
    simp [summarize]

/-- A write leaves its text at its path, and nothing where it is refused. -/
theorem write_leaves (revision : Revision) (path text : String) (session : Session) :
    let ended := (revision.write path text).run session
    (ended.1 = .ok () → ∃ place, session.disk.Wrote ended.2.disk path text.toUTF8 place) ∧
      (ended.1 ≠ .ok () → session.disk.Alike ended.2.disk) := by
  dsimp only
  cases ran : (revision.write path text).run session with
  | mk result after =>
    rcases write_cases ran with ⟨rfl, written⟩ | ⟨failure, rfl, refused⟩
    · exact ⟨fun _ => written.wrote, fun fails => absurd rfl fails⟩
    · exact ⟨nofun, fun _ => refused.alike⟩

/-- **The write modes agree.** A text can be saved by way of a temporary file if and only if it can
be saved in place and the path of the temporary file is short enough, and then both leave the same:
the text at its path and everything else as it was. Where either is refused, it leaves the disk as
it was; where only the length of the path stands against it, the directory of the path is what the
failure is about. So a revision succeeds atomically where it does in place, with the same summary
and the same disk, unless it writes and that path is too long. -/
theorem write_modes_agree (session : Session) (path text : String) (revision : Revision)
    (specs : List RuleSpec) (source : String) :
    let plain := (Action.save path text).run session
    let atomic := (Action.saveAtomic path text).run session
    Agree path (session.disk.HasRoomBeside path) plain atomic ∧
      ((plain.1 = .ok () → ∃ place, session.disk.Wrote plain.2.disk path text.toUTF8 place) ∧
        (plain.1 ≠ .ok () → session.disk.Alike plain.2.disk)) ∧
      ((atomic.1 = .ok () → ∃ place, session.disk.Wrote atomic.2.disk path text.toUTF8 place) ∧
        (atomic.1 ≠ .ok () → session.disk.Alike atomic.2.disk)) ∧
      Agree (revision.outputFor source)
        (revision.dryRun = true ∨ session.disk.HasRoomBeside (revision.outputFor source))
        (({ revision with writeMode := .inPlace }.run specs source).run session)
        (({ revision with writeMode := .atomic }.run specs source).run session) :=
  ⟨agree_write {} path text session, write_leaves { writeMode := .inPlace } path text session,
    write_leaves { writeMode := .atomic } path text session,
    agree_run revision specs source session⟩

/-- A detour that is long enough, and not too long, keeps a temporary file from being made. -/
theorem saved_in_place_only {old : ByteArray} {slashes : Nat} (detour : disk.HasDetour old)
    (many : 4081 ≤ slashes) (fits : slashes ≤ 4085) (text : String) (log : List Event) :
    ((Action.save (Path.roundabout slashes ['a']) text).run ⟨disk, log⟩).1 = .ok () ∧
      ((Action.saveAtomic (Path.roundabout slashes ['a']) text).run ⟨disk, log⟩).1 =
        .error (.temporary (Path.directoryOf (Path.roundabout slashes ['a'])) .nameTooLong) := by
  have aimed := (target_roundabout detour fits).1
  have tooLong := tooLong_roundabout disk many
  generalize Path.roundabout slashes ['a'] = path at aimed tooLong ⊢
  have names : disk.Names path _ := ⟨_, "a", rfl, aimed, by rfl⟩
  have spared : disk.node? (disk.workingDirectory ++ ["a"]) ≠ some .directory := by
    rw [detour.file]
    nofun
  obtain ⟨after, written⟩ := Disk.exists_write names spared text.toUTF8
  have saved : ((Action.save path text).run ⟨disk, log⟩).1 = .ok () := by
    rw [Action.run_save, written]
  have agree := agree_write {} path text ⟨disk, log⟩
  exact ⟨saved, agree.tooLong () saved (Nat.not_lt_of_le tooLong)⟩

/-- A text may be saved where it cannot be saved by way of a temporary file. -/
theorem exists_saved_in_place_only :
    Disk.small.IsTree ∧
      ((Action.save (Path.roundabout 4085 ['a']) "new").run ⟨Disk.small, []⟩).1 = .ok () ∧
      ∃ failure, ((Action.saveAtomic (Path.roundabout 4085 ['a']) "new").run
        ⟨Disk.small, []⟩).1 = .error failure := by
  obtain ⟨saved, refused⟩ := saved_in_place_only Disk.small_hasDetour (Nat.le_add_right 4081 4)
    (Nat.le_refl 4085) "new" []
  exact ⟨Disk.small_isTree, saved, _, refused⟩

end Revision

end Emend
