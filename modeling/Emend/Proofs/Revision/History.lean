import Emend.Proofs.Revision.WriteBack

/-!
# Histories

What any number of operations on files comes to, each of which may succeed or fail. A history only
adds and overwrites: what was there stays there. A file that is new or different lies where a save
or a delivered revision wrote it, or it is the backup of one, or it was stranded. A directory that is
new lies on the way to the output of a revision.
-/

namespace Emend

/-! ## Directories above a path -/

namespace Path

theorem isPartOf_of_mem_above {part path : String} (member : part ∈ above path) :
    IsPartOf part path := by
  obtain ⟨within, named⟩ := List.mem_filter.mp member
  have parent_part : (parent? path).getD "" ≠ "" → IsPartOf ((parent? path).getD "") path := by
    unfold parent?
    intro full
    split at full
    · rename_i parent rest outer_eq
      refine isPartOf_of_mem_outer ?_
      rw [outer_eq]
      exact List.mem_cons_self
    · split at full <;> exact absurd rfl full
  rcases List.mem_cons.mp within with rfl | further
  · exact parent_part (by simpa using named)
  · refine (isPartOf_of_mem_outer further).trans (parent_part ?_)
    intro empty
    rw [empty, outer_empty] at further
    cases further

end Path

/-! ## Operations -/

inductive Operation where
  | load (path : String)
  | loadRules (path : String)
  | save (path text : String)
  | saveAtomic (path text : String)
  | revise (revision : Revision) (specs : List RuleSpec) (source : String)

namespace Operation

def run : Operation → Action Unit
  | load path => do
    let _ ← Action.load path
  | loadRules path => do
    let _ ← Action.loadRules path
  | save path text => Action.save path text
  | saveAtomic path text => Action.saveAtomic path text
  | revise revision specs source => do
    let _ ← revision.run specs source

abbrev Outcome := Operation × Except Failure Unit

/-- How operations end that are done one after the other, whether or not those before succeed, and
what they leave. -/
def runAll : List Operation → Session → List Outcome × Session
  | [], session => ([], session)
  | operation :: rest, session =>
    let (result, middle) := operation.run.run session
    let (outcomes, last) := runAll rest middle
    ((operation, result) :: outcomes, last)

end Operation

/-! ## What accounts for a change -/

namespace Disk

inductive Writes (last : Disk) (place : Location) : Operation.Outcome → Prop where
  | saved {path text : String} (names : last.Names path place) :
      Writes last place (.save path text, .ok ())
  | savedAtomically {path text : String} (names : last.Names path place) :
      Writes last place (.saveAtomic path text, .ok ())
  | delivered {revision : Revision} {specs : List RuleSpec} {source : String}
      (wet : revision.dryRun = false) (names : last.Names (revision.outputFor source) place) :
      Writes last place (.revise revision specs source, .ok ())
  | backedUp {revision : Revision} {specs : List RuleSpec} {source : String}
      (wet : revision.dryRun = false) (wanted : revision.backup = true)
      (names : last.Names (Path.backup (revision.outputFor source)) place) :
      Writes last place (.revise revision specs source, .ok ())

/-- A revision failed and left a backup at a place, for the path of a temporary file is too long. -/
inductive Strands (last : Disk) (place : Location) : Operation.Outcome → Prop where
  | stranded {revision : Revision} {specs : List RuleSpec} {source : String}
      (wet : revision.dryRun = false) (wanted : revision.backup = true)
      (atomic : revision.writeMode = .atomic)
      (tooLong : pathLengthBound ≤
        last.temporaryPathLength (Path.directoryOf (revision.outputFor source)))
      (names : last.Names (Path.backup (revision.outputFor source)) place) :
      Strands last place (.revise revision specs source,
        .error (.temporary (Path.directoryOf (revision.outputFor source)) .nameTooLong))

/-- A place lies on the way to the output of a revision. -/
inductive OnTheWay (last : Disk) (place : Location) : Operation.Outcome → Prop where
  | above {revision : Revision} {specs : List RuleSpec} {source directory : String}
      {result : Except Failure Unit} (wet : revision.dryRun = false)
      (part : Path.IsPartOf directory (revision.outputFor source))
      (located : last.locate directory = .ok place) :
      OnTheWay last place (.revise revision specs source, result)

/-- What operations change on a disk, given how they ended. -/
structure Accounted (disk last : Disk) (outcomes : List Operation.Outcome) : Prop where
  /-- Nothing is removed, and directories stay directories. -/
  grows : disk.Grows last
  tree : disk.IsTree → last.IsTree
  changed : ∀ place, last.node? place = disk.node? place ∨
    ((∃ content, last.node? place = some (.file content)) ∧
      ∃ outcome ∈ outcomes, last.Writes place outcome ∨ last.Strands place outcome) ∨
    (disk.node? place = none ∧ last.node? place = some .directory ∧
      ∃ outcome ∈ outcomes, last.OnTheWay place outcome)

variable {disk middle last : Disk} {place : Location} {outcome : Operation.Outcome}

theorem Writes.mono (writes : middle.Writes place outcome) (grows : middle.Grows last) :
    last.Writes place outcome := by
  cases writes with
  | saved names => exact .saved (names.mono grows)
  | savedAtomically names => exact .savedAtomically (names.mono grows)
  | delivered wet names => exact .delivered wet (names.mono grows)
  | backedUp wet wanted names => exact .backedUp wet wanted (names.mono grows)

theorem Strands.mono (strands : middle.Strands place outcome) (grows : middle.Grows last) :
    last.Strands place outcome := by
  cases strands with
  | stranded wet wanted atomic tooLong names =>
    rw [← temporaryPathLength_eq grows] at tooLong
    exact .stranded wet wanted atomic tooLong (names.mono grows)

theorem OnTheWay.mono (above : middle.OnTheWay place outcome) (grows : middle.Grows last) :
    last.OnTheWay place outcome := by
  cases above with
  | above wet part located => exact .above wet part (locate_mono grows located)

namespace Accounted

variable {first second outcomes : List Operation.Outcome}

theorem of_alike (alike : disk.Alike last) : disk.Accounted last outcomes :=
  ⟨alike.grows, alike.tree, fun place => .inl (alike.node?_eq place)⟩

theorem refl (disk : Disk) : disk.Accounted disk outcomes := of_alike (.refl disk)

/-- A file that was written is accounted for by the operation that wrote it. -/
theorem of_wrote {path : String} {content : ByteArray} (wrote : disk.Wrote last path content place)
    (reason : last.Names path place → last.Writes place outcome ∨ last.Strands place outcome) :
    disk.Accounted last [outcome] where
  grows := wrote.grows
  tree := wrote.tree
  changed := by
    intro other
    by_cases same : other = place
    · cases same
      have here := (wrote.node?_eq place).trans (if_pos rfl)
      exact .inr (.inl ⟨⟨content, here⟩, outcome, List.mem_singleton_self outcome,
        reason (wrote.named.mono wrote.grows)⟩)
    · exact .inl ((wrote.node?_eq other).trans (if_neg same))

/-- Directories that were made are accounted for by the operation that needed them. -/
theorem of_gains {paths : List String} (gains : disk.Gains last paths)
    (reason : ∀ path ∈ paths, ∀ place, last.locate path = .ok place →
      last.OnTheWay place outcome) : disk.Accounted last [outcome] where
  grows := gains.grows
  tree := gains.tree
  changed := by
    intro place
    rcases gains.gained place with same | ⟨absent, here, path, member, located⟩
    · exact .inl same
    · exact .inr (.inr ⟨absent, here, outcome, List.mem_singleton_self outcome,
        reason path member place located⟩)

theorem mono (accounted : disk.Accounted last first) (within : first ⊆ second) :
    disk.Accounted last second where
  grows := accounted.grows
  tree := accounted.tree
  changed := by
    intro place
    rcases accounted.changed place with
      same | ⟨file, outcome, member, reason⟩ | ⟨absent, here, outcome, member, above⟩
    · exact .inl same
    · exact .inr (.inl ⟨file, outcome, within member, reason⟩)
    · exact .inr (.inr ⟨absent, here, outcome, within member, above⟩)

theorem trans (one : disk.Accounted middle first) (other : middle.Accounted last second) :
    disk.Accounted last (first ++ second) where
  grows := one.grows.trans other.grows
  tree := other.tree ∘ one.tree
  changed := by
    intro place
    have earlier := one.changed place
    rcases other.changed place with
      same | ⟨file, outcome, member, reason⟩ | ⟨absent, here, outcome, member, above⟩
    · rw [same]
      rcases earlier with same | ⟨file, outcome, member, reason⟩ | ⟨absent, here, outcome, member, above⟩
      · exact .inl same
      · have kept := reason.imp (·.mono other.grows) (·.mono other.grows)
        exact .inr (.inl ⟨file, outcome, List.mem_append_left _ member, kept⟩)
      · have kept := above.mono other.grows
        exact .inr (.inr ⟨absent, here, outcome, List.mem_append_left _ member, kept⟩)
    · exact .inr (.inl ⟨file, outcome, List.mem_append_right _ member, reason⟩)
    · rcases earlier with same | ⟨⟨content, there⟩, -⟩ | ⟨-, there, -⟩
      · exact .inr (.inr
          ⟨same.symm.trans absent, here, outcome, List.mem_append_right _ member, above⟩)
      · cases absent.symm.trans there
      · cases absent.symm.trans there

/-- What an operation changes step by step is accounted for by the operation. -/
theorem andThen (one : disk.Accounted middle [outcome]) (other : middle.Accounted last [outcome]) :
    disk.Accounted last [outcome] :=
  (one.trans other).mono (by simp)

end Accounted

end Disk

/-! ## Single operations -/

namespace Revision

variable {revision : Revision} {specs : List RuleSpec} {source : String} {disk after : Disk}
variable {content : ByteArray} {result : Except Failure (Option String)}

/-- A delivery is accounted for by the revision that it belongs to. -/
theorem Delivery.accounted (specs : List RuleSpec) (tree : disk.IsTree)
    (wet : revision.dryRun = false)
    (delivery : Delivery revision (revision.outputFor source) content disk result after) :
    disk.Accounted after [(.revise revision specs source, result.map fun _ => ())] := by
  have room (ended : Except Failure Unit) :
      disk.Accounted (disk.roomFor (revision.outputFor source))
        [(.revise revision specs source, ended)] :=
    .of_gains (Disk.gains_makeChain disk _) fun path member place located =>
      .above wet (Path.isPartOf_of_mem_above member) located
  cases delivery with
  | crowded refused => exact room _
  | uncopied made wanted refused => exact room _
  | unwritten made prepared refused =>
    cases prepared with
    | plain => exact (room _).andThen (.of_alike refused.alike)
    | copied wanted copied =>
      obtain ⟨atomic, rfl, tooLong, rfl⟩ := refused.of_copied ((room (.ok ())).tree tree) copied
      obtain ⟨old, place, -, wrote⟩ := Disk.exists_wrote_of_copy copied
      rw [← Disk.temporaryPathLength_eq wrote.grows] at tooLong
      exact (room _).andThen
        (.of_wrote wrote fun names => .inr (.stranded wet wanted atomic tooLong names))
  | written made prepared written =>
    obtain ⟨place, wrote⟩ := written.wrote
    have output : Disk.Accounted _ after [(.revise revision specs source, .ok ())] :=
      .of_wrote wrote fun names => .inl (.delivered wet names)
    cases prepared with
    | plain => exact (room _).andThen output
    | copied wanted copied =>
      obtain ⟨old, place, -, kept⟩ := Disk.exists_wrote_of_copy copied
      have backup : Disk.Accounted _ _ [(.revise revision specs source, .ok ())] :=
        .of_wrote kept fun names => .inl (.backedUp wet wanted names)
      exact ((room _).andThen backup).andThen output

theorem Course.accounted {result : Except Failure Summary} (tree : disk.IsTree)
    (course : Course revision specs source disk result after) :
    disk.Accounted after [(.revise revision specs source, result.map fun _ => ())] := by
  cases course with
  | uncompiled => exact .refl disk
  | unread => exact .refl disk
  | unapplied => exact .refl disk
  | dry => exact .refl disk
  | @delivered _ _ result _ _ wet delivery =>
    have accounted := delivery.accounted specs tree wet
    cases result with
    | ok backup => exact accounted
    | error failure => exact accounted

end Revision

namespace Operation

/-- What a save changes is accounted for, in both modes. -/
theorem accounted_of_write {revision : Revision} {path text : String} {session after : Session}
    {operation : Operation} {result : Except Failure Unit}
    (reason : ∀ {last : Disk} {place : Disk.Location}, last.Names path place →
      last.Writes place (operation, .ok ()))
    (ran : (revision.write path text).run session = (result, after)) :
    session.disk.Accounted after.disk [(operation, result)] := by
  rcases Revision.write_cases ran with ⟨rfl, written⟩ | ⟨failure, rfl, refused⟩
  · obtain ⟨place, wrote⟩ := written.wrote
    exact .of_wrote wrote fun names => .inl (reason names)
  · exact .of_alike refused.alike

/-- What an operation changes is accounted for by the operation. -/
theorem accounted_of_run {operation : Operation} {session after : Session}
    {result : Except Failure Unit} (tree : session.disk.IsTree)
    (ran : operation.run.run session = (result, after)) :
    session.disk.Accounted after.disk [(operation, result)] := by
  cases operation with
  | load path =>
    unfold run at ran
    rw [run_bind, Action.run_load] at ran
    cases loaded : session.disk.readText path <;>
    · rw [loaded] at ran
      cases ran
      exact .refl _
  | loadRules path =>
    unfold run at ran
    rw [run_bind, Action.run_loadRules] at ran
    generalize (session.disk.readText path).mapError _ >>= _ = read at ran
    cases read <;>
    · cases ran
      exact .refl _
  | save path text =>
    have written : (({ writeMode := .inPlace } : Revision).write path text).run session = _ := ran
    exact accounted_of_write .saved written
  | saveAtomic path text =>
    have written : (({ writeMode := .atomic } : Revision).write path text).run session = _ := ran
    exact accounted_of_write .savedAtomically written
  | revise revision specs source =>
    unfold run at ran
    rw [run_bind] at ran
    cases revised : (revision.run specs source).run session with
    | mk summary middle =>
      rw [revised] at ran
      have accounted := (Revision.course_of_run revised).accounted tree
      cases summary <;> cases ran <;> exact accounted

theorem runAll_cons (operation : Operation) (rest : List Operation) (session : Session) :
    runAll (operation :: rest) session =
      ((operation, (operation.run.run session).1) ::
          (runAll rest (operation.run.run session).2).1,
        (runAll rest (operation.run.run session).2).2) := rfl

/-- **No stray writes.** Whatever operations are done in turn, each of which may succeed or fail,
nothing is removed, and all that changes is accounted for. A file that is new or different lies
where a save that succeeded or a revision that succeeded wrote it, at the output of the revision or
beside it as its backup, or it is a stranded backup. A new directory lies on the way to the output of
a revision that was not dry. This holds after any operation, so no temporary file is left behind by
one. -/
theorem runAll_accounted (operations : List Operation) (session : Session)
    (tree : session.disk.IsTree) :
    session.disk.Accounted (runAll operations session).2.disk (runAll operations session).1 := by
  induction operations generalizing session with
  | nil => exact .refl session.disk
  | cons operation rest ih =>
    rw [runAll_cons]
    cases ran : operation.run.run session with
    | mk result middle =>
      have first := accounted_of_run tree ran
      exact first.trans (ih middle (first.tree tree))

/-- A file that is not there is read, and written, and then revised into a new directory. -/
def missingThenMade : List Operation :=
  [.load "b", .save "b" "text", .revise { output := some "c/b" } [] "b"]

theorem runAll_accounted_missingThenMade :
    (runAll missingThenMade ⟨Disk.small, []⟩).1.map (·.2.isOk) = [false, true, true] ∧
      Disk.small.Accounted (runAll missingThenMade ⟨Disk.small, []⟩).2.disk
        (runAll missingThenMade ⟨Disk.small, []⟩).1 :=
  ⟨by decide +kernel, runAll_accounted missingThenMade ⟨Disk.small, []⟩ Disk.small_isTree⟩

theorem runAll_revise_of_error {revision : Revision} {specs : List RuleSpec} {source : String}
    {session after : Session} {failure : Failure}
    (ran : (revision.run specs source).run session = (.error failure, after)) :
    runAll [.revise revision specs source] session =
      ([(.revise revision specs source, .error failure)], after) := by
  have dropped : (revise revision specs source).run.run session = (.error failure, after) := by
    unfold run
    rw [run_bind, ran]
  rw [runAll_cons, dropped]
  rfl

/-- A history that saves nothing and in which nothing succeeds may leave a new file. -/
theorem exists_unaccounted_backup :
    Disk.small.IsTree ∧ ∃ (operation : Operation) (failure : Failure) (after : Session)
      (place : Disk.Location) (content : ByteArray),
      runAll [operation] ⟨Disk.small, []⟩ = ([(operation, .error failure)], after) ∧
      (∀ path text, operation ≠ .save path text ∧ operation ≠ .saveAtomic path text) ∧
      Disk.small.node? place = none ∧ after.disk.node? place = some (.file content) := by
  have strands := Revision.careful_strands (Nat.le_add_right 4081 4) (Nat.le_refl 4085)
  obtain ⟨failure, after, ran, left⟩ := strands
  have absent : Disk.small.node? ["work", "a.bak"] = none := by rfl
  refine ⟨Disk.small_isTree, .revise Revision.careful [] (Path.roundabout 4085 ['a']), failure,
    after, ["work", "a.bak"], "old".toUTF8, runAll_revise_of_error ran, ?_, absent, ?_⟩
  · exact fun _ _ => ⟨Operation.noConfusion, Operation.noConfusion⟩
  · rw [left, Disk.node?_put _ _ _ _ (List.cons_ne_nil _ _), if_pos rfl]

end Operation

end Emend
