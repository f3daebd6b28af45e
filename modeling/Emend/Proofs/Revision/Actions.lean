import Emend.Revision.Session

/-!
# Runs of actions

What each action yields and leaves, as an equation between its run and the operation on the disk
that it stands for. Making room for a path is making the chain of directories above it: a path
without a directory has an empty chain.
-/

namespace Emend

/-- The directories that a path lies in, the nearest one first. -/
def Path.above (path : String) : List String :=
  let directory := (Path.parent? path).getD ""
  (directory :: Path.outer directory).filter fun path => !path.isEmpty

theorem Path.outer_empty : Path.outer "" = [] := by
  unfold outer
  dsimp only
  rw [outerFrom]
  rfl

def Disk.roomFor (disk : Disk) (path : String) : Disk := (disk.makeChain (Path.above path)).2

/-! ## Sequences -/

/-- What comes of two steps in turn, each of which works on a state. -/
theorem run_bind {ε σ α β : Type} (first : ExceptT ε (StateM σ) α)
    (second : α → ExceptT ε (StateM σ) β) (state : σ) :
    (first >>= second).run state = match first.run state with
      | (.ok a, middle) => (second a).run middle
      | (.error error, middle) => (.error error, middle) := by
  change (ExceptT.bindCont second (first.run state).1) (first.run state).2 = _
  cases first.run state with
  | mk result middle =>
    cases result with
    | ok a => rfl
    | error error => rfl

theorem run_get {ε σ : Type} (state : σ) :
    (get : ExceptT ε (StateM σ) σ).run state = (.ok state, state) := rfl

namespace Action

theorem run_emit (event : Event) (session : Session) :
    (emit event).run session = (.ok (), { session with log := session.log ++ [event] }) := rfl

theorem run_emitAll (events : List Event) (session : Session) :
    (emitAll events).run session = (.ok (), { session with log := session.log ++ events }) := rfl

/-! ## Reading and changing -/

theorem run_load (path : String) (session : Session) :
    (load path).run session = ((session.disk.readText path).mapError (.disk path), session) := by
  unfold load inspect
  rw [run_bind, run_get]
  dsimp only
  cases session.disk.readText path with
  | ok text => rfl
  | error fault => rfl

theorem run_loadRules (path : String) (session : Session) :
    (loadRules path).run session =
      ((session.disk.readText path).mapError (.disk path) >>= fun text =>
        (RuleFile.parse path text).mapError .ruleFile, session) := by
  unfold loadRules
  rw [run_bind, run_load]
  cases session.disk.readText path with
  | error fault => rfl
  | ok text =>
    dsimp only [Except.mapError]
    cases parsed : RuleFile.parse path text <;>
    · simp only [parsed, bind, Except.bind]
      rfl

theorem run_change (path : String) (operation : Disk → Except Disk.Fault Disk)
    (session : Session) :
    (change path operation).run session = match operation session.disk with
      | .ok disk => (.ok (), { session with disk })
      | .error fault => (.error (.disk path fault), session) := by
  unfold change
  rw [run_bind, run_get]
  dsimp only
  cases operation session.disk with
  | ok disk => rfl
  | error fault => rfl

theorem run_save (path text : String) (session : Session) :
    (save path text).run session = match session.disk.write path text.toUTF8 with
      | .ok disk => (.ok (), { session with disk })
      | .error fault => (.error (.disk path fault), session) :=
  run_change path (fun disk => disk.write path text.toUTF8) session

theorem run_saveAtomic (path text : String) (session : Session) :
    (saveAtomic path text).run session =
      match session.disk.makeTemporary (Path.directoryOf path) text.toUTF8 with
      | .error fault => (.error (.temporary (Path.directoryOf path) fault), session)
      | .ok (location, middle) =>
        match middle.rename location path with
        | .ok disk => (.ok (), { session with disk })
        | .error fault =>
          (.error (.disk path fault), { session with disk := middle.remove location }) := by
  unfold saveAtomic
  rw [run_bind, run_get]
  dsimp only
  cases session.disk.makeTemporary (Path.directoryOf path) text.toUTF8 with
  | error fault => rfl
  | ok made =>
    dsimp only
    cases made.2.rename made.1 path with
    | ok disk => rfl
    | error fault => rfl

theorem run_makeRoom (path : String) (session : Session) :
    (makeRoom path).run session =
      ((session.disk.makeChain (Path.above path)).1.mapError
          (.disk ((Path.parent? path).getD "")),
        { session with disk := session.disk.roomFor path }) := by
  unfold makeRoom Disk.roomFor Path.above
  dsimp only
  cases empty : ((Path.parent? path).getD "").isEmpty with
  | true =>
    have nothing : (Path.parent? path).getD "" = "" := by simpa using empty
    rw [nothing, Path.outer_empty]
    rfl
  | false =>
    rw [if_pos (by rfl), run_bind, run_get]
    dsimp only
    unfold Disk.makeDirectories
    rw [run_bind]
    cases session.disk.makeChain _ with
    | mk result disk =>
      cases result with
      | ok _ => rfl
      | error fault => rfl

theorem run_backUp (path : String) (session : Session) :
    (backUp path).run session =
      if session.disk.leads path then
        match session.disk.copy path (Path.backup path) with
        | .ok disk => (.ok (some (Path.backup path)), { session with disk })
        | .error fault => (.error (.disk (Path.backup path) fault), session)
      else (.ok none, session) := by
  unfold backUp
  rw [run_bind, run_get]
  dsimp only
  cases session.disk.leads path with
  | true =>
    rw [if_pos rfl, if_pos rfl, run_bind, run_change]
    cases session.disk.copy path (Path.backup path) with
    | ok disk => rfl
    | error fault => rfl
  | false => rfl

end Action

end Emend
