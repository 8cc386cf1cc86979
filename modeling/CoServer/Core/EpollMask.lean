import CoServer.Core.Epoll
import CoServer.Lib.Run

/-! # The recorded mask and the kernel's interest list

`modify_connection` chooses between `ADD`, `MOD` and `DEL` by the recorded mask,
but whether it calls the kernel at all also depends on the version.  So a call
that leaves an empty mask empty can still be an `ADD`, and the descriptor is then
registered for nothing. -/

namespace CoServer

namespace CoCycle

/-! ## The calls -/

inductive MaskCall where
  | modifyConnection (eventType : EventType) (eventOP : EpollEvents)
  | delConnection
  /-- `reset(true)`, which counts the version up -/
  | reset

/-- The cycle, and whether the kernel has rejected a call so far. -/
structure MaskRun where
  cycle : CoCycle
  rejected : Bool := false

def MaskRun.called (self : MaskRun) (result : Int × CoCycle) : MaskRun :=
  { cycle := result.2, rejected := self.rejected || result.1 == coError }

/-- One call on the connection. -/
def MaskRun.step (connection : Nat) (self : MaskRun) : MaskCall → Option MaskRun
  | .modifyConnection eventType eventOP =>
    some (self.called (self.cycle.modifyConnection connection eventType eventOP))
  | .delConnection => some (self.called (self.cycle.delConnection connection))
  | .reset => some { self with cycle := self.cycle.reset connection true }

/-- What the kernel has registered for the socket of a connection. -/
def interestOf (self : CoCycle) (connection : Nat) : Option EpollEvents :=
  (self.kernel.interest (self.objects connection).coTcp.socketfd).map Registration.events

/-- No call was rejected, and the descriptor is registered for the recorded mask, or not at
    all if that is empty. -/
structure Mirrored (connection : Nat) (run : MaskRun) : Prop where
  accepted : run.rejected = false
  interest : run.cycle.interestOf connection =
    if (run.cycle.objects connection).epollCurEvents = .zero then none
    else some (run.cycle.objects connection).epollCurEvents

/-- The call does not leave an empty mask empty under a new version. -/
def KeepsMirror (connection : Nat) (run : MaskRun) : MaskCall → Prop
  | .modifyConnection eventType eventOP =>
    (run.cycle.objects connection).epollCurEvents = .zero →
    eventType.change .zero eventOP = .zero →
      (run.cycle.objects connection).epollCurVersion = (run.cycle.objects connection).version
  | .delConnection | .reset => True

instance (connection : Nat) (run : MaskRun) (call : MaskCall) :
    Decidable (KeepsMirror connection run call) := by
  cases call <;> unfold KeepsMirror <;> infer_instance

/-- A connection does not share its object with its block connection. -/
def Apart (connection : Nat) (run : MaskRun) : Prop :=
  (run.cycle.objects connection).blockConn ≠ some connection

/-! ## One call -/

section
variable {connection : Nat} {run next : MaskRun}

theorem reset_kept (self : CoCycle)
    (apart : (self.objects connection).blockConn ≠ some connection) :
    (self.reset connection true).objects connection = (self.objects connection).resetRequest ∧
      (self.reset connection true).kernel = self.kernel := by
  unfold reset
  dsimp only
  rw [if_pos rfl]
  unfold resetBlock
  split
  · exact ⟨modifyObject_same _ _ _, rfl⟩
  · rename_i blockConn found
    rw [modifyObject_same] at found
    have other : connection ≠ blockConn := by
      intro same
      subst same
      exact apart found
    exact ⟨(modifyObject_other _ _ _ _ other).trans (modifyObject_same _ _ _), rfl⟩

theorem Reregistered.blockConn {before after : CoCycle} (changed : Reregistered before connection after) :
    (after.objects connection).blockConn = (before.objects connection).blockConn := by
  obtain ⟨_, _, _, _, same⟩ := changed.object connection
  rw [same]
  rfl

theorem MaskRun.step_apart {call : MaskCall} (apart : Apart connection run)
    (stepped : run.step connection call = some next) : Apart connection next := by
  unfold Apart at *
  cases call with
  | modifyConnection eventType eventOP =>
    cases stepped
    have changed := modifyConnection_reregistered run.cycle connection eventType eventOP
    exact changed.blockConn.trans_ne apart
  | delConnection =>
    cases stepped
    have changed := delConnection_reregistered run.cycle connection
    exact changed.blockConn.trans_ne apart
  | reset =>
    cases stepped
    obtain ⟨object, -⟩ := reset_kept run.cycle apart
    dsimp only
    rw [object]
    exact apart

/-- After an accepted call: the mask is recorded, so it must be what is registered. -/
theorem mirrored_called (accepted : run.rejected = false) (kernel : Kernel) (events : EpollEvents)
    (version : Nat) (readActive writeActive : Bool) :
    Mirrored connection (run.called (coOk, { run.cycle with kernel }.modifyObject connection
        (registered events version readActive writeActive))) ↔
      (kernel.interest (run.cycle.objects connection).coTcp.socketfd).map Registration.events =
        if events = .zero then none else some events := by
  have object := modifyObject_same { run.cycle with kernel } connection
    (registered events version readActive writeActive)
  constructor
  · intro mirrored
    have interest := mirrored.interest
    unfold interestOf MaskRun.called at interest
    dsimp only at interest
    rw [object] at interest
    exact interest
  · intro interest
    refine ⟨?_, ?_⟩
    · unfold MaskRun.called
      rw [accepted]
      rfl
    · unfold interestOf MaskRun.called
      dsimp only
      rw [object]
      exact interest

/-! ### `modify_connection` -/

theorem Mirrored.none_iff (mirrored : Mirrored connection run) :
    run.cycle.kernel.interest (run.cycle.objects connection).coTcp.socketfd = none ↔
      (run.cycle.objects connection).epollCurEvents = .zero := by
  have interest := mirrored.interest
  constructor
  · intro outside
    by_contra held
    rw [if_neg held] at interest
    obtain ⟨registration, found, -⟩ := Option.map_eq_some_iff.1 interest
    cases outside.symm.trans found
  · intro empty
    rw [if_pos empty] at interest
    exact Option.map_eq_none_iff.1 interest

/-- A call that changes nothing is not made; any other is accepted, and what is recorded and
    what is registered change alike, but for an empty mask that stays empty. -/
theorem Mirrored.modifyConnection (mirrored : Mirrored connection run) (eventType : EventType)
    (eventOP : EpollEvents) :
    Mirrored connection (run.called (run.cycle.modifyConnection connection eventType eventOP)) ↔
      KeepsMirror connection run (.modifyConnection eventType eventOP) := by
  by_cases same : eventType.change (run.cycle.objects connection).epollCurEvents eventOP =
      (run.cycle.objects connection).epollCurEvents ∧
      (run.cycle.objects connection).epollCurVersion = (run.cycle.objects connection).version
  · have unchanged : run.cycle.modifyConnection connection eventType eventOP =
        (coOk, run.cycle) := by
      unfold CoCycle.modifyConnection
      exact if_pos same
    rw [unchanged]
    refine ⟨fun _ _ _ => same.2, fun _ => ⟨?_, mirrored.interest⟩⟩
    unfold MaskRun.called
    rw [mirrored.accepted]
    rfl
  · rw [modifyConnection_called rfl same (Kernel.epollCtl_choose mirrored.none_iff _),
      mirrored_called mirrored.accepted]
    dsimp only
    rw [Function.update_self]
    by_cases gone : eventType.change (run.cycle.objects connection).epollCurEvents eventOP = .zero
    · by_cases empty : (run.cycle.objects connection).epollCurEvents = .zero
      · rw [if_pos gone, if_neg fun both => both.1 empty]
        refine ⟨nofun, fun keeps => absurd ⟨gone.trans empty.symm, ?_⟩ same⟩
        rw [empty] at gone
        exact keeps empty gone
      · rw [if_pos gone, if_pos ⟨empty, gone⟩]
        exact ⟨fun _ found => absurd found empty, fun _ => rfl⟩
    · rw [if_neg gone, if_neg fun both => gone both.2]
      refine ⟨fun _ empty stays => absurd ?_ gone, fun _ => rfl⟩
      rw [empty]
      exact stays

/-! ### The other calls -/

theorem Mirrored.delConnection (mirrored : Mirrored connection run) :
    Mirrored connection (run.called (run.cycle.delConnection connection)) := by
  by_cases empty : (run.cycle.objects connection).epollCurEvents = .zero
  · have unchanged : run.cycle.delConnection connection = (coOk, run.cycle) := if_pos empty
    rw [unchanged]
    refine ⟨?_, mirrored.interest⟩
    unfold MaskRun.called
    rw [mirrored.accepted]
    rfl
  · obtain ⟨held, inside⟩ :=
      Option.ne_none_iff_exists'.1 fun outside => empty (mirrored.none_iff.1 outside)
    have deleted : run.cycle.delConnection connection = (coOk,
        { run.cycle with kernel := { run.cycle.kernel with
          interest := Function.update run.cycle.kernel.interest
            (run.cycle.objects connection).coTcp.socketfd none } }.modifyObject connection
          (registered .zero 0 false false)) := by
      unfold CoCycle.delConnection
      dsimp only
      rw [if_neg empty, Kernel.epollCtl_del inside]
      rfl
    rw [deleted, mirrored_called mirrored.accepted]
    dsimp only
    rw [Function.update_self]
    rfl

/-- The version is counted up; mask, socket and kernel stay as they are. -/
theorem Mirrored.reset (mirrored : Mirrored connection run) (apart : Apart connection run) :
    Mirrored connection { run with cycle := run.cycle.reset connection true } := by
  obtain ⟨object, kernel⟩ := reset_kept run.cycle apart
  refine ⟨mirrored.accepted, ?_⟩
  have interest := mirrored.interest
  unfold interestOf at *
  dsimp only
  rw [object, kernel]
  exact interest

/-! ## Every run -/

theorem Mirrored.forward (apart : Apart connection run) (mirrored : Mirrored connection run)
    {call : MaskCall} (keeps : KeepsMirror connection run call)
    (stepped : run.step connection call = some next) : Mirrored connection next := by
  cases call with
  | modifyConnection eventType eventOP =>
    cases stepped
    exact (mirrored.modifyConnection eventType eventOP).2 keeps
  | delConnection =>
    cases stepped
    exact mirrored.delConnection
  | reset =>
    cases stepped
    exact mirrored.reset apart

theorem Mirrored.backward (mirrored : Mirrored connection run) {call : MaskCall}
    (stepped : run.step connection call = some next) (after : Mirrored connection next) :
    KeepsMirror connection run call := by
  cases call with
  | modifyConnection eventType eventOP =>
    cases stepped
    exact (mirrored.modifyConnection eventType eventOP).1 after
  | delConnection | reset => trivial

end

end CoCycle

open CoCycle

/-- A connection with an open descriptor that is not registered. -/
structure Unregistered (cycle : CoCycle) (connection : Nat) : Prop where
  apart : (cycle.objects connection).blockConn ≠ some connection
  descriptor : (cycle.objects connection).coTcp.socketfd ∈ cycle.kernel.descriptors
  mask : (cycle.objects connection).epollCurEvents = .zero
  outside : cycle.kernel.interest (cycle.objects connection).coTcp.socketfd = none

theorem Unregistered.mirrored {cycle : CoCycle} {connection : Nat}
    (unregistered : Unregistered cycle connection) : Mirrored connection { cycle } where
  accepted := rfl
  interest := by
    rw [if_pos unregistered.mask]
    unfold interestOf
    dsimp only
    rw [unregistered.outside]
    rfl

/-- After every call of a run the kernel's interest list is the recorded mask and no call was
    rejected, if and only if no `modify_connection` of the run leaves an empty mask empty under
    a version that is not the registered one. -/
theorem mask_mirrors_iff {cycle : CoCycle} {connection : Nat}
    (unregistered : Unregistered cycle connection) {calls : List MaskCall} {final : MaskRun}
    (ran : calls.foldlM (MaskRun.step connection) { cycle } = some final) :
    (∀ first run, first <+: calls → first.foldlM (MaskRun.step connection) { cycle } = some run →
      Mirrored connection run) ↔
    Lib.Along (MaskRun.step connection) (KeepsMirror connection) { cycle } calls :=
  Lib.run_along_iff (MaskRun.step connection)
    (fun _ _ _ apart stepped => MaskRun.step_apart apart stepped)
    (fun _ _ _ apart mirrored keeps stepped => mirrored.forward apart keeps stepped)
    (fun _ _ _ _ mirrored stepped after => mirrored.backward stepped after)
    unregistered.apart unregistered.mirrored ran

/-- A connection in its fourth life, with its block connection. -/
def fourthLife : CoCycle where
  objects := fun object =>
    if object = 0 then { connId := 1, version := 3, coTcp := { socketfd := 5 }, blockConn := some 1 }
    else { connId := 2, flagBlockConn := true, blockOriginConn := some 0 }
  allocated := 2
  kernel := { descriptors := {5} }

theorem fourthLife_unregistered : Unregistered fourthLife 0 where
  apart := by decide
  descriptor := by decide
  mask := rfl
  outside := rfl

/-- A request is read and answered, and the connection is kept alive. -/
def keptAlive : List MaskCall := [
  .modifyConnection .add coEventRead,
  .modifyConnection .del coEventIn,
  .modifyConnection .add coEventOut,
  .modifyConnection .del coEventOut,
  .reset,
  .modifyConnection .add coEventIn,
  .modifyConnection .del coEventOut,
  .delConnection]

theorem keptAlive_mirrors : ∃ final,
    keptAlive.foldlM (MaskRun.step 0) { cycle := fourthLife } = some final ∧
    ∀ first run, first <+: keptAlive →
      first.foldlM (MaskRun.step 0) { cycle := fourthLife } = some run → Mirrored 0 run := by
  have keeps : Lib.Along (MaskRun.step 0) (KeepsMirror 0) { cycle := fourthLife } keptAlive := by
    decide +kernel
  exact ⟨_, rfl, (mask_mirrors_iff fourthLife_unregistered rfl).2 keeps⟩

/-- Nothing is registered and nothing is to be deleted, but the kernel is told to add the
    descriptor, and rejects the `ADD` that comes next. -/
theorem nothing_registered : ¬ ∀ cycle connection, Unregistered cycle connection →
    ∀ (calls : List MaskCall) (final : MaskRun),
      calls.foldlM (MaskRun.step connection) { cycle } = some final → Mirrored connection final := by
  intro mirrors
  have defined : ([.modifyConnection .del coEventIn, .modifyConnection .add coEventRead].foldlM
      (MaskRun.step 0) { cycle := fourthLife }).map MaskRun.rejected = some true := by
    decide +kernel
  obtain ⟨final, ran, rejected⟩ := Option.map_eq_some_iff.1 defined
  have mirrored := mirrors fourthLife 0 fourthLife_unregistered _ final ran
  cases mirrored.accepted.symm.trans rejected

end CoServer
