import CoServer.Upstream.Lives

/-! # Nothing stale is dispatched

The version that an entry or a report carries is compared before a connection is
dispatched for it.  Behind the read half of a report it is not compared again: there
the write half is held back by the write event, which is not active from a reset to
the next dispatch of the connection. -/

namespace CoServer

/-! ## One connection -/

/-- The handler has given its connection back. -/
def ChainPoint.Outside : ChainPoint → Prop
  | .returned | .retryUpstream | .retryDestroy => True
  | .requestRead | .userProcess | .requestWrite _ | .requestDestroy _ | .clientConnect | .upstreamWrite
  | .upstreamRead | .upstreamDestroy _ => False

namespace ConnLife

/-- The version counts the lives, a connection with a mask is registered, and what is registered
    carries the version of its life. -/
structure Sound (conn : ConnLife) : Prop where
  version : conn.object.version = uint32 conn.life
  registered : conn.object.epollCurEvents ≠ .zero → conn.interest ≠ none
  since : ∀ registration, conn.interest = some registration →
    registration.version = uint32 conn.since ∧ conn.since ≤ conn.life

/-- A handler that is not at its end has the connection, and does not end a request while the
    connection is registered for writing. -/
structure Settled (conn : ConnLife) : Prop where
  owned : ¬conn.point.Outside → conn.owner = .request
  assigned : conn.object.handler = some .upstreamInit → conn.owner = .request
  destroys : ∀ retCode, conn.point = .requestDestroy retCode → conn.object.epollCurEvents.epollout = false

/-- Reset in this dispatch: the write half will not see it. -/
def Quiet (conn : ConnLife) : Prop := conn.object.writeEvent.flagActive = false ∧ conn.point.Outside

/-- What a handler may do to its connection: if it ends the life, it leaves the connection alone
    from then on. -/
structure Advanced (life : Nat) (conn : ConnLife) : Prop where
  sound : conn.Sound
  settled : conn.Settled
  quiet : conn.life = life ∨ life ≤ conn.life ∧ conn.Quiet

section
variable {self next : ConnLife} {retCode ret : Int} {calls : ChainCalls}

/-! ### What it is registered for -/

/-- `modify_connection` writes what it registers, or nothing. -/
theorem modifyConnection_cases (self : ConnLife) (eventType : EventType) (eventOP : EpollEvents) :
    (self.modifyConnection eventType eventOP).2 = self ∨
      ∃ interest, (EpollOp.choose self.object.epollCurEvents
          (eventType.change self.object.epollCurEvents eventOP)).apply self.interest
            ⟨eventType.change self.object.epollCurEvents eventOP, self.object.connId,
              self.object.version⟩ = some interest ∧
        (self.modifyConnection eventType eventOP).2 = { self with
          object := CoCycle.registered (eventType.change self.object.epollCurEvents eventOP)
            self.object.version ((eventType.change self.object.epollCurEvents eventOP).meets coEventRead)
            ((eventType.change self.object.epollCurEvents eventOP).meets coEventOut) self.object
          interest
          since := self.life } := by
  unfold modifyConnection
  dsimp only
  split
  · exact .inl rfl
  · split
    · exact .inl rfl
    · rename_i interest applied
      exact .inr ⟨interest, applied, rfl⟩

theorem modifyConnection_life (eventType : EventType) (eventOP : EpollEvents) :
    (self.modifyConnection eventType eventOP).2.life = self.life := by
  obtain same | ⟨_, _, same⟩ := modifyConnection_cases self eventType eventOP
  · rw [same]
  · rw [same]

theorem modifyConnection_owner (eventType : EventType) (eventOP : EpollEvents) :
    (self.modifyConnection eventType eventOP).2.owner = self.owner := by
  obtain same | ⟨_, _, same⟩ := modifyConnection_cases self eventType eventOP
  · rw [same]
  · rw [same]

theorem modifyConnection_handler (eventType : EventType) (eventOP : EpollEvents) :
    (self.modifyConnection eventType eventOP).2.object.handler = self.object.handler := by
  obtain same | ⟨_, _, same⟩ := modifyConnection_cases self eventType eventOP
  · rw [same]
  · rw [same]
    rfl

theorem Sound.modifyConnection (sound : self.Sound) (eventType : EventType) (eventOP : EpollEvents) :
    (self.modifyConnection eventType eventOP).2.Sound := by
  obtain same | ⟨interest, applied, same⟩ := modifyConnection_cases self eventType eventOP
  · rw [same]
    exact sound
  · rw [same]
    constructor
    · exact sound.version
    · intro held outside
      -- only a deletion of everything ends a registration
      simp only [CoCycle.registered] at held outside
      subst outside
      unfold EpollOp.choose at applied
      rw [if_neg held] at applied
      split at applied <;> cases inside : self.interest <;> simp [EpollOp.apply, inside] at applied
    · intro registration found
      dsimp only at found
      subst found
      unfold EpollOp.choose at applied
      have written : registration.version = self.object.version := by
        split at applied
        · cases inside : self.interest <;> simp [EpollOp.apply, inside] at applied
          rw [← applied]
        · split at applied <;> cases inside : self.interest <;> simp [EpollOp.apply, inside] at applied
          rw [← applied]
      exact ⟨written.trans sound.version, Nat.le_refl _⟩

/-- After `EPOLLOUT` was deleted the connection is not registered for it. -/
theorem Sound.deleted (sound : self.Sound) :
    (self.modifyConnection .del coEventOut).2.object.epollCurEvents.epollout = false := by
  unfold ConnLife.modifyConnection
  dsimp only
  split
  · rename_i same
    rw [← same.1]
    simp [EventType.change, EpollEvents.diff, coEventOut]
  · split
    · rename_i rejected
      -- the kernel rejects nothing but an `ADD`
      unfold EpollOp.choose at rejected
      split at rejected
      · rename_i empty
        rw [empty]
        rfl
      · rename_i held
        have inside := sound.registered held
        split at rejected <;> cases found : self.interest <;> simp_all [EpollOp.apply]
    · simp [CoCycle.registered, EventType.change, EpollEvents.diff, coEventOut]

/-- A write event that is not active stays so, if `EPOLLOUT` is not added. -/
theorem modifyConnection_quiet {eventType : EventType} {eventOP : EpollEvents}
    (quiet : self.object.writeEvent.flagActive = false)
    (out : (eventType.change self.object.epollCurEvents eventOP).epollout = false) :
    (self.modifyConnection eventType eventOP).2.object.writeEvent.flagActive = false := by
  obtain same | ⟨_, _, same⟩ := modifyConnection_cases self eventType eventOP
  · rw [same]
    exact quiet
  · rw [same]
    simp [CoCycle.registered, EpollEvents.meets, coEventOut, out]

theorem modifyConnection_out {eventType : EventType} {eventOP : EpollEvents}
    (before : self.object.epollCurEvents.epollout = false)
    (out : (eventType.change self.object.epollCurEvents eventOP).epollout = false) :
    (self.modifyConnection eventType eventOP).2.object.epollCurEvents.epollout = false := by
  obtain same | ⟨_, _, same⟩ := modifyConnection_cases self eventType eventOP
  · rw [same]
    exact before
  · rw [same]
    exact out

theorem Sound.delConnection (sound : self.Sound) : self.delConnection.Sound := by
  unfold ConnLife.delConnection
  split
  · exact sound
  · split
    · exact sound
    · rename_i interest applied
      cases inside : self.interest with
      | none => simp [EpollOp.apply, inside] at applied
      | some held =>
        simp only [EpollOp.apply, inside, Option.some.injEq] at applied
        subst applied
        exact ⟨sound.version, fun held => absurd rfl held, nofun⟩

theorem delConnection_life : self.delConnection.life = self.life := by
  unfold ConnLife.delConnection
  split
  · rfl
  · split <;> rfl

theorem delConnection_point : self.delConnection.point = self.point := by
  unfold ConnLife.delConnection
  split
  · rfl
  · split <;> rfl

theorem uint32_succ (n : Nat) : uint32 (uint32 n + 1) = uint32 (n + 1) := by
  simp [uint32, Nat.add_mod]

theorem Sound.reset (sound : self.Sound) : self.reset.Sound where
  version := by
    show uint32 (self.object.version + 1) = uint32 (self.life + 1)
    rw [sound.version, uint32_succ]
  registered := sound.registered
  since registration found := by
    obtain ⟨version, life⟩ := sound.since registration found
    exact ⟨version, Nat.le_succ_of_le life⟩

theorem Sound.close (sound : self.Sound) : self.close.Sound where
  version := sound.delConnection.reset.version
  registered := by
    intro held
    exfalso
    apply held
    show self.delConnection.object.epollCurEvents = .zero
    unfold ConnLife.delConnection
    split
    · assumption
    · rename_i nonempty
      cases inside : self.interest with
      | none => exact absurd inside (sound.registered nonempty)
      | some registration => simp [EpollOp.apply, CoCycle.registered]
  since := nofun

theorem close_life : self.close.life = self.life + 1 :=
  congrArg (· + 1) (@delConnection_life self)

theorem close_point : self.close.point = self.point := @delConnection_point self

/-! ### `CoCallbackRequest` -/

/-- The handler is in a call and has the connection. -/
theorem advanced_inside {life : Nat} (sound : self.Sound) (same : self.life = life) (owned : self.owner = .request)
    {point : ChainPoint} (elsewhere : ∀ retCode, point ≠ .requestDestroy retCode) :
    Advanced life { self with point } where
  sound := ⟨sound.version, sound.registered, sound.since⟩
  settled := ⟨fun _ => owned, fun _ => owned, fun retCode stands => absurd stands (elsewhere retCode)⟩
  quiet := .inl same

/-- The connection has been closed. -/
theorem advanced_close (sound : self.Sound) {point : ChainPoint} (outside : point.Outside)
    (elsewhere : ∀ retCode, point ≠ .requestDestroy retCode) :
    Advanced self.life { self.close with point } where
  sound := ⟨sound.close.version, sound.close.registered, sound.close.since⟩
  settled := ⟨fun inside => absurd outside inside, nofun, fun retCode stands => absurd stands (elsewhere retCode)⟩
  quiet := by
    right
    refine ⟨?_, rfl, outside⟩
    show self.life ≤ self.close.life
    rw [close_life]
    exact Nat.le_succ _

theorem freeRequest_advanced (sound : self.Sound) (out : self.object.epollCurEvents.epollout = false) :
    Advanced self.life (self.freeRequest retCode) := by
  unfold freeRequest
  split
  · exact advanced_close sound trivial nofun
  · have added := sound.reset.modifyConnection .add coEventIn
    have deleted := added.modifyConnection .del coEventOut
    have resetOut : self.reset.object.epollCurEvents.epollout = false := out
    have adds : (EventType.add.change self.reset.object.epollCurEvents coEventIn).epollout = false := by
      simp [EventType.change, EpollEvents.union, coEventIn, resetOut]
    have noOut := modifyConnection_out resetOut adds
    constructor
    · exact ⟨deleted.version, deleted.registered, deleted.since⟩
    · exact ⟨fun inside => absurd trivial inside, nofun, nofun⟩
    · right
      refine ⟨?_, ?_, trivial⟩
      · simp only [modifyConnection_life]
        exact Nat.le_succ _
      · apply modifyConnection_quiet
        · exact modifyConnection_quiet rfl adds
        · simp [EventType.change, EpollEvents.diff, noOut]

theorem requestFinalize_advanced (sound : self.Sound) (owned : self.owner = .request)
    (out : self.object.epollCurEvents.epollout = false) :
    Advanced self.life (self.requestFinalize retCode) := by
  unfold requestFinalize
  split
  · exact ⟨⟨sound.version, sound.registered, sound.since⟩, ⟨fun _ => owned, fun _ => owned, fun _ _ => out⟩, .inl rfl⟩
  · exact freeRequest_advanced sound out

theorem requestWritten_advanced (sound : self.Sound) (owned : self.owner = .request) :
    Advanced self.life (self.requestWritten retCode) := by
  rw [← @modifyConnection_life self .del coEventOut]
  apply requestFinalize_advanced (sound.modifyConnection _ _) _ sound.deleted
  rw [modifyConnection_owner]
  exact owned

theorem requestWrite_advanced (sound : self.Sound) (owned : self.owner = .request) :
    Advanced self.life (self.requestWrite retCode calls) := by
  have added := sound.modifyConnection .add coEventOut
  have addedOwned := (@modifyConnection_owner self .add coEventOut).trans owned
  rw [← @modifyConnection_life self .add coEventOut]
  unfold requestWrite
  dsimp only
  split
  · exact requestWritten_advanced added addedOwned
  · split
    · exact advanced_inside added rfl addedOwned nofun
    · exact requestWritten_advanced added addedOwned

theorem requestReceived_advanced (sound : self.Sound) (owned : self.owner = .request) :
    Advanced self.life (self.requestReceived ret calls) := by
  have deleted := sound.modifyConnection .del coEventIn
  have deletedOwned := (@modifyConnection_owner self .del coEventIn).trans owned
  rw [← @modifyConnection_life self .del coEventIn]
  unfold requestReceived
  dsimp only
  split
  · exact requestWrite_advanced deleted deletedOwned
  · exact advanced_inside deleted rfl deletedOwned nofun

theorem requestInit_advanced (sound : self.Sound) : Advanced self.life (self.requestInit calls) := by
  have taken : { self with owner := .request : ConnLife }.Sound :=
    ⟨sound.version, sound.registered, sound.since⟩
  have added := taken.modifyConnection .add coEventRead
  have addedOwned := @modifyConnection_owner { self with owner := .request } .add coEventRead
  have life := @modifyConnection_life { self with owner := .request } .add coEventRead
  show Advanced { self with owner := .request : ConnLife }.life _
  rw [← life]
  unfold requestInit
  dsimp only
  split
  · exact requestReceived_advanced added addedOwned
  · exact advanced_inside added rfl addedOwned nofun

/-! ### `CoCallbackUpstream` -/

theorem freeUpstream_advanced (sound : self.Sound) : Advanced self.life (self.freeUpstream retCode calls) := by
  unfold freeUpstream
  split
  · exact advanced_close sound trivial nofun
  · have deleted := sound.reset.modifyConnection .del (coEventIn.union coEventOut)
    constructor
    · exact ⟨deleted.version, deleted.registered, deleted.since⟩
    · refine ⟨fun inside => absurd trivial inside, ?_, nofun⟩
      intro assigned
      rw [show _ = _ from modifyConnection_handler _ _] at assigned
      cases assigned
    · right
      refine ⟨?_, ?_, trivial⟩
      · simp only [modifyConnection_life]
        exact Nat.le_succ _
      · apply modifyConnection_quiet rfl
        simp [EventType.change, EpollEvents.diff, EpollEvents.union, coEventIn, coEventOut]

theorem upstreamFinalize_advanced (sound : self.Sound) (owned : self.owner = .request) :
    Advanced self.life (self.upstreamFinalize retCode calls) := by
  unfold upstreamFinalize
  split
  · rename_i again
    have failed : retCode ≠ coOk := by simpa using (Bool.and_eq_true_iff.1 again).2
    have freed : self.freeUpstream retCode calls = { self.close with point := .returned } :=
      if_pos (.inl failed)
    rw [freed]
    exact @advanced_close self sound .retryUpstream trivial nofun
  · split
    · exact advanced_inside sound rfl owned nofun
    · exact freeUpstream_advanced sound

theorem upstreamReceived_advanced (sound : self.Sound) (owned : self.owner = .request) :
    Advanced self.life (self.upstreamReceived ret calls) := by
  rw [← @modifyConnection_life self .del coEventIn]
  apply upstreamFinalize_advanced (sound.modifyConnection _ _)
  rw [modifyConnection_owner]
  exact owned

theorem upstreamRead_advanced (sound : self.Sound) (owned : self.owner = .request) :
    Advanced self.life (self.upstreamRead calls) := by
  have added := sound.modifyConnection .add coEventIn
  have addedOwned := (@modifyConnection_owner self .add coEventIn).trans owned
  rw [← @modifyConnection_life self .add coEventIn]
  unfold upstreamRead
  dsimp only
  split
  · exact upstreamReceived_advanced added addedOwned
  · exact advanced_inside added rfl addedOwned nofun

theorem upstreamWritten_advanced (sound : self.Sound) (owned : self.owner = .request)
    (written : self.upstreamWritten ret calls = some next) : Advanced self.life next := by
  have deleted := sound.modifyConnection .del coEventOut
  have deletedOwned := (@modifyConnection_owner self .del coEventOut).trans owned
  rw [← @modifyConnection_life self .del coEventOut]
  unfold upstreamWritten at written
  dsimp only at written
  split at written
  · cases written
  · split at written <;> cases written
    · exact upstreamFinalize_advanced deleted deletedOwned
    · exact upstreamRead_advanced deleted deletedOwned

theorem upstreamWrite_advanced (sound : self.Sound) (owned : self.owner = .request)
    (writes : self.upstreamWrite calls = some next) : Advanced self.life next := by
  have added := sound.modifyConnection .add coEventOut
  have addedOwned := (@modifyConnection_owner self .add coEventOut).trans owned
  rw [← @modifyConnection_life self .add coEventOut]
  unfold upstreamWrite at writes
  dsimp only at writes
  split at writes
  · exact upstreamWritten_advanced added addedOwned writes
  · split at writes
    · cases writes
      exact advanced_inside added rfl addedOwned nofun
    · exact upstreamWritten_advanced added addedOwned writes

theorem upstreamInit_advanced (sound : self.Sound) (owned : self.owner = .request)
    (inits : self.upstreamInit calls = some next) : Advanced self.life next := by
  unfold upstreamInit at inits
  split at inits
  · exact upstreamWrite_advanced sound owned inits
  · have added := sound.modifyConnection .add coEventWrite
    have addedOwned := (@modifyConnection_owner self .add coEventWrite).trans owned
    rw [← @modifyConnection_life self .add coEventWrite]
    dsimp only at inits
    split at inits <;> cases inits
    · exact upstreamFinalize_advanced added addedOwned
    · exact advanced_inside added rfl addedOwned nofun

/-! ### Its coroutine -/

theorem Sound.setStatus (sound : self.Sound) (status : CoroutineStatus) : (self.setStatus status).Sound :=
  ⟨sound.version, sound.registered, sound.since⟩

theorem Settled.setStatus (settled : self.Settled) (status : CoroutineStatus) :
    (self.setStatus status).Settled :=
  ⟨settled.owned, settled.assigned, settled.destroys⟩

theorem start_advanced (sound : self.Sound) (settled : self.Settled)
    (starts : self.start calls = some next) : Advanced self.life next := by
  unfold start at starts
  split at starts
  · cases starts
    exact requestInit_advanced sound
  · rename_i handler
    exact upstreamInit_advanced sound (settled.assigned handler) starts
  · cases starts
  · cases starts
  · cases starts

/-- A connection in trouble is marked; it is freed only if no request has it. -/
theorem eventException_cases (self : ConnLife) :
    (self.eventException.2 = self ∨
      self.eventException.2 = { self with object := { self.object with flagDying := true } }) ∧
    (self.eventException.1 = .frees → self.owner ≠ .request) := by
  unfold eventException
  split
  · exact ⟨.inl rfl, nofun⟩
  · dsimp only
    split
    · exact ⟨.inr rfl, nofun⟩
    · split
      · exact ⟨.inr rfl, nofun⟩
      · split
        · rename_i idle
          exact ⟨.inr rfl, fun _ => idle⟩
        · split
          · exact ⟨.inr rfl, nofun⟩
          · exact ⟨.inr rfl, nofun⟩

theorem eventException_sound (sound : self.Sound) : self.eventException.2.Sound := by
  obtain same | same := (eventException_cases self).1
  · rw [same]
    exact sound
  · rw [same]
    exact ⟨sound.version, sound.registered, sound.since⟩

theorem eventException_settled (settled : self.Settled) : self.eventException.2.Settled := by
  obtain same | same := (eventException_cases self).1
  · rw [same]
    exact settled
  · rw [same]
    exact ⟨settled.owned, settled.assigned, settled.destroys⟩

/-- Nothing a report looks at changes. -/
theorem eventException_calm (self : ConnLife) : self.eventException.2.life = self.life ∧
    self.eventException.2.object.writeEvent = self.object.writeEvent ∧
    self.eventException.2.point = self.point ∧ self.eventException.2.owner = self.owner := by
  obtain same | same := (eventException_cases self).1
  · rw [same]
    exact ⟨rfl, rfl, rfl, rfl⟩
  · rw [same]
    exact ⟨rfl, rfl, rfl, rfl⟩

theorem Sound.give (sound : self.Sound) (owner : ConnOwner) (handler : Handler) (userDestroy : Bool) :
    (self.give owner handler userDestroy).Sound :=
  ⟨sound.version, sound.registered, sound.since⟩

/-- A handler that is still at work on the connection has given it back. -/
theorem Settled.give (settled : self.Settled) (idle : self.owner ≠ .request) {owner : ConnOwner}
    {handler : Handler} (assigned : handler = .upstreamInit → owner = .request) (userDestroy : Bool) :
    (self.give owner handler userDestroy).Settled where
  owned inside := absurd (settled.owned inside) idle
  assigned same := assigned (Option.some.inj same)
  destroys retCode stands := by
    have inside : ¬self.point.Outside := by
      rw [show self.point = .requestDestroy retCode from stands]
      exact id
    exact absurd (settled.owned inside) idle

/-- A connection that no request has can be closed at any time. -/
theorem Settled.close (settled : self.Settled) (idle : self.owner ≠ .request) : self.close.Settled where
  owned inside := absurd (settled.owned (close_point ▸ inside)) idle
  assigned := nofun
  destroys retCode stands := by
    have inside : ¬self.point.Outside := by
      rw [← close_point, stands]
      exact id
    exact absurd (settled.owned inside) idle

theorem returns_outside (outside : self.point.Outside) (returned : self.returns ret calls = some next) :
    next = { self with point := .returned } := by
  unfold returns at returned
  cases stands : self.point <;> simp only [stands, ChainPoint.Outside] at returned outside
  all_goals cases returned
  rfl

theorem returns_advanced (sound : self.Sound) (settled : self.Settled)
    (returned : self.returns ret calls = some next) : Advanced self.life next := by
  have owned : ¬self.point.Outside → self.owner = .request := settled.owned
  unfold returns at returned
  cases stands : self.point with
  | returned | retryUpstream => simp [stands] at returned
  | requestRead =>
    simp only [stands] at returned owned
    cases returned
    exact requestReceived_advanced sound (owned id)
  | userProcess =>
    simp only [stands] at returned owned
    cases returned
    exact requestWrite_advanced sound (owned id)
  | requestWrite retCode =>
    simp only [stands] at returned owned
    cases returned
    exact requestWritten_advanced sound (owned id)
  | requestDestroy retCode =>
    simp only [stands] at returned
    cases returned
    exact freeRequest_advanced sound (settled.destroys retCode stands)
  | clientConnect =>
    simp only [stands] at returned owned
    split at returned
    · cases returned
      exact upstreamFinalize_advanced sound (owned id)
    · exact upstreamWrite_advanced sound (owned id) returned
  | upstreamWrite =>
    simp only [stands] at returned owned
    exact upstreamWritten_advanced sound (owned id) returned
  | upstreamRead =>
    simp only [stands] at returned owned
    cases returned
    exact upstreamReceived_advanced sound (owned id)
  | upstreamDestroy retCode =>
    simp only [stands] at returned
    cases returned
    exact freeUpstream_advanced sound
  | retryDestroy =>
    simp only [stands] at returned
    cases returned
    exact ⟨⟨sound.version, sound.registered, sound.since⟩,
      ⟨fun inside => absurd trivial inside, settled.assigned, nofun⟩, .inl rfl⟩

end

end ConnLife

/-! ## The thread -/

/-- The life of the entry, or one so much later that the versions agree again. -/
def Current (since life : Nat) : Prop := life = since ∨ since + 2 ^ 32 ≤ life

/-- Equal versions are what is checked. -/
theorem current_of_version {since life : Nat} (before : since ≤ life) (same : uint32 life = uint32 since) :
    Current since life := by
  simp only [uint32] at same
  unfold Current
  omega

namespace LifeRun

/-- A version that the connection had in a life before or has now. -/
structure Captured (conns : Nat → ConnLife) (connection version life : Nat) : Prop where
  version : version = uint32 life
  before : life ≤ (conns connection).life

/-- Behind the check of an element of the batch its connection is in the life of the report.  Behind
    the read half it may have been reset, but then it is quiet. -/
def Reports (conns : Nat → ConnLife) (running : Option Nat) : Half → BatchEntry → Prop
  | .read, entry => running = none ∧ Current entry.life (conns entry.connection).life
  | .write, entry => Current entry.life (conns entry.connection).life ∨
    (conns entry.connection).object.writeEvent.flagActive = false ∧
      (running = some entry.connection → (conns entry.connection).point.Outside)

structure LifeInv (run : LifeRun) : Prop where
  sound : ∀ connection, (run.conns connection).Sound
  settled : ∀ connection, (run.conns connection).Settled
  queues : ∀ queue, ∀ entry ∈ run.queues queue, Captured run.conns entry.connection entry.version entry.life
  data : ∀ entry ∈ run.coroutineData, Captured run.conns entry.connection entry.version entry.life
  batch : ∀ entry ∈ run.batch, Captured run.conns entry.connection entry.report.version entry.life
  reporting : ∀ half entry, run.reporting = some (half, entry) →
    Reports run.conns run.running half entry
  calls : ∀ call ∈ run.calls, ∀ since, call.since = some since → Current since call.life

section
variable {run next : LifeRun} {connection : Nat} {conn : ConnLife} {calls : ChainCalls}

theorem Captured.checked {version life : Nat} (captured : Captured run.conns connection version life)
    (sound : (run.conns connection).Sound)
    (same : (run.conns connection).object.version = version) :
    Current life (run.conns connection).life := by
  apply current_of_version captured.before
  rw [← sound.version, same, captured.version]

/-- One connection has moved on, and its coroutine has the thread, or nobody, or who had it. -/
theorem LifeInv.put (inv : LifeInv run) (sound : conn.Sound) (settled : conn.Settled)
    (later : (run.conns connection).life ≤ conn.life) {running : Option Nat}
    (runs : running = run.running ∨ running = none ∨
      running = some connection ∧ ∀ entry, run.reporting ≠ some (.read, entry))
    (own : ∀ half entry, run.reporting = some (half, entry) → entry.connection = connection →
      Reports (run.put connection conn).conns running half entry) :
    LifeInv { run.put connection conn with running } := by
  have lives : ∀ other, (run.conns other).life ≤ ((run.put connection conn).conns other).life := by
    intro other
    by_cases same : other = connection
    · subst same
      simpa [LifeRun.put] using later
    · simp [LifeRun.put, same]
  have captured : ∀ other version life, Captured run.conns other version life →
      Captured (run.put connection conn).conns other version life :=
    fun other _ _ before => ⟨before.version, before.before.trans (lives other)⟩
  constructor
  · intro other
    by_cases same : other = connection
    · subst same
      simpa [LifeRun.put] using sound
    · simpa [LifeRun.put, same] using inv.sound other
  · intro other
    by_cases same : other = connection
    · subst same
      simpa [LifeRun.put] using settled
    · simpa [LifeRun.put, same] using inv.settled other
  · exact fun queue entry mem => captured _ _ _ (inv.queues queue entry mem)
  · exact fun entry mem => captured _ _ _ (inv.data entry mem)
  · exact fun entry mem => captured _ _ _ (inv.batch entry mem)
  · intro half entry reporting
    by_cases same : entry.connection = connection
    · exact own half entry reporting same
    · have before := inv.reporting half entry reporting
      cases half with
      | read =>
        simp only [Reports, LifeRun.put, Function.update_of_ne same] at before ⊢
        refine ⟨?_, before.2⟩
        obtain kept | nobody | ⟨-, notRead⟩ := runs
        · exact kept.trans before.1
        · exact nobody
        · exact absurd reporting (notRead entry)
      | write =>
        simp only [Reports, LifeRun.put, Function.update_of_ne same] at before ⊢
        obtain current | ⟨inactive, outside⟩ := before
        · exact .inl current
        · refine .inr ⟨inactive, fun running => outside ?_⟩
          obtain kept | nobody | ⟨moved, -⟩ := runs
          · exact kept.symm.trans running
          · cases nobody.symm.trans running
          · cases moved.symm.trans running
            exact absurd rfl same
  · exact inv.calls

/-- The connection changes in a way that no report sees. -/
theorem LifeInv.put_calm (inv : LifeInv run) (sound : conn.Sound) (settled : conn.Settled)
    (life : conn.life = (run.conns connection).life)
    (active : conn.object.writeEvent.flagActive = (run.conns connection).object.writeEvent.flagActive)
    (point : conn.point = (run.conns connection).point) : LifeInv (run.put connection conn) := by
  apply inv.put sound settled life.ge (.inl rfl)
  intro half entry reporting same
  subst same
  have before := inv.reporting half entry reporting
  cases half <;> simpa [Reports, LifeRun.put, life, active, point] using before

/-- The handler goes on in the life it is in, as far as a report sees. -/
theorem LifeInv.enter (inv : LifeInv run) (notRead : ∀ entry, run.reporting ≠ some (.read, entry))
    (current : ∀ entry, run.reporting = some (.write, entry) → entry.connection = connection →
      Current entry.life (run.conns connection).life)
    (advanced : conn.Advanced (run.conns connection).life) : LifeInv (run.enter connection conn) := by
  have later : (run.conns connection).life ≤ conn.life := by
    obtain same | ⟨later, -⟩ := advanced.quiet
    · exact same.ge
    · exact later
  have sound := advanced.sound
  have settled := advanced.settled
  unfold LifeRun.enter
  split
  · rename_i returned
    apply inv.put (sound.setStatus .ready) (settled.setStatus .ready) later (.inr (.inl rfl))
    intro half entry reporting same
    cases half with
    | read => exact absurd reporting (notRead entry)
    | write =>
      have before := current entry reporting same
      subst same
      simp only [Reports, LifeRun.put, Function.update_self]
      obtain life | ⟨-, inactive, -⟩ := advanced.quiet
      · exact .inl (life ▸ before)
      · exact .inr ⟨inactive, nofun⟩
  · apply inv.put sound settled later (.inr (.inr ⟨rfl, notRead⟩))
    intro half entry reporting same
    cases half with
    | read => exact absurd reporting (notRead entry)
    | write =>
      have before := current entry reporting same
      subst same
      simp only [Reports, LifeRun.put, Function.update_self]
      obtain life | ⟨-, inactive, outside⟩ := advanced.quiet
      · exact .inl (life ▸ before)
      · exact .inr ⟨inactive, fun _ => outside⟩

/-- A connection that no request has is closed. -/
theorem LifeInv.close (inv : LifeInv run) (sound : conn.Sound) (settled : conn.Settled)
    (idle : conn.owner ≠ .request) (life : conn.life = (run.conns connection).life)
    (point : conn.point = (run.conns connection).point)
    (notRead : ∀ entry, run.reporting ≠ some (.read, entry)) : LifeInv (run.put connection conn.close) := by
  apply inv.put sound.close (settled.close idle) _ (.inl rfl)
  · intro half entry reporting same
    cases half with
    | read => exact absurd reporting (notRead entry)
    | write =>
      subst same
      right
      simp only [LifeRun.put, Function.update_self, ConnLife.close_point]
      refine ⟨rfl, fun _ => ?_⟩
      by_contra inside
      exact idle (settled.owned inside)
  · rw [ConnLife.close_life, life]
    exact Nat.le_succ _

/-- A connection that is dispatched in the life of what it is dispatched for. -/
theorem LifeInv.funcDispatcher (inv : LifeInv run)
    (notRead : ∀ entry, run.reporting ≠ some (.read, entry))
    (current : ∀ entry, run.reporting = some (.write, entry) → entry.connection = connection →
      Current entry.life (run.conns connection).life) {since : Option Nat}
    (known : ∀ life, since = some life → Current life (run.conns connection).life)
    (dispatched : run.funcDispatcher connection since calls = some next) : LifeInv next := by
  have called : LifeInv { run with
      calls := run.calls ++ [⟨connection, since, (run.conns connection).life⟩] } := by
    refine ⟨inv.sound, inv.settled, inv.queues, inv.data, inv.batch, inv.reporting, ?_⟩
    intro call mem life since
    obtain before | now := List.mem_append.1 mem
    · exact inv.calls call before life since
    · cases List.mem_singleton.1 now
      exact known life since
  have sound := ConnLife.eventException_sound (inv.sound connection)
  have settled := ConnLife.eventException_settled (inv.settled connection)
  have idle := (ConnLife.eventException_cases (run.conns connection)).2
  obtain ⟨life, active, point, owner⟩ := ConnLife.eventException_calm (run.conns connection)
  unfold LifeRun.funcDispatcher at dispatched
  dsimp only at dispatched
  generalize (run.conns connection).eventException = result at sound settled idle life active point owner dispatched
  obtain ⟨answer, conn⟩ := result
  dsimp only at sound settled idle life active point owner
  cases answer with
  | exception =>
    cases dispatched
    exact called.put_calm sound settled life (congrArg _ active) point
  | frees =>
    dsimp only at dispatched
    split at dispatched
    · cases dispatched
    · cases dispatched
      exact called.close sound settled (owner ▸ idle rfl) life point notRead
  | goesOn =>
    dsimp only at dispatched
    cases status : conn.object.coroutineStatus with
    | suspend =>
      simp only [status] at dispatched
      cases dispatched
      apply called.put sound settled life.ge (.inr (.inr ⟨rfl, notRead⟩))
      intro half entry reporting same
      cases half with
      | read => exact absurd reporting (notRead entry)
      | write =>
        have before := current entry reporting same
        subst same
        left
        simp only [LifeRun.put, Function.update_self, life]
        exact before
    | ready =>
      simp only [status] at dispatched
      obtain ⟨started, starts, same⟩ := Option.map_eq_some_iff.1 dispatched
      cases same
      have advanced := ConnLife.start_advanced (sound.setStatus .suspend) (settled.setStatus .suspend) starts
      apply called.enter notRead current
      exact life ▸ advanced

/-- While a coroutine runs, no element of the batch is between its check and its read half. -/
theorem LifeInv.notRead (inv : LifeInv run) (runs : run.running = some connection) (entry : BatchEntry) :
    run.reporting ≠ some (.read, entry) := by
  intro reporting
  cases (inv.reporting _ _ reporting).1.symm.trans runs

/-- The handler goes on behind the end of its request. -/
theorem LifeInv.enter_outside (inv : LifeInv run) (runs : run.running = some connection)
    (sound : conn.Sound) (settled : conn.Settled) (life : conn.life = (run.conns connection).life)
    (active : conn.object.writeEvent.flagActive = (run.conns connection).object.writeEvent.flagActive)
    (outside : conn.point.Outside) : LifeInv (run.enter connection conn) := by
  have notRead := inv.notRead runs
  unfold LifeRun.enter
  split
  · apply inv.put (sound.setStatus .ready) (settled.setStatus .ready) life.ge (.inr (.inl rfl))
    intro half entry reporting same
    cases half with
    | read => exact absurd reporting (notRead entry)
    | write =>
      subst same
      simp only [Reports, LifeRun.put, Function.update_self]
      obtain before | ⟨inactive, -⟩ := inv.reporting _ _ reporting
      · exact .inl (life ▸ before)
      · exact .inr ⟨active.trans inactive, nofun⟩
  · apply inv.put sound settled life.ge (.inr (.inr ⟨rfl, notRead⟩))
    intro half entry reporting same
    cases half with
    | read => exact absurd reporting (notRead entry)
    | write =>
      subst same
      simp only [Reports, LifeRun.put, Function.update_self]
      obtain before | ⟨inactive, -⟩ := inv.reporting _ _ reporting
      · exact .inl (life ▸ before)
      · exact .inr ⟨active.trans inactive, fun _ => outside⟩

/-! ## Any step -/

theorem LifeInv.entry_captured (inv : LifeInv run) (connection : Nat) :
    Captured run.conns connection (run.entry connection).version (run.entry connection).life :=
  ⟨(inv.sound connection).version, Nat.le_refl _⟩

theorem LifeInv.push (inv : LifeInv run) {entry : QueueEntry} (queue : WorkQueue)
    (captured : Captured run.conns entry.connection entry.version entry.life) :
    LifeInv (run.push queue entry) := by
  refine ⟨inv.sound, inv.settled, ?_, inv.data, inv.batch, inv.reporting, inv.calls⟩
  intro other pushed mem
  by_cases same : other = queue
  · subst same
    simp only [LifeRun.push, Function.update_self, List.mem_append, List.mem_singleton] at mem
    obtain before | now := mem
    · exact inv.queues other pushed before
    · subst now
      exact captured
  · simp only [LifeRun.push, Function.update_of_ne same] at mem
    exact inv.queues other pushed mem

theorem LifeInv.give (inv : LifeInv run) (idle : (run.conns connection).owner ≠ .request) {owner : ConnOwner}
    {handler : Handler} (assigned : handler = .upstreamInit → owner = .request) (userDestroy : Bool) :
    LifeInv (run.put connection ((run.conns connection).give owner handler userDestroy)) :=
  inv.put_calm ((inv.sound connection).give owner handler userDestroy)
    ((inv.settled connection).give idle assigned userDestroy) rfl rfl rfl

theorem LifeInv.assign (inv : LifeInv run) (idle : (run.conns connection).owner ≠ .request)
    (userDestroy : Bool) : LifeInv (run.assign connection userDestroy) := by
  have assigned := @LifeInv.give run connection inv idle .request .upstreamInit (fun _ => rfl) userDestroy
  exact assigned.push _ (assigned.entry_captured connection)

theorem idle_of_available (available : run.available connection = true) :
    (run.conns connection).owner ≠ .request := by
  intro owned
  simp [LifeRun.available, owned] at available

theorem LifeInv.pendingEof (inv : LifeInv run) (connection : Nat) :
    LifeInv (run.put connection (run.conns connection).pendingEof) := by
  have sound := inv.sound connection
  have settled := inv.settled connection
  exact inv.put_calm ⟨sound.version, sound.registered, sound.since⟩
    ⟨settled.owned, settled.assigned, settled.destroys⟩ rfl rfl rfl

theorem reporting_of_idle (idle : run.idle = true) : run.reporting = none := by
  simp only [LifeRun.idle, Bool.and_eq_true, Option.isNone_iff_eq_none] at idle
  exact idle.2

theorem running_of_idle (idle : run.idle = true) : run.running = none := by
  simp only [LifeRun.idle, Bool.and_eq_true, Option.isNone_iff_eq_none] at idle
  exact idle.1

theorem LifeInv.pop (inv : LifeInv run) {queue : WorkQueue} {entry : QueueEntry} {rest : List QueueEntry}
    (queued : run.queues queue = entry :: rest) :
    LifeInv { run with queues := Function.update run.queues queue rest } := by
  refine ⟨inv.sound, inv.settled, ?_, inv.data, inv.batch, inv.reporting, inv.calls⟩
  intro other left mem
  by_cases same : other = queue
  · subst same
    simp only [Function.update_self] at mem
    exact inv.queues _ _ (queued ▸ List.mem_cons_of_mem _ mem)
  · simp only [Function.update_of_ne same] at mem
    exact inv.queues _ _ mem

/-- The handler has given its connection back and goes on. -/
theorem LifeInv.gaveBack (inv : LifeInv run) (runs : run.running = some connection) {point : ChainPoint}
    (outside : point.Outside) : LifeInv (run.enter connection { run.conns connection with point }) := by
  have sound := inv.sound connection
  have destroys : ∀ retCode, point ≠ .requestDestroy retCode := by
    rintro retCode rfl
    exact outside
  exact inv.enter_outside runs ⟨sound.version, sound.registered, sound.since⟩
    ⟨fun inside => absurd outside inside, (inv.settled connection).assigned,
      fun retCode stands => absurd stands (destroys retCode)⟩ rfl rfl outside

/-- Without a report at hand only the life of what the connection is dispatched for counts. -/
theorem LifeInv.funcDispatcher_unreported (inv : LifeInv run) (unreported : run.reporting = none)
    {since : Option Nat} (known : ∀ life, since = some life → Current life (run.conns connection).life)
    (dispatched : run.funcDispatcher connection since calls = some next) : LifeInv next := by
  apply inv.funcDispatcher _ _ known dispatched
  · intro entry reporting
    cases unreported.symm.trans reporting
  · intro entry reporting
    cases unreported.symm.trans reporting

/-- The entry whose version was checked is of this life, up to a whole turn of the version. -/
theorem LifeInv.readHalf (inv : LifeInv run) {entry : BatchEntry} (stands : run.reporting = some (.read, entry))
    (stepped : run.step (.readHalf calls) = some next) : LifeInv next := by
  simp only [LifeRun.step, stands] at stepped
  obtain ⟨nobody, current⟩ := inv.reporting _ _ stands
  have moved : LifeInv { run with reporting := some (.write, entry) } := by
    refine ⟨inv.sound, inv.settled, inv.queues, inv.data, inv.batch, ?_, inv.calls⟩
    intro half other reporting
    cases reporting
    exact .inl current
  split at stepped
  · split at stepped
    · have hungUp := moved.pendingEof entry.connection
      apply hungUp.funcDispatcher nofun _ _ stepped
      · intro other reporting _
        cases reporting
        simpa [LifeRun.put, ConnLife.pendingEof] using current
      · intro life same
        cases same
        simpa [LifeRun.put, ConnLife.pendingEof] using current
    · apply moved.funcDispatcher nofun _ _ stepped
      · intro other reporting _
        cases reporting
        exact current
      · intro life same
        cases same
        exact current
  · cases stepped
    exact moved

/-- The version is not checked again, but an active write event shows that nothing was reset. -/
theorem LifeInv.writeHalf (inv : LifeInv run) {entry : BatchEntry} (stands : run.reporting = some (.write, entry))
    (stepped : run.step (.writeHalf calls) = some next) : LifeInv next := by
  simp only [LifeRun.step, stands] at stepped
  obtain ⟨-, goesOn⟩ := Option.ite_none_right_eq_some.1 stepped
  have moved : LifeInv { run with reporting := none } :=
    ⟨inv.sound, inv.settled, inv.queues, inv.data, inv.batch, nofun, inv.calls⟩
  split at goesOn
  · rename_i writes
    have current : Current entry.life (run.conns entry.connection).life := by
      obtain current | ⟨inactive, -⟩ := inv.reporting _ _ stands
      · exact current
      · -- a connection that was reset behind the read half is not dispatched
        simp [inactive] at writes
    apply moved.funcDispatcher_unreported rfl _ goesOn
    intro life same
    cases same
    exact current
  · cases goesOn
    exact moved

theorem LifeInv.step {event : LifeEvent} (inv : LifeInv run) (stepped : run.step event = some next) :
    LifeInv next := by
  cases event with
  | accept connection userDestroy =>
    obtain ⟨isPool, same⟩ := Option.ite_none_right_eq_some.1 stepped
    cases same
    have accepted := @LifeInv.give run connection inv (by simp [isPool]) .client .requestInit nofun userDestroy
    exact accepted.push _ (accepted.entry_captured connection)
  | addUpstream connection userDestroy =>
    obtain ⟨allowed, same⟩ := Option.ite_none_right_eq_some.1 stepped
    cases same
    exact inv.assign (idle_of_available (Bool.and_eq_true_iff.1 allowed).2) userDestroy
  | dropUpstream connection =>
    obtain ⟨allowed, same⟩ := Option.ite_none_right_eq_some.1 stepped
    cases same
    obtain ⟨runs, available⟩ := Bool.and_eq_true_iff.1 allowed
    obtain ⟨runner, runs⟩ := Option.isSome_iff_exists.1 runs
    exact inv.close (inv.sound _) (inv.settled _) (idle_of_available available) rfl rfl (inv.notRead runs)
  | retryUpstream retried =>
    obtain ⟨connection, runs, goesOn⟩ := Option.bind_eq_some_iff.1 stepped
    obtain ⟨stands, goesOn⟩ := Option.ite_none_right_eq_some.1 goesOn
    cases retried with
    | none =>
      cases goesOn
      split
      · exact inv.gaveBack runs trivial
      · exact inv.gaveBack runs trivial
    | some other =>
      obtain ⟨available, same⟩ := Option.ite_none_right_eq_some.1 goesOn
      cases same
      have assigned := inv.assign (idle_of_available available) (run.conns connection).userDestroy
      exact assigned.gaveBack runs trivial
  | mark connection marks =>
    cases stepped
    have sound := inv.sound connection
    have settled := inv.settled connection
    exact inv.put_calm ⟨sound.version, sound.registered, sound.since⟩
      ⟨settled.owned, settled.assigned, settled.destroys⟩ rfl rfl rfl
  | capture connection =>
    cases stepped
    refine ⟨inv.sound, inv.settled, inv.queues, ?_, inv.batch, inv.reporting, inv.calls⟩
    intro entry mem
    obtain before | now := List.mem_append.1 mem
    · exact inv.data entry before
    · cases List.mem_singleton.1 now
      exact inv.entry_captured connection
  | resume single entry =>
    obtain ⟨found, mem, same⟩ := Option.map_eq_some_iff.1 stepped
    cases same
    exact inv.push _ (inv.data found (List.mem_of_getElem? mem))
  | delay connection =>
    cases stepped
    exact inv.push _ (inv.entry_captured connection)
  | pop queue calls =>
    simp only [LifeRun.step] at stepped
    cases queued : run.queues queue with
    | nil => simp [queued] at stepped
    | cons entry rest =>
      simp only [queued] at stepped
      obtain ⟨allowed, goesOn⟩ := Option.ite_none_right_eq_some.1 stepped
      have notReporting := reporting_of_idle (Bool.and_eq_true_iff.1 allowed).1
      have popped : LifeInv { run with queues := Function.update run.queues queue rest } := inv.pop queued
      split at goesOn
      · cases goesOn
        exact popped
      · rename_i same
        have captured := inv.queues queue entry (queued ▸ List.mem_cons_self)
        have current := captured.checked (inv.sound _) (not_not.1 same)
        apply popped.funcDispatcher_unreported notReporting _ goesOn
        intro life same
        cases same
        exact current
  | epollWait reports =>
    obtain ⟨-, same⟩ := Option.ite_none_right_eq_some.1 stepped
    cases same
    refine ⟨inv.sound, inv.settled, inv.queues, inv.data, ?_, inv.reporting, inv.calls⟩
    intro entry mem
    obtain ⟨⟨connection, events⟩, -, found⟩ := List.mem_filterMap.1 mem
    obtain ⟨registration, registered, same⟩ := Option.map_eq_some_iff.1 found
    cases same
    obtain ⟨version, before⟩ := (inv.sound connection).since registration registered
    exact ⟨version, before⟩
  | check =>
    simp only [LifeRun.step] at stepped
    cases waiting : run.batch with
    | nil => simp [waiting] at stepped
    | cons entry batch =>
      simp only [waiting] at stepped
      obtain ⟨idle, goesOn⟩ := Option.ite_none_right_eq_some.1 stepped
      have nobody := running_of_idle idle
      have rest : ∀ other ∈ batch, Captured run.conns other.connection other.report.version other.life :=
        fun other mem => inv.batch other (waiting ▸ List.mem_cons_of_mem _ mem)
      split at goesOn
      · cases goesOn
        exact ⟨inv.sound, inv.settled, inv.queues, inv.data, rest, inv.reporting, inv.calls⟩
      · rename_i same
        cases goesOn
        refine ⟨inv.sound, inv.settled, inv.queues, inv.data, rest, ?_, inv.calls⟩
        intro half other reporting
        cases reporting
        have captured := inv.batch entry (waiting ▸ List.mem_cons_self)
        exact ⟨nobody, captured.checked (inv.sound _) (not_not.1 same)⟩
  | readHalf calls =>
    cases stands : run.reporting with
    | none => simp [LifeRun.step, stands] at stepped
    | some reporting =>
      obtain ⟨half, entry⟩ := reporting
      cases half with
      | write => simp [LifeRun.step, stands] at stepped
      | read => exact inv.readHalf stands stepped
  | writeHalf calls =>
    cases stands : run.reporting with
    | none => simp [LifeRun.step, stands] at stepped
    | some reporting =>
      obtain ⟨half, entry⟩ := reporting
      cases half with
      | read => simp [LifeRun.step, stands] at stepped
      | write => exact inv.writeHalf stands stepped
  | timer connection calls =>
    obtain ⟨allowed, dispatched⟩ := Option.ite_none_right_eq_some.1 stepped
    have notReporting := reporting_of_idle (Bool.and_eq_true_iff.1 allowed).1
    apply inv.funcDispatcher_unreported notReporting _ dispatched
    nofun
  | blockConn connection =>
    obtain ⟨allowed, same⟩ := Option.ite_none_right_eq_some.1 stepped
    cases same
    have notReporting := reporting_of_idle (Bool.and_eq_true_iff.1 allowed).1
    refine ⟨inv.sound, inv.settled, inv.queues, inv.data, inv.batch, ?_, inv.calls⟩
    intro half entry reporting
    cases notReporting.symm.trans reporting
  | returns ret calls =>
    obtain ⟨connection, runs, goesOn⟩ := Option.bind_eq_some_iff.1 stepped
    obtain ⟨conn, returned, same⟩ := Option.map_eq_some_iff.1 goesOn
    cases same
    by_cases outside : (run.conns connection).point.Outside
    · obtain same := ConnLife.returns_outside outside returned
      subst same
      exact inv.gaveBack runs trivial
    · apply inv.enter (inv.notRead runs) _
        (ConnLife.returns_advanced (inv.sound connection) (inv.settled connection) returned)
      intro entry reporting same
      subst same
      obtain current | ⟨-, gone⟩ := inv.reporting _ _ reporting
      · exact current
      · exact absurd (gone runs) outside
  | suspend =>
    obtain ⟨connection, runs, goesOn⟩ := Option.bind_eq_some_iff.1 stepped
    obtain ⟨-, same⟩ := Option.ite_none_left_eq_some.1 goesOn
    cases same
    refine ⟨inv.sound, inv.settled, inv.queues, inv.data, inv.batch, ?_, inv.calls⟩
    intro half entry reporting
    cases half with
    | read => exact absurd reporting (inv.notRead runs entry)
    | write =>
      obtain current | ⟨inactive, -⟩ := inv.reporting _ _ reporting
      · exact .inl current
      · exact .inr ⟨inactive, nofun⟩

end

/-! ## Runs -/

theorem lifeInv_start : LifeInv {} where
  sound _ := ⟨rfl, fun held => absurd rfl held, nofun⟩
  settled _ := ⟨fun inside => absurd trivial inside, nofun, nofun⟩
  queues _ _ mem := by cases mem
  data _ mem := by cases mem
  batch _ mem := by cases mem
  reporting := nofun
  calls _ mem := by cases mem

end LifeRun

/-- In every run: if `func_dispatcher` is called for an entry of a queue or for a report of `epoll_wait`,
    and the connection was reset less than `2 ^ 32` times since the version of the entry was read or the
    registration was made, then it was not reset at all since then. -/
theorem stale_not_dispatched {events : List LifeEvent} {final : LifeRun}
    (ran : events.foldlM LifeRun.step {} = some final) :
    ∀ call ∈ final.calls, ∀ since, call.since = some since → call.life < since + 2 ^ 32 →
      call.life = since := by
  intro call mem since known recent
  have inv := Lib.run_keeps LifeRun.step LifeRun.LifeInv (fun _ _ _ inv stepped => inv.step stepped)
    LifeRun.lifeInv_start ran
  obtain same | late := inv.calls call mem since known
  · exact same
  · exact absurd recent (Nat.not_lt.2 late)

/-- A request is read, handled and answered in the read half of one report, and the connection is kept
    alive; a wake-up for the request comes late. -/
def wokenLate : List LifeEvent :=
  [.accept 0 false, .pop .delayConnections {}, .suspend, .epollWait [(0, { epollin := true })], .check,
    .readHalf {}, .capture 0, .returns coOk {}, .returns coOk {}, .returns coOk {}, .writeHalf {},
    .resume false 0, .pop .waitResumes {}]

theorem wokenLate_dropped : ∃ final, wokenLate.foldlM LifeRun.step {} = some final ∧
    final.calls.length = 2 ∧ ∀ call ∈ final.calls, ∀ since, call.since = some since →
      call.life < since + 2 ^ 32 → call.life = since :=
  ⟨_, rfl, rfl, @stale_not_dispatched wokenLate _ rfl⟩

end CoServer
