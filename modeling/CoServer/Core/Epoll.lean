import CoServer.Core.Cycle

/-! # `CoEpoll`: what a connection is registered for

The kernel rejects an `EPOLL_CTL_ADD` of a registered descriptor, and an
`EPOLL_CTL_MOD` or `EPOLL_CTL_DEL` of one that is not. -/

namespace CoServer

inductive EpollOp where
  | add
  | mod
  | del
deriving DecidableEq

def Kernel.epollCtl (kernel : Kernel) (op : EpollOp) (fd : Int) (registration : Registration) :
    Int × Kernel :=
  match op, kernel.interest fd with
  | .add, none | .mod, some _ =>
    (0, { kernel with interest := Function.update kernel.interest fd (some registration) })
  | .del, some _ => (0, { kernel with interest := Function.update kernel.interest fd none })
  | _, _ => (-1, kernel)

section
variable {kernel : Kernel} {fd : Int}

theorem Kernel.epollCtl_add (outside : kernel.interest fd = none) (registration : Registration) :
    kernel.epollCtl .add fd registration =
      (0, { kernel with interest := Function.update kernel.interest fd (some registration) }) := by
  simp [Kernel.epollCtl, outside]

theorem Kernel.epollCtl_mod {held : Registration} (inside : kernel.interest fd = some held)
    (registration : Registration) :
    kernel.epollCtl .mod fd registration =
      (0, { kernel with interest := Function.update kernel.interest fd (some registration) }) := by
  simp [Kernel.epollCtl, inside]

theorem Kernel.epollCtl_del {held : Registration} (inside : kernel.interest fd = some held)
    (registration : Registration) :
    kernel.epollCtl .del fd registration =
      (0, { kernel with interest := Function.update kernel.interest fd none }) := by
  simp [Kernel.epollCtl, inside]

end

/-- `EPOLL_EVENTS_ADD` and `EPOLL_EVENTS_DEL` -/
inductive EventType where
  | add
  | del
deriving DecidableEq

/-- `epollCurEvents` of `modify_connection`. -/
def EventType.change : EventType → EpollEvents → EpollEvents → EpollEvents
  | .add, epollPreEvents, eventOP => epollPreEvents.union eventOP
  | .del, epollPreEvents, eventOP => epollPreEvents.diff eventOP

/-- `epollOP` of `modify_connection`: a descriptor that is registered is modified,
    never added again. -/
def EpollOp.choose (epollPreEvents epollCurEvents : EpollEvents) : EpollOp :=
  if epollPreEvents = .zero then .add
  else if epollCurEvents = .zero then .del
  else .mod

section
variable {kernel : Kernel} {fd : Int}

/-- The choice by the recorded mask is the right one while the mask mirrors the kernel. -/
theorem Kernel.epollCtl_choose {pre current : EpollEvents}
    (mirrors : kernel.interest fd = none ↔ pre = .zero) (registration : Registration) :
    kernel.epollCtl (.choose pre current) fd registration =
      (0, { kernel with
        interest := Function.update kernel.interest fd
          (if pre ≠ .zero ∧ current = .zero then none else some registration) }) := by
  by_cases empty : pre = .zero
  · rw [EpollOp.choose, if_pos empty, Kernel.epollCtl_add (mirrors.2 empty),
      if_neg fun both => both.1 empty]
  · obtain ⟨held, inside⟩ := Option.ne_none_iff_exists'.1 fun outside => empty (mirrors.1 outside)
    by_cases gone : current = .zero
    · rw [EpollOp.choose, if_neg empty, if_pos gone, Kernel.epollCtl_del inside,
        if_pos ⟨empty, gone⟩]
    · rw [EpollOp.choose, if_neg empty, if_neg gone, Kernel.epollCtl_mod inside,
        if_neg fun both => gone both.2]

end

namespace CoCycle

/-- The fields that mirror a successful `epoll_ctl`. -/
def registered (events : EpollEvents) (version : Nat) (readActive writeActive : Bool)
    (connection : CoConnection) : CoConnection :=
  { connection with
    epollCurEvents := events
    epollCurVersion := version
    readEvent := { connection.readEvent with flagActive := readActive }
    writeEvent := { connection.writeEvent with flagActive := writeActive } }

def delConnection (self : CoCycle) (connection : Nat) : Int × CoCycle :=
  let object := self.objects connection
  if object.epollCurEvents = .zero then (coOk, self)
  else
    let (ret, kernel) := self.kernel.epollCtl .del object.coTcp.socketfd ⟨.zero, 0, 0⟩
    let self := { self with kernel }
    if ret = -1 then (coError, self)
    else (coOk, self.modifyObject connection (registered .zero 0 false false))

def modifyConnection (self : CoCycle) (connection : Nat) (eventType : EventType)
    (eventOP : EpollEvents) : Int × CoCycle :=
  let object := self.objects connection
  let epollPreEvents := object.epollCurEvents
  let epollCurEvents := eventType.change epollPreEvents eventOP
  if epollCurEvents = epollPreEvents ∧ object.epollCurVersion = object.version then (coOk, self)
  else
    let (ret, kernel) := self.kernel.epollCtl (.choose epollPreEvents epollCurEvents)
      object.coTcp.socketfd ⟨epollCurEvents, object.connId, object.version⟩
    let self := { self with kernel }
    if ret = -1 then (coError, self)
    else (coOk, self.modifyObject connection (registered epollCurEvents object.version
      (epollCurEvents.meets coEventRead) (epollCurEvents.meets coEventOut)))

/-- A call that reaches the kernel and is accepted. -/
theorem modifyConnection_called {self : CoCycle} {connection : Nat} {eventType : EventType}
    {eventOP epollCurEvents : EpollEvents} {kernel : Kernel}
    (current : eventType.change (self.objects connection).epollCurEvents eventOP = epollCurEvents)
    (called : ¬ (epollCurEvents = (self.objects connection).epollCurEvents ∧
      (self.objects connection).epollCurVersion = (self.objects connection).version))
    (accepted : self.kernel.epollCtl
      (.choose (self.objects connection).epollCurEvents epollCurEvents)
      (self.objects connection).coTcp.socketfd
      ⟨epollCurEvents, (self.objects connection).connId, (self.objects connection).version⟩ =
        (0, kernel)) :
    self.modifyConnection connection eventType eventOP =
      (coOk, { self with kernel }.modifyObject connection
        (registered epollCurEvents (self.objects connection).version
          (epollCurEvents.meets coEventRead) (epollCurEvents.meets coEventOut))) := by
  unfold modifyConnection
  dsimp only
  rw [current, if_neg called, accepted]
  rfl

/-- A change that the kernel accepts. -/
theorem modifyConnection_accepted {self : CoCycle} {connection : Nat} {eventType : EventType}
    {eventOP epollCurEvents : EpollEvents} {kernel : Kernel}
    (current : eventType.change (self.objects connection).epollCurEvents eventOP = epollCurEvents)
    (changed : epollCurEvents ≠ (self.objects connection).epollCurEvents)
    (accepted : self.kernel.epollCtl
      (.choose (self.objects connection).epollCurEvents epollCurEvents)
      (self.objects connection).coTcp.socketfd
      ⟨epollCurEvents, (self.objects connection).connId, (self.objects connection).version⟩ =
        (0, kernel)) :
    self.modifyConnection connection eventType eventOP =
      (coOk, { self with kernel }.modifyObject connection
        (registered epollCurEvents (self.objects connection).version
          (epollCurEvents.meets coEventRead) (epollCurEvents.meets coEventOut))) :=
  modifyConnection_called current (fun same => changed same.1) accepted

section
variable {self : CoCycle} {connection : Nat}

/-- A connection that is registered for nothing starts to read. -/
theorem modifyConnection_addRead
    (unregistered : (self.objects connection).epollCurEvents = .zero)
    (outside : self.kernel.interest (self.objects connection).coTcp.socketfd = none) :
    (self.modifyConnection connection .add coEventRead).2 =
      { self with kernel := { self.kernel with
        interest := Function.update self.kernel.interest (self.objects connection).coTcp.socketfd
          (some ⟨coEventRead, (self.objects connection).connId,
            (self.objects connection).version⟩) } }.modifyObject connection
        (registered coEventRead (self.objects connection).version true false) := by
  have current : EventType.change .add (self.objects connection).epollCurEvents coEventRead =
      coEventRead := by
    rw [unregistered]
    rfl
  have changed : coEventRead ≠ (self.objects connection).epollCurEvents := by
    rw [unregistered]
    decide
  have op : EpollOp.choose (self.objects connection).epollCurEvents coEventRead = .add := by
    rw [unregistered]
    rfl
  rw [modifyConnection_accepted current changed (by rw [op]; exact Kernel.epollCtl_add outside _)]
  rfl

/-- A connection that only reads is taken out. -/
theorem modifyConnection_delRead {held : Registration}
    (reads : (self.objects connection).epollCurEvents = coEventRead)
    (inside : self.kernel.interest (self.objects connection).coTcp.socketfd = some held) :
    (self.modifyConnection connection .del coEventRead).2 =
      { self with kernel := { self.kernel with
        interest := Function.update self.kernel.interest (self.objects connection).coTcp.socketfd
          none } }.modifyObject connection
        (registered .zero (self.objects connection).version false false) := by
  have current : EventType.change .del (self.objects connection).epollCurEvents coEventRead =
      .zero := by
    rw [reads]
    rfl
  have changed : .zero ≠ (self.objects connection).epollCurEvents := by
    rw [reads]
    decide
  have op : EpollOp.choose (self.objects connection).epollCurEvents .zero = .del := by
    rw [reads]
    rfl
  rw [modifyConnection_accepted current changed (by rw [op]; exact Kernel.epollCtl_del inside _)]
  rfl

end

/-! ## What registering leaves alone -/

/-- The cycle after a change of what one connection is registered for: its
    mirrored fields and the kernel's interest list. -/
inductive Reregistered (before : CoCycle) (connection : Nat) : CoCycle → Prop
  | kernel (interest : Int → Option Registration) : Reregistered before connection
      { before with kernel := { before.kernel with interest } }
  | mirrored (interest : Int → Option Registration) (events : EpollEvents) (version : Nat)
      (readActive writeActive : Bool) : Reregistered before connection
      ({ before with kernel := { before.kernel with interest } }.modifyObject connection
        (registered events version readActive writeActive))

theorem epollCtl_interest (kernel : Kernel) (op : EpollOp) (fd : Int) (registration : Registration) :
    ∃ interest, (kernel.epollCtl op fd registration).2 = { kernel with interest } := by
  unfold Kernel.epollCtl
  split
  · exact ⟨_, rfl⟩
  · exact ⟨_, rfl⟩
  · exact ⟨_, rfl⟩
  · exact ⟨kernel.interest, rfl⟩

theorem delConnection_reregistered (self : CoCycle) (connection : Nat) :
    Reregistered self connection (self.delConnection connection).2 := by
  unfold delConnection
  dsimp only
  obtain ⟨interest, written⟩ := epollCtl_interest self.kernel .del
    (self.objects connection).coTcp.socketfd ⟨.zero, 0, 0⟩
  split
  · exact .kernel self.kernel.interest
  · rw [written]
    split
    · exact .kernel interest
    · exact .mirrored interest _ _ _ _

theorem modifyConnection_reregistered (self : CoCycle) (connection : Nat) (eventType : EventType)
    (eventOP : EpollEvents) :
    Reregistered self connection (self.modifyConnection connection eventType eventOP).2 := by
  unfold modifyConnection
  dsimp only
  split
  · exact .kernel self.kernel.interest
  · obtain ⟨interest, written⟩ := epollCtl_interest self.kernel _
      (self.objects connection).coTcp.socketfd _
    rw [written]
    split
    · exact .kernel interest
    · exact .mirrored interest _ _ _ _

section
variable {before after : CoCycle} {connection : Nat}

theorem Reregistered.pool (changed : Reregistered before connection after) :
    after.connectionPool = before.connectionPool := by
  cases changed <;> rfl

theorem Reregistered.allocated (changed : Reregistered before connection after) :
    after.allocated = before.allocated := by
  cases changed <;> rfl

theorem Reregistered.descriptors (changed : Reregistered before connection after) :
    after.kernel.descriptors = before.kernel.descriptors := by
  cases changed <;> rfl

theorem Reregistered.servers (changed : Reregistered before connection after) :
    after.serverControls = before.serverControls := by
  cases changed <;> rfl

theorem Reregistered.upstreams (changed : Reregistered before connection after) :
    after.upstreams = before.upstreams := by
  cases changed <;> rfl

theorem Reregistered.delay (changed : Reregistered before connection after) :
    after.delayConnections = before.delayConnections := by
  cases changed <;> rfl

/-- An object keeps every field that does not mirror a registration. -/
theorem Reregistered.object (changed : Reregistered before connection after) (other : Nat) :
    ∃ events version readActive writeActive, after.objects other =
      registered events version readActive writeActive (before.objects other) := by
  have kept : before.objects other = registered (before.objects other).epollCurEvents
      (before.objects other).epollCurVersion (before.objects other).readEvent.flagActive
      (before.objects other).writeEvent.flagActive (before.objects other) := rfl
  cases changed with
  | kernel => exact ⟨_, _, _, _, kept⟩
  | mirrored interest events version readActive writeActive =>
    by_cases same : other = connection
    · subst same
      exact ⟨events, version, readActive, writeActive, modifyObject_same _ _ _⟩
    · exact ⟨_, _, _, _, (modifyObject_other _ _ _ _ same).trans kept⟩

end

end CoCycle

end CoServer
