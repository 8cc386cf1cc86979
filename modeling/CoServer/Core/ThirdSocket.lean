import CoServer.Core.Dispatcher
import CoServer.Lib.Run

/-! # Blocking sockets of third parties

A handler calls `recv` on a blocking socket that the server does not know.  The
hook makes the socket nonblocking, tries once, and otherwise waits in
`yield_thirdsocket`: the block connection of the request's connection borrows the
descriptor and is registered and timed in its place. -/

namespace CoServer

/-! ## The socket -/

/-- What arrived and was not read yet, and whether the peer closed. -/
structure ThirdSocket where
  received : Bytes := []
  fin : Bool := false

namespace ThirdSocket

def readable (self : ThirdSocket) : Bool := !self.received.isEmpty || self.fin

/-- A nonblocking `recv`; `none` is `EAGAIN`.  The blocking call returns the same as
    soon as it is not `none`. -/
def recv (self : ThirdSocket) (len : Nat) : Option (Bytes × ThirdSocket) :=
  if self.readable then
    some (self.received.take len, { self with received := self.received.drop len })
  else none

/-- What `epoll` sees of the socket. -/
def events (self : ThirdSocket) : EpollEvents :=
  { epollin := self.readable, epollrdhup := self.fin }

theorem recv_isSome (self : ThirdSocket) (len : Nat) : (self.recv len).isSome = self.readable := by
  unfold recv
  split
  · rename_i readable
    exact readable.symm
  · rename_i empty
    exact (Bool.not_eq_true _ ▸ empty).symm

theorem meets_read (self : ThirdSocket) : self.events.meets coEventRead =
    ((self.events.inter coEventRead).epollin || (self.events.inter coEventRead).epollrdhup) := by
  simp [EpollEvents.meets, EpollEvents.inter, events, coEventRead]

/-- What `recv` returns stood at the front, and is nothing only behind the FIN. -/
theorem recv_some {self after : ThirdSocket} {len : Nat} {bytes : Bytes} (took : self.recv len = some (bytes, after))
    (room : 0 < len) : bytes.length ≤ len ∧ bytes ++ after.received = self.received ∧ after.fin = self.fin ∧
      (bytes = [] → self.received = [] ∧ self.fin = true) := by
  unfold recv at took
  split at took
  · rename_i readable
    cases took
    refine ⟨List.length_take_le _ _, List.take_append_drop _ _, rfl, fun nothing => ?_⟩
    rcases List.take_eq_nil_iff.1 nothing with zero | empty
    · exact absurd zero room.ne'
    · rw [ThirdSocket.readable, empty] at readable
      exact ⟨empty, readable⟩
  · cases took

theorem readable_append {self : ThirdSocket} (readable : self.readable = true) (bytes : Bytes) :
    ({ self with received := self.received ++ bytes } : ThirdSocket).readable = true := by
  unfold ThirdSocket.readable at *
  cases received : self.received with
  | nil => simp_all
  | cons byte later => simp

theorem readable_of_meets {self : ThirdSocket} (meets : self.events.meets coEventRead = true) :
    self.readable = true := by
  -- a FIN can be read too
  have within : self.fin = true → self.readable = true := fun fin => by rw [ThirdSocket.readable, fin, Bool.or_true]
  simp only [EpollEvents.meets, ThirdSocket.events, coEventRead, Bool.and_true, Bool.and_false, Bool.or_false,
    Bool.or_eq_true] at meets
  exact meets.elim id within

end ThirdSocket

/-! ## `yield_thirdsocket` -/

def CoConnection.useBlock (self : CoConnection) (flagUseBlockConn : Bool) : CoConnection :=
  { self with flagUseBlockConn }

namespace CoCycle

/-- `blockEvent` -/
def blockTimer (eventOP : EpollEvents) : TimerKind :=
  if eventOP = coEventRead then .read else .write

/-- `yield_thirdsocket` up to the point where the coroutine is swapped out; a failed
    `epoll_ctl` is only logged. -/
def yieldThirdsocket (self : CoCycle) (connection blockConn : Nat) (calls : OpenCalls)
    (socketFd : Int) (eventOP : EpollEvents) : CoCycle :=
  let self := self.modifyObject connection fun object => object.useBlock true
  let called := (self.objects blockConn).coTcp.initClientSocketfd self.kernel calls socketFd
  let self := self.setTcp blockConn called.2
  let self := (self.modifyConnection blockConn .add eventOP).2
  self.modifyObject blockConn fun object => object.setTimer (blockTimer eventOP) true

/-- `yield_thirdsocket` from the point where the coroutine is swapped in. -/
def resumeThirdsocket (self : CoCycle) (connection blockConn : Nat) (eventOP : EpollEvents) :
    Int × CoCycle :=
  let self := (self.modifyConnection blockConn .del eventOP).2
  let self := self.modifyObject blockConn fun object => object.setTimer (blockTimer eventOP) false
  let blockObject := self.objects blockConn
  let ret := if blockObject.flagDying then coException
    else if blockObject.flagTimedOut then coTimeout
    else if blockObject.flagPendingEof then coError
    else coOk
  (ret, (self.modifyObject connection fun object => object.useBlock false).resetBlock connection)

end CoCycle

/-! ## Runs -/

/-- Why a call of `recv` came to its end: the first try did not block, or the
    coroutine was swapped in by a report on the block connection, by its timer, or by
    whoever else dispatched the connection of the request. -/
inductive RecvWake where
  | firstTry
  | report (revents : EpollEvents)
  | timer
  | dispatched
deriving DecidableEq

/-- A call that returned: what it returned (`none` is `-1`), and the socket at that
    moment. -/
structure RecvReturn where
  len : Nat
  socket : ThirdSocket
  wake : RecvWake
  result : Option Bytes

namespace RecvReturn

/-- The call returned what the plain blocking call returns at this moment. -/
def AsPlain (self : RecvReturn) : Prop :=
  ∃ bytes socket, self.socket.recv self.len = some (bytes, socket) ∧ self.result = some bytes

/-- The peer's FIN was not in the report that ended the wait, no timer ended it, and
    something was there to be read. -/
def Delivered (self : RecvReturn) : Prop :=
  match self.wake with
  | .firstTry => True
  | .report revents => revents.epollrdhup = false ∧ self.socket.readable = true
  | .timer => False
  | .dispatched => self.socket.readable = true

end RecvReturn

/-- The handler of a request that uses one third-party socket.  `waiting` is the
    length asked for by the call that is suspended, `ready` says that `epoll` has the
    socket on its ready list, and `reported` is its entry in the array at hand. -/
structure RecvRun where
  cycle : CoCycle
  connection : Nat
  blockConn : Nat
  socketFd : Int
  socket : ThirdSocket := {}
  waiting : Option Nat := none
  ready : Bool := false
  reported : Option EpollReport := none
  returns : List RecvReturn := []

inductive RecvEvent where
  /-- the handler calls `recv` -/
  | recv (len : Nat) (calls : OpenCalls)
  | arrive (byte : UInt8) (bytes : Bytes)
  | fin
  | epollWait
  /-- the loop of `process_events` comes to the entry of the socket -/
  | processReport (timestamp : Nat)
  | timer (timestamp : Nat)
  /-- a queue or another event of the live connection dispatches it -/
  | dispatch (timestamp : Nat)
  /-- the rest of the thread does something to everything else -/
  | others (cycle : CoCycle)

namespace RecvRun

def registration (self : RecvRun) : Option Registration := self.cycle.kernel.interest self.socketFd

/-- Everything but the two connections and the registration of the socket. -/
def replaceOthers (self : RecvRun) (cycle : CoCycle) : RecvRun :=
  { self with
    cycle := { cycle with
      objects := fun other => if other = self.connection ∨ other = self.blockConn then
        self.cycle.objects other else cycle.objects other
      kernel := { cycle.kernel with
        interest := Function.update cycle.kernel.interest self.socketFd self.registration } } }

/-- The call returns to the handler. -/
def giveBack (self : RecvRun) (len : Nat) (wake : RecvWake) (received : Option (Bytes × ThirdSocket)) :
    RecvRun :=
  { self with
    socket := (received.map Prod.snd).getD self.socket
    waiting := none
    returns := self.returns ++ [⟨len, self.socket, wake, received.map Prod.fst⟩] }

/-- The coroutine is swapped in: the second half of `read_write_mode`. -/
def swapIn (self : RecvRun) (len : Nat) (wake : RecvWake) : RecvRun :=
  let (ret, cycle) := self.cycle.resumeThirdsocket self.connection self.blockConn coEventRead
  let self := { self with cycle, ready := false }
  self.giveBack len wake (if ret ≠ coOk then none else self.socket.recv len)

/-- `func_dispatcher` on one of the two connections; both use the coroutine of the
    request. -/
def dispatched (self : RecvRun) (connection timestamp : Nat) (wake : RecvWake) : RecvRun :=
  let (resumed, cycle) := self.cycle.funcDispatcher connection timestamp
  let self := { self with cycle }
  match resumed, self.waiting with
  | true, some len => self.swapIn len wake
  | _, _ => self

def step (self : RecvRun) : RecvEvent → Option RecvRun
  | .recv len calls =>
    match self.waiting with
    | some _ => none
    | none =>
      if (self.cycle.objects self.connection).flagDying then
        some (self.giveBack len .firstTry none)
      else
        match self.socket.recv len with
        | some received => some (self.giveBack len .firstTry (some received))
        | none =>
          some { self with
            cycle := self.cycle.yieldThirdsocket self.connection self.blockConn calls self.socketFd
              coEventRead
            waiting := some len
            ready := self.socket.readable }
  | .arrive byte bytes =>
    if self.socket.fin then none
    else some { self with
      socket := { self.socket with received := self.socket.received ++ byte :: bytes }
      ready := self.ready || self.registration.isSome }
  | .fin =>
    if self.socket.fin then none
    else some { self with
      socket := { self.socket with fin := true }
      ready := self.ready || self.registration.isSome }
  | .epollWait =>
    match self.registration, self.reported with
    | some registration, none =>
      if self.ready && self.socket.events.meets registration.events then
        some { self with
          ready := false
          reported := some ⟨self.socket.events.inter registration.events, registration.connId,
            registration.version⟩ }
      else none
    | _, _ => none
  | .processReport timestamp =>
    match self.reported with
    | none => none
    | some report =>
      let self := { self with reported := none }
      if (self.cycle.objects self.blockConn).version ≠ report.version then some self
      else
        -- registered for reading only, the block connection has no write half
        match self.cycle.readHalf self.blockConn report.revents with
        | none => some self
        | some cycle =>
          some ({ self with cycle }.dispatched self.blockConn timestamp (.report report.revents))
  | .timer timestamp =>
    if ((self.cycle.objects self.blockConn).timerEvent .read).flagTimerSet then
      let cycle := self.cycle.modifyObject self.blockConn fun object => object.timerExpired .read
      some ({ self with cycle }.dispatched self.blockConn timestamp .timer)
    else none
  | .dispatch timestamp =>
    if self.waiting.isSome then some (self.dispatched self.connection timestamp .dispatched) else none
  | .others cycle => some (self.replaceOthers cycle)

end RecvRun

/-! ## Between the calls and during one -/

/-- Nothing happened to the connection that `event_exception` would act on. -/
structure CoConnection.Quiet (object : CoConnection) : Prop where
  timedOut : object.flagTimedOut = false
  pendingEof : object.flagPendingEof = false
  dying : object.flagDying = false
  thirdFunc : object.flagThirdFuncBlocking = false

namespace CoCycle

/-- The block connection waits for nothing. -/
structure BlockRests (cycle : CoCycle) (blockConn : Nat) (socketFd : Int) : Prop where
  events : (cycle.objects blockConn).epollCurEvents = .zero
  readEvent : (cycle.objects blockConn).readEvent = {}
  socketfd : (cycle.objects blockConn).coTcp.socketfd = -1
  outside : cycle.kernel.interest socketFd = none

/-- The block connection is registered for reading from the socket. -/
structure BlockReads (cycle : CoCycle) (blockConn : Nat) (socketFd : Int) : Prop where
  events : (cycle.objects blockConn).epollCurEvents = coEventRead
  active : (cycle.objects blockConn).readEvent.flagActive = true
  socketfd : (cycle.objects blockConn).coTcp.socketfd = socketFd
  registered : cycle.kernel.interest socketFd =
    some ⟨coEventRead, (cycle.objects blockConn).connId, (cycle.objects blockConn).version⟩

section
variable {self : CoCycle} {connection blockConn : Nat} {socketFd : Int}

theorem eventException_quiet (quiet : (self.objects connection).Quiet) (timestamp : Nat) :
    self.eventException connection timestamp = (coOk, self) := by
  have untroubled : (!((self.objects connection).flagTimedOut ||
      (self.objects connection).flagPendingEof || (self.objects connection).flagDying)) = true := by
    rw [quiet.timedOut, quiet.pendingEof, quiet.dying]
    rfl
  exact if_pos untroubled

/-- A block connection in trouble is marked, and its origin is resumed. -/
theorem eventException_block (ofBlock : (self.objects connection).flagBlockConn = true)
    (unused : (self.objects connection).flagUseBlockConn = false)
    (thirdFunc : (self.objects connection).flagThirdFuncBlocking = false)
    (trouble : ((self.objects connection).flagTimedOut || (self.objects connection).flagPendingEof ||
      (self.objects connection).flagDying) = true) (timestamp : Nat) :
    self.eventException connection timestamp = (coOk, self.markDying connection) := by
  unfold eventException markBlockDying
  simp [trouble, ofBlock, unused, thirdFunc, markDying]

/-- The block connection holds the descriptor, and its origin says so. -/
theorem borrowed_objects (self : CoCycle) {connection blockConn : Nat} (apart : blockConn ≠ connection)
    (called : CoTCP × Kernel) :
    ((self.modifyObject connection fun object => object.useBlock true).setTcp blockConn called).objects
        blockConn = { self.objects blockConn with coTcp := called.1 } ∧
      ((self.modifyObject connection fun object => object.useBlock true).setTcp blockConn called).objects
        connection = (self.objects connection).useBlock true := by
  unfold setTcp
  dsimp only
  constructor
  · rw [modifyObject_same, modifyObject_other _ _ _ _ apart]
  · rw [modifyObject_other _ _ _ _ apart.symm, modifyObject_same]

/-- What a wait for the socket adds to the two connections. -/
theorem yieldThirdsocket_spec (rests : self.BlockRests blockConn socketFd)
    (apart : blockConn ≠ connection) (calls : OpenCalls) :
    ((self.yieldThirdsocket connection blockConn calls socketFd coEventRead).objects connection =
      (self.objects connection).useBlock true) ∧
    (∃ coTcp : CoTCP, coTcp.socketfd = socketFd ∧
      (self.yieldThirdsocket connection blockConn calls socketFd coEventRead).objects blockConn =
        (registered coEventRead (self.objects blockConn).version true false
          { self.objects blockConn with coTcp }).setTimer .read true) ∧
    (self.yieldThirdsocket connection blockConn calls socketFd coEventRead).kernel.interest socketFd =
      some ⟨coEventRead, (self.objects blockConn).connId, (self.objects blockConn).version⟩ := by
  have kernel := CoTCP.initClientSocketfd_unset self.kernel calls socketFd true rests.socketfd
  have held := CoTCP.initClientSocketfd_socketfd (self.objects blockConn).coTcp self.kernel calls
    socketFd true
  unfold yieldThirdsocket
  dsimp only
  rw [modifyObject_other _ _ _ _ apart, modifyObject_kernel]
  generalize (self.objects blockConn).coTcp.initClientSocketfd self.kernel calls socketFd = called
    at kernel held ⊢
  obtain ⟨ret, coTcp, kernelAfter⟩ := called
  obtain rfl : kernelAfter = self.kernel := kernel
  obtain ⟨block, origin⟩ := self.borrowed_objects apart (coTcp, self.kernel)
  rw [modifyConnection_addRead (by rw [block]; exact rests.events)
    (by rw [block, show coTcp.socketfd = socketFd from held]; exact rests.outside), block]
  refine ⟨?_, ⟨coTcp, held, ?_⟩, ?_⟩
  · rw [modifyObject_other _ _ _ _ apart.symm, modifyObject_other _ _ _ _ apart.symm]
    exact origin
  · rw [modifyObject_same, modifyObject_same]
    exact congrArg (fun object => (registered coEventRead _ true false object).setTimer .read true)
      block
  · rw [modifyObject_kernel, modifyObject_kernel, show coTcp.socketfd = socketFd from held]
    exact Function.update_self _ _ _

/-- What the end of the wait leaves of the two connections. -/
theorem resumeThirdsocket_spec (reads : self.BlockReads blockConn socketFd)
    (apart : blockConn ≠ connection)
    (owner : (self.objects connection).blockConn = some blockConn) :
    (self.resumeThirdsocket connection blockConn coEventRead).1 =
      (if (self.objects blockConn).flagDying then coException
      else if (self.objects blockConn).flagTimedOut then coTimeout
      else if (self.objects blockConn).flagPendingEof then coError
      else coOk) ∧
    (self.resumeThirdsocket connection blockConn coEventRead).2.objects connection =
      (self.objects connection).useBlock false ∧
    (self.resumeThirdsocket connection blockConn coEventRead).2.objects blockConn =
      ((registered .zero (self.objects blockConn).version false false
        (self.objects blockConn)).setTimer .read false).resetBlock ∧
    (self.resumeThirdsocket connection blockConn coEventRead).2.kernel.interest socketFd = none := by
  have inside : self.kernel.interest (self.objects blockConn).coTcp.socketfd = _ :=
    (congrArg self.kernel.interest reads.socketfd).trans reads.registered
  have written := modifyConnection_delRead reads.events inside
  have block : (self.modifyConnection blockConn .del coEventRead).2.objects blockConn =
      registered .zero (self.objects blockConn).version false false (self.objects blockConn) := by
    rw [written, modifyObject_same]
  have origin : (self.modifyConnection blockConn .del coEventRead).2.objects connection =
      self.objects connection := by
    rw [written, modifyObject_other _ _ _ _ apart.symm]
  have interest : (self.modifyConnection blockConn .del coEventRead).2.kernel.interest socketFd =
      none := by
    rw [written, modifyObject_kernel, reads.socketfd]
    exact Function.update_self _ _ _
  unfold resumeThirdsocket
  dsimp only
  generalize (self.modifyConnection blockConn .del coEventRead).2 = deleted at block origin interest
  have owned : (((deleted.modifyObject blockConn fun object => object.setTimer .read false).modifyObject
      connection fun object => object.useBlock false).objects connection).blockConn =
        some blockConn := by
    rw [modifyObject_same, modifyObject_other _ _ _ _ apart.symm, origin]
    exact owner
  rw [show blockTimer coEventRead = .read from rfl, resetBlock_owned owned]
  refine ⟨?_, ?_, ?_, ?_⟩
  · rw [modifyObject_same, block]
    rfl
  · rw [modifyObject_other _ _ _ _ apart.symm, modifyObject_same,
      modifyObject_other _ _ _ _ apart.symm, origin]
  · rw [modifyObject_same, modifyObject_other _ _ _ _ apart, modifyObject_same, block]
  · exact interest

/-! ## The pair of connections -/

/-- A live connection and its block connection. -/
structure BlockPair (cycle : CoCycle) (connection blockConn : Nat) : Prop where
  apart : blockConn ≠ connection
  owner : (cycle.objects connection).blockConn = some blockConn
  live : (cycle.objects connection).Quiet
  ofBlock : (cycle.objects blockConn).flagBlockConn = true
  unused : (cycle.objects blockConn).flagUseBlockConn = false

theorem BlockPair.yieldThirdsocket (pair : self.BlockPair connection blockConn)
    (quiet : (self.objects blockConn).Quiet) (rests : self.BlockRests blockConn socketFd)
    (calls : OpenCalls) :
    let after := self.yieldThirdsocket connection blockConn calls socketFd coEventRead
    after.BlockPair connection blockConn ∧ (after.objects blockConn).Quiet ∧
      after.BlockReads blockConn socketFd ∧
      (after.objects blockConn).version = (self.objects blockConn).version := by
  obtain ⟨origin, ⟨coTcp, held, block⟩, registered⟩ := yieldThirdsocket_spec rests pair.apart calls
  refine ⟨⟨pair.apart, ?_, ?_, ?_, ?_⟩, ?_, ⟨?_, ?_, ?_, ?_⟩, ?_⟩
  · rw [origin]
    exact pair.owner
  · rw [origin]
    exact ⟨pair.live.timedOut, pair.live.pendingEof, pair.live.dying, pair.live.thirdFunc⟩
  · rw [block]
    exact pair.ofBlock
  · rw [block]
    exact pair.unused
  · rw [block]
    exact ⟨quiet.timedOut, quiet.pendingEof, quiet.dying, quiet.thirdFunc⟩
  · rw [block]
    rfl
  · rw [block]
    rfl
  · rw [block]
    exact held
  · rw [block]
    exact registered
  · rw [block]
    rfl

theorem BlockPair.resumeThirdsocket (pair : self.BlockPair connection blockConn)
    (reads : self.BlockReads blockConn socketFd) :
    let after := (self.resumeThirdsocket connection blockConn coEventRead).2
    after.BlockPair connection blockConn ∧ (after.objects blockConn).Quiet ∧
      after.BlockRests blockConn socketFd ∧
      (after.objects blockConn).version = (self.objects blockConn).version := by
  obtain ⟨-, origin, block, outside⟩ := resumeThirdsocket_spec reads pair.apart pair.owner
  refine ⟨⟨pair.apart, ?_, ?_, ?_, ?_⟩, ?_, ⟨?_, ?_, ?_, ?_⟩, ?_⟩
  · rw [origin]
    exact pair.owner
  · rw [origin]
    exact ⟨pair.live.timedOut, pair.live.pendingEof, pair.live.dying, pair.live.thirdFunc⟩
  · rw [block]
    exact pair.ofBlock
  · rw [block]
    rfl
  · rw [block]
    exact ⟨rfl, rfl, rfl, rfl⟩
  · rw [block]
    rfl
  · rw [block]
    rfl
  · rw [block]
    rfl
  · exact outside
  · rw [block]
    rfl

/-- Only flags of the block connection that do not bind it to the socket changed. -/
structure SameBlock (a b : CoConnection) : Prop where
  connId : b.connId = a.connId
  version : b.version = a.version
  events : b.epollCurEvents = a.epollCurEvents
  active : b.readEvent.flagActive = a.readEvent.flagActive
  coTcp : b.coTcp = a.coTcp
  flagBlockConn : b.flagBlockConn = a.flagBlockConn
  flagUseBlockConn : b.flagUseBlockConn = a.flagUseBlockConn

theorem BlockPair.modifyBlock (pair : self.BlockPair connection blockConn)
    (reads : self.BlockReads blockConn socketFd) {f : CoConnection → CoConnection}
    (same : SameBlock (self.objects blockConn) (f (self.objects blockConn))) :
    (self.modifyObject blockConn f).BlockPair connection blockConn ∧
      (self.modifyObject blockConn f).BlockReads blockConn socketFd := by
  refine ⟨⟨pair.apart, ?_, ?_, ?_, ?_⟩, ⟨?_, ?_, ?_, ?_⟩⟩
  · rw [modifyObject_other _ _ _ _ pair.apart.symm]
    exact pair.owner
  · rw [modifyObject_other _ _ _ _ pair.apart.symm]
    exact pair.live
  · rw [modifyObject_same, same.flagBlockConn]
    exact pair.ofBlock
  · rw [modifyObject_same, same.flagUseBlockConn]
    exact pair.unused
  · rw [modifyObject_same, same.events]
    exact reads.events
  · rw [modifyObject_same, same.active]
    exact reads.active
  · rw [modifyObject_same, same.coTcp]
    exact reads.socketfd
  · rw [modifyObject_same, same.connId, same.version]
    exact reads.registered

theorem BlockPair.markDying (pair : self.BlockPair connection blockConn)
    (reads : self.BlockReads blockConn socketFd) :
    (self.markDying blockConn).BlockPair connection blockConn ∧
      (self.markDying blockConn).BlockReads blockConn socketFd :=
  pair.modifyBlock reads ⟨rfl, rfl, rfl, rfl, rfl, rfl, rfl⟩

theorem markDying_dying (self : CoCycle) (connection : Nat) :
    ((self.markDying connection).objects connection).flagDying = true := by
  unfold CoCycle.markDying
  rw [modifyObject_same]

end

end CoCycle

/-! ## The invariant -/

/-- An entry of the array about a block connection that is registered for reading. -/
structure EpollReport.Reads (report : EpollReport) (version : Nat) : Prop where
  current : report.version = version
  noError : report.events.epollerr = false
  noHangup : report.events.epollhup = false
  readable : (report.events.epollin || report.events.epollrdhup) = true

theorem EpollReport.Reads.revents {report : EpollReport} {version : Nat}
    (reads : report.Reads version) : report.revents = report.events := by
  unfold EpollReport.revents
  rw [reads.noError, reads.noHangup]
  rfl

structure RecvPlace (run : RecvRun) : Prop where
  pair : run.cycle.BlockPair run.connection run.blockConn
  quiet : (run.cycle.objects run.blockConn).Quiet
  rests : run.waiting = none → run.cycle.BlockRests run.blockConn run.socketFd
  reads : ∀ len, run.waiting = some len → run.cycle.BlockReads run.blockConn run.socketFd
  reported : ∀ report ∈ run.reported, report.Reads (run.cycle.objects run.blockConn).version
  returned : ∀ returned ∈ run.returns, returned.AsPlain ↔ returned.Delivered

structure RecvInv (run : RecvRun) : Prop extends RecvPlace run where
  /-- An arrival is noticed: `epoll` holds it, or the array at hand does. -/
  noticed : run.waiting.isSome → run.socket.readable → run.ready ∨ run.reported.isSome

section
variable {run next : RecvRun} {len : Nat} {wake : RecvWake}

/-- Something that is there is what the plain call returns. -/
theorem RecvReturn.asPlain_iff_readable (socket : ThirdSocket) (len : Nat) (wake : RecvWake) :
    (RecvReturn.mk len socket wake ((socket.recv len).map Prod.fst)).AsPlain ↔
      socket.readable = true := by
  unfold RecvReturn.AsPlain
  dsimp only
  rw [← socket.recv_isSome len, Option.isSome_iff_exists]
  constructor
  · rintro ⟨bytes, rest, received, -⟩
    exact ⟨_, received⟩
  · rintro ⟨⟨bytes, rest⟩, received⟩
    exact ⟨bytes, rest, received, by rw [received]; rfl⟩

/-- `-1` is never what the plain call returns. -/
theorem RecvReturn.not_asPlain (socket : ThirdSocket) (len : Nat) (wake : RecvWake) :
    ¬ (RecvReturn.mk len socket wake none).AsPlain := by
  rintro ⟨bytes, rest, -, failed⟩
  cases failed

/-- A wait comes to its end; the block connection may have been marked before. -/
theorem RecvRun.swapIn_inv (pair : run.cycle.BlockPair run.connection run.blockConn)
    (reads : run.cycle.BlockReads run.blockConn run.socketFd)
    (reported : ∀ report ∈ run.reported, report.Reads (run.cycle.objects run.blockConn).version)
    (returned : ∀ returned ∈ run.returns, returned.AsPlain ↔ returned.Delivered)
    (last : let received := if (run.cycle.resumeThirdsocket run.connection run.blockConn
          coEventRead).1 ≠ coOk then none else run.socket.recv len
      (RecvReturn.mk len run.socket wake (received.map Prod.fst)).AsPlain ↔
        (RecvReturn.mk len run.socket wake (received.map Prod.fst)).Delivered) :
    RecvInv (run.swapIn len wake) := by
  obtain ⟨pairAfter, quiet, rests, version⟩ := pair.resumeThirdsocket reads
  refine ⟨⟨pairAfter, quiet, fun _ => rests, fun _ waits => (nomatch waits), ?_, ?_⟩,
    fun waits => (nomatch waits)⟩
  · intro report mem
    dsimp only [RecvRun.swapIn, RecvRun.giveBack]
    rw [version]
    exact reported report mem
  · intro entry mem
    obtain earlier | isLast := List.mem_append.1 mem
    · exact returned entry earlier
    · cases List.mem_singleton.1 isLast
      exact last

theorem RecvRun.dispatched_swapIn (waits : run.waiting = some len) {connection timestamp : Nat}
    {before after : CoCycle}
    (resumed : before.eventException connection timestamp = (coOk, after)) :
    { run with cycle := before }.dispatched connection timestamp wake =
      { run with cycle := after }.swapIn len wake := by
  unfold RecvRun.dispatched CoCycle.funcDispatcher
  rw [resumed]
  simp [waits, coOk, coException]

/-- A wait that nothing disturbed ends with the second try. -/
theorem RecvPlace.swapIn (inv : RecvPlace run) (waits : run.waiting = some len) {connection : Nat}
    (quiet : (run.cycle.objects connection).Quiet)
    (delivered : (RecvReturn.mk len run.socket wake ((run.socket.recv len).map Prod.fst)).Delivered ↔
      run.socket.readable = true) (timestamp : Nat) :
    RecvInv (run.dispatched connection timestamp wake) := by
  have reads := inv.reads len waits
  have resumed : run.dispatched connection timestamp wake = run.swapIn len wake :=
    RecvRun.dispatched_swapIn waits (CoCycle.eventException_quiet quiet timestamp)
  rw [resumed]
  refine RecvRun.swapIn_inv inv.pair reads inv.reported inv.returned ?_
  obtain ⟨ret, -⟩ := CoCycle.resumeThirdsocket_spec reads inv.pair.apart inv.pair.owner
  rw [inv.quiet.timedOut, inv.quiet.pendingEof, inv.quiet.dying] at ret
  rw [ret]
  exact (RecvReturn.asPlain_iff_readable run.socket len wake).trans delivered.symm

/-- A wait that ends in trouble: the block connection was flagged, and dies. -/
theorem RecvPlace.swapInTrouble (inv : RecvPlace run) (waits : run.waiting = some len)
    (f : CoConnection → CoConnection)
    (same : CoCycle.SameBlock (run.cycle.objects run.blockConn) (f (run.cycle.objects run.blockConn)))
    (thirdFunc : (f (run.cycle.objects run.blockConn)).flagThirdFuncBlocking = false)
    (trouble : ((f (run.cycle.objects run.blockConn)).flagTimedOut ||
      (f (run.cycle.objects run.blockConn)).flagPendingEof ||
      (f (run.cycle.objects run.blockConn)).flagDying) = true)
    (undelivered : ¬ (RecvReturn.mk len run.socket wake none).Delivered) (timestamp : Nat) :
    RecvInv ({ run with cycle := run.cycle.modifyObject run.blockConn f }.dispatched run.blockConn
      timestamp wake) := by
  obtain ⟨pair, reads⟩ := inv.pair.modifyBlock (inv.reads len waits) same
  have resumed := CoCycle.eventException_block pair.ofBlock pair.unused
    (by rw [CoCycle.modifyObject_same]; exact thirdFunc)
    (by rw [CoCycle.modifyObject_same]; exact trouble) timestamp
  obtain ⟨pairDying, readsDying⟩ := pair.markDying reads
  rw [RecvRun.dispatched_swapIn waits resumed]
  refine RecvRun.swapIn_inv pairDying readsDying ?_ inv.returned ?_
  · intro report mem
    dsimp only [CoCycle.markDying]
    rw [CoCycle.modifyObject_same, CoCycle.modifyObject_same]
    exact same.version ▸ inv.reported report mem
  · obtain ⟨ret, -⟩ := CoCycle.resumeThirdsocket_spec readsDying pairDying.apart pairDying.owner
    rw [CoCycle.markDying_dying] at ret
    dsimp only
    rw [ret]
    exact iff_of_false (RecvReturn.not_asPlain _ _ _) undelivered

/-- While a call waits, the socket is registered for reading. -/
theorem RecvPlace.registration (inv : RecvPlace run) (waits : run.waiting.isSome) :
    run.registration = some ⟨coEventRead, (run.cycle.objects run.blockConn).connId,
      (run.cycle.objects run.blockConn).version⟩ := by
  obtain ⟨len, waits⟩ := Option.isSome_iff_exists.1 waits
  exact (inv.reads len waits).registered

/-- Something arrives, whether a call waits for it or not. -/
theorem RecvInv.arrived (inv : RecvInv run) (socket : ThirdSocket) :
    RecvInv { run with socket, ready := run.ready || run.registration.isSome } := by
  refine { inv with noticed := fun waits _ => .inl ?_ }
  dsimp only
  rw [inv.registration waits, Option.isSome_some, Bool.or_true]

theorem RecvInv.giveBack (inv : RecvInv run) (outside : run.waiting = none)
    {received : Bytes × ThirdSocket} (readable : run.socket.recv len = some received) :
    RecvInv (run.giveBack len .firstTry (some received)) := by
  refine ⟨⟨inv.pair, inv.quiet, fun _ => inv.rests outside, fun _ waits => (nomatch waits),
    inv.reported, ?_⟩, fun waits => (nomatch waits)⟩
  intro entry mem
  obtain earlier | isLast := List.mem_append.1 mem
  · exact inv.returned entry earlier
  · cases List.mem_singleton.1 isLast
    exact iff_of_true ⟨received.1, received.2, readable, rfl⟩ trivial

/-- While a call waits, an entry about the socket is not passed over. -/
theorem RecvPlace.notSkipped (inv : RecvPlace run) (waits : run.waiting.isSome) {report : EpollReport}
    (reads : report.Reads (run.cycle.objects run.blockConn).version) :
    run.cycle.readHalf run.blockConn report.revents ≠ none := by
  obtain ⟨len, waits⟩ := Option.isSome_iff_exists.1 waits
  unfold CoCycle.readHalf
  rw [reads.revents, reads.readable, (inv.reads len waits).active]
  exact fun skipped => nomatch skipped

/-- Whatever the entry says, the coroutine is resumed. -/
theorem RecvPlace.resumedByReport (inv : RecvPlace run) {revents : EpollEvents} {cycle : CoCycle}
    (half : run.cycle.readHalf run.blockConn revents = some cycle) (timestamp : Nat) :
    ∃ after, cycle.eventException run.blockConn timestamp = (coOk, after) := by
  obtain ⟨-, half⟩ := Option.ite_none_right_eq_some.1 half
  cases closed : revents.epollrdhup with
  | true =>
    rw [closed, if_pos rfl] at half
    cases half
    refine ⟨_, CoCycle.eventException_block ?_ ?_ ?_ ?_ timestamp⟩
    · rw [CoCycle.modifyObject_same]
      exact inv.pair.ofBlock
    · rw [CoCycle.modifyObject_same]
      exact inv.pair.unused
    · rw [CoCycle.modifyObject_same]
      exact inv.quiet.thirdFunc
    · rw [CoCycle.modifyObject_same]
      simp
  | false =>
    rw [closed, if_neg Bool.false_ne_true] at half
    cases half
    exact ⟨_, CoCycle.eventException_quiet inv.quiet timestamp⟩

/-- The block connection is dispatched by an entry of the array. -/
theorem RecvInv.processReport (inv : RecvInv run) {revents : EpollEvents} {cycle : CoCycle}
    (half : run.cycle.readHalf run.blockConn revents = some cycle) (timestamp : Nat) :
    RecvInv ({ run with cycle, reported := none }.dispatched run.blockConn timestamp
      (.report revents)) := by
  obtain ⟨active, half⟩ := Option.ite_none_right_eq_some.1 half
  have forgotten : RecvPlace { run with reported := none } :=
    { inv.toRecvPlace with reported := fun _ mem => (nomatch mem) }
  obtain outside | ⟨len, waits⟩ := Option.eq_none_or_eq_some run.waiting
  · rw [(inv.rests outside).readEvent, Bool.and_false] at active
    cases active
  · cases closed : revents.epollrdhup with
    | true =>
      rw [closed, if_pos rfl] at half
      cases half
      have undelivered : ¬ (RecvReturn.mk len run.socket (.report revents) none).Delivered :=
        fun delivered => nomatch closed.symm.trans delivered.1
      exact forgotten.swapInTrouble waits (fun object => { object with flagPendingEof := true })
        ⟨rfl, rfl, rfl, rfl, rfl, rfl, rfl⟩ inv.quiet.thirdFunc (by simp) undelivered timestamp
    | false =>
      rw [closed, if_neg Bool.false_ne_true] at half
      cases half
      have delivered : (RecvReturn.mk len run.socket (.report revents)
          ((run.socket.recv len).map Prod.fst)).Delivered ↔ run.socket.readable = true :=
        and_iff_right closed
      exact forgotten.swapIn waits inv.quiet delivered timestamp

theorem RecvInv.step {event : RecvEvent} (inv : RecvInv run) (stepped : run.step event = some next) :
    RecvInv next := by
  cases event with
  | recv len calls =>
    unfold RecvRun.step at stepped
    dsimp only at stepped
    split at stepped
    · cases stepped
    · rename_i outside
      rw [inv.pair.live.dying, if_neg Bool.false_ne_true] at stepped
      split at stepped
      · rename_i received readable
        cases stepped
        exact inv.giveBack outside readable
      · cases stepped
        obtain ⟨pair, quiet, reads, version⟩ :=
          inv.pair.yieldThirdsocket inv.quiet (inv.rests outside) calls
        refine ⟨⟨pair, quiet, fun waits => (nomatch waits), fun _ _ => reads, ?_, inv.returned⟩,
          fun _ readable => .inl readable⟩
        · intro report mem
          dsimp only
          rw [version]
          exact inv.reported report mem
  | arrive byte bytes =>
    unfold RecvRun.step at stepped
    dsimp only at stepped
    split at stepped
    · cases stepped
    · cases stepped
      exact inv.arrived _
  | fin =>
    unfold RecvRun.step at stepped
    dsimp only at stepped
    split at stepped
    · cases stepped
    · cases stepped
      exact inv.arrived _
  | epollWait =>
    unfold RecvRun.step at stepped
    dsimp only at stepped
    split at stepped
    · rename_i registration registered _
      obtain ⟨ready, stepped⟩ := Option.ite_none_right_eq_some.1 stepped
      cases stepped
      have waits : run.waiting.isSome := by
        rw [← Option.ne_none_iff_isSome]
        intro outside
        cases (inv.rests outside).outside.symm.trans registered
      -- only a waiting call has the socket registered
      cases (inv.registration waits).symm.trans registered
      refine { inv with noticed := fun _ _ => .inr rfl, reported := ?_ }
      rintro report ⟨⟩
      have meets : run.socket.events.meets coEventRead = true := (Bool.and_eq_true_iff.1 ready).2
      exact ⟨rfl, rfl, rfl, run.socket.meets_read ▸ meets⟩
    · cases stepped
  | processReport timestamp =>
    unfold RecvRun.step at stepped
    dsimp only at stepped
    split at stepped
    · cases stepped
    · rename_i report isReport
      have reads := inv.reported report isReport
      rw [if_neg (not_not.2 reads.current.symm)] at stepped
      split at stepped
      · rename_i skipped
        cases stepped
        refine ⟨{ inv.toRecvPlace with reported := fun _ mem => (nomatch mem) }, fun waits _ => ?_⟩
        exact absurd skipped (inv.notSkipped waits reads)
      · rename_i cycle half
        cases stepped
        exact inv.processReport half timestamp
  | timer timestamp =>
    obtain ⟨isSet, stepped⟩ := Option.ite_none_right_eq_some.1 stepped
    cases stepped
    obtain outside | ⟨len, waits⟩ := Option.eq_none_or_eq_some run.waiting
    · rw [show (run.cycle.objects run.blockConn).timerEvent .read = {} from
        (inv.rests outside).readEvent] at isSet
      cases isSet
    · have undelivered : ¬ (RecvReturn.mk len run.socket .timer none).Delivered := fun never => never
      exact inv.swapInTrouble waits (fun object => object.timerExpired .read)
        ⟨rfl, rfl, rfl, rfl, rfl, rfl, rfl⟩ inv.quiet.thirdFunc rfl undelivered timestamp
  | dispatch timestamp =>
    obtain ⟨waits, stepped⟩ := Option.ite_none_right_eq_some.1 stepped
    obtain ⟨len, waits⟩ := Option.isSome_iff_exists.1 waits
    cases stepped
    exact inv.swapIn waits inv.pair.live Iff.rfl timestamp
  | others cycle =>
    cases stepped
    have origin : (run.replaceOthers cycle).cycle.objects run.connection =
        run.cycle.objects run.connection := if_pos (.inl rfl)
    have block : (run.replaceOthers cycle).cycle.objects run.blockConn =
        run.cycle.objects run.blockConn := if_pos (.inr rfl)
    have interest : (run.replaceOthers cycle).cycle.kernel.interest run.socketFd =
        run.cycle.kernel.interest run.socketFd := Function.update_self _ _ _
    refine ⟨⟨⟨inv.pair.apart, ?_, ?_, ?_, ?_⟩, ?_, fun outside => ?_, fun len waits => ?_, ?_,
      inv.returned⟩, inv.noticed⟩
    · exact origin ▸ inv.pair.owner
    · exact origin ▸ inv.pair.live
    · exact block ▸ inv.pair.ofBlock
    · exact block ▸ inv.pair.unused
    · exact block ▸ inv.quiet
    · have rests := inv.rests outside
      exact ⟨block ▸ rests.events, block ▸ rests.readEvent, block ▸ rests.socketfd,
        interest ▸ rests.outside⟩
    · have reads := inv.reads len waits
      exact ⟨block ▸ reads.events, block ▸ reads.active, block ▸ reads.socketfd,
        interest.trans (block ▸ reads.registered)⟩
    · exact block ▸ inv.reported

end

/-! ## Nothing is missed -/

section
variable {run : RecvRun} {len : Nat}

/-- An arrival that `epoll` holds is reported by the next `epoll_wait`. -/
theorem RecvInv.epollWait (inv : RecvInv run) (waits : run.waiting = some len)
    (readable : run.socket.readable = true) (ready : run.ready = true)
    (unreported : run.reported = none) : (run.step .epollWait).isSome := by
  have registered := inv.registration (Option.isSome_of_eq_some waits)
  have meets : run.socket.events.meets coEventRead = true := by
    rw [run.socket.meets_read]
    simp [EpollEvents.inter, ThirdSocket.events, coEventRead, readable]
  unfold RecvRun.step
  dsimp only
  rw [registered, unreported]
  dsimp only
  rw [ready, meets]
  rfl

/-- The entry of the waiting call ends the wait. -/
theorem RecvInv.processReport_returns (inv : RecvInv run) (waits : run.waiting = some len)
    {report : EpollReport} (reported : run.reported = some report) (timestamp : Nat) :
    ∃ next, run.step (.processReport timestamp) = some next ∧ next.waiting = none := by
  have reads := inv.reported report reported
  obtain ⟨cycle, half⟩ := Option.ne_none_iff_exists'.1
    (inv.notSkipped (Option.isSome_of_eq_some waits) reads)
  refine ⟨{ run with cycle, reported := none }.dispatched run.blockConn timestamp
    (.report report.revents), ?_, ?_⟩
  · unfold RecvRun.step
    dsimp only
    rw [reported]
    dsimp only
    rw [if_neg (not_not.2 reads.current.symm), half]
  · obtain ⟨after, resumed⟩ := inv.resumedByReport half timestamp
    have swapped : { run with cycle, reported := none }.dispatched run.blockConn timestamp
        (.report report.revents) =
          { run with cycle := after, reported := none }.swapIn len (.report report.revents) :=
      @RecvRun.dispatched_swapIn { run with reported := none } _ _ waits _ _ _ _ resumed
    rw [swapped]
    rfl

end

/-! ## Every run -/

/-- A live request before its first call; the socket is not registered anywhere. -/
structure RecvStart (run : RecvRun) : Prop where
  pair : run.cycle.BlockPair run.connection run.blockConn
  quiet : (run.cycle.objects run.blockConn).Quiet
  rests : run.cycle.BlockRests run.blockConn run.socketFd
  outside : run.waiting = none
  unreported : run.reported = none
  uncalled : run.returns = []

theorem RecvStart.inv {run : RecvRun} (start : RecvStart run) : RecvInv run := by
  refine ⟨⟨start.pair, start.quiet, fun _ => start.rests, fun len waits => ?_, ?_, ?_⟩, ?_⟩
  · cases start.outside.symm.trans waits
  · rw [start.unreported]
    exact fun _ mem => nomatch mem
  · rw [start.uncalled]
    exact fun _ mem => nomatch mem
  · rw [start.outside]
    exact fun waits => nomatch waits

/-- What holds of the calls of `recv` after every run. -/
structure RecvSound (run : RecvRun) : Prop where
  /-- A call returned what the plain call returns exactly if it was delivered. -/
  returned : ∀ returned ∈ run.returns, returned.AsPlain ↔ returned.Delivered
  /-- No arrival is missed: when there is something to read, the waiting call is about to
      be reported, or dispatched. -/
  noticed : ∀ len, run.waiting = some len → run.socket.readable →
    (run.step .epollWait).isSome ∨ ∀ timestamp, ∃ next,
      run.step (.processReport timestamp) = some next ∧ next.waiting = none

theorem third_recv_iff {events : List RecvEvent} {start final : RecvRun} (initial : RecvStart start)
    (ran : events.foldlM RecvRun.step start = some final) : RecvSound final := by
  have inv := Lib.run_keeps RecvRun.step RecvInv (fun _ _ _ inv stepped => inv.step stepped)
    initial.inv ran
  refine ⟨inv.returned, fun len waits readable => ?_⟩
  cases reported : final.reported with
  | some report =>
    exact .inr fun timestamp => inv.processReport_returns waits reported timestamp
  | none =>
    obtain ready | held := inv.noticed (Option.isSome_of_eq_some waits) readable
    · exact .inl (inv.epollWait waits readable ready reported)
    · rw [reported] at held
      cases held

/-- Connection 1 serves the request, 2 is its block connection, and 9 the descriptor of
    the socket. -/
def recvStart : RecvRun where
  cycle := { objects := fun connection => if connection = 1 then { blockConn := some 2 }
    else { flagBlockConn := true, blockOriginConn := some 1 } }
  connection := 1
  blockConn := 2
  socketFd := 9

theorem recvStart_initial : RecvStart recvStart where
  pair := ⟨by decide, rfl, ⟨rfl, rfl, rfl, rfl⟩, rfl, rfl⟩
  quiet := ⟨rfl, rfl, rfl, rfl⟩
  rests := ⟨rfl, rfl, rfl, rfl⟩
  outside := rfl
  unreported := rfl
  uncalled := rfl

/-- A call waits for the answer, and the next one finds the FIN at once. -/
def recvAnswer : List RecvEvent := [
  .recv 8 { socket := -1 }, .arrive 104 [105], .epollWait, .processReport 0, .fin,
  .recv 8 { socket := -1 }]

theorem third_recv_iff_answer : ∃ final, recvAnswer.foldlM RecvRun.step recvStart = some final ∧
    final.returns.map RecvReturn.result = [some [104, 105], some []] ∧ RecvSound final := by
  have defined : (recvAnswer.foldlM RecvRun.step recvStart).map
      (fun final => final.returns.map RecvReturn.result) = some [some [104, 105], some []] := by
    decide +kernel
  obtain ⟨final, ran, seen⟩ := Option.map_eq_some_iff.1 defined
  exact ⟨final, ran, seen, third_recv_iff recvStart_initial ran⟩

/-- The answer and the FIN behind it are in one report: the call fails with the answer
    unread. -/
theorem answer_with_fin_lost : ¬ ∀ (events : List RecvEvent) (start final : RecvRun),
    RecvStart start → events.foldlM RecvRun.step start = some final →
    ∀ returned ∈ final.returns, returned.AsPlain := by
  intro asPlain
  have defined : ([.recv 8 { socket := -1 }, .arrive 104 [105], .fin, .epollWait,
      .processReport 0].foldlM RecvRun.step recvStart).map
        (fun final => final.returns.map RecvReturn.result) = some [none] := by
    decide +kernel
  obtain ⟨final, ran, seen⟩ := Option.map_eq_some_iff.1 defined
  obtain ⟨returned, isOnly, failed⟩ := List.map_eq_singleton_iff.1 seen
  obtain ⟨bytes, rest, -, answered⟩ := asPlain _ _ _ recvStart_initial ran returned
    (isOnly ▸ List.mem_singleton_self _)
  cases failed.symm.trans answered

end CoServer
