import CoServer.Core.MessageReads
import CoServer.Core.ThirdSocket

/-! # The response of an upstream

`upstream_read` waits for the response inside of `recv`, whose hook tries once, gives
up the coroutine and tries again when it is resumed.  A report with EPOLLRDHUP marks
the connection before it resumes the coroutine, and the hook then fails without a
second try, whatever there is to be read. -/

namespace CoServer

open ClientConnection (Recv)

/-- What `upstream_read` and `upstream_process` call. -/
structure UpstreamCalls (Protocol : Type) where
  decode : Protocol → CoBuffer → Option (Int × Protocol × CoBuffer)
  /-- `m_userProcess`, if it is set -/
  userProcess : Option (Protocol → Int) := none

/-- An attempt from the end of `upstream_write` on.  `unsent` is what the peer has yet to
    send, `reads` records what `recv` returned, and `finalized` is the code that
    `upstream_finalize` was called with. -/
structure ResponseRun (Protocol : Type) where
  cycle : CoCycle
  connection : Nat
  request : Nat
  protocol : Protocol
  unsent : Bytes
  socket : ThirdSocket := {}
  /-- what `realloc` returned in the turn whose `recv` is suspended -/
  waiting : Option Block := none
  /-- `epoll` has the socket on its ready list -/
  ready : Bool := false
  /-- its entry in the array at hand -/
  reported : Option EpollReport := none
  reads : List (Bytes × Block) := []
  finalized : Option Int := none

/-- `errnoAgain` says that `errno` is EAGAIN where the hook fails without setting it. -/
inductive ResponseEvent where
  /-- a turn of the loop up to the return of `recv`, or its suspension -/
  | turn (memory : Block) (errnoAgain : Bool)
  | arrive (count : Nat)
  | fin
  | epollWait
  | processReport (timestamp : Nat) (errnoAgain : Bool)
  /-- the rest of the process does something to everything else -/
  | others (cycle : CoCycle)

/-- The attempt, its socket or its peer does something. -/
def ResponseEvent.own : ResponseEvent → Bool
  | .others _ => false
  | _ => true

/-- `tcp_read` where the hook has failed. -/
def tcpReadFailed (errnoAgain : Bool) : Int := if errnoAgain then coTimeout else coError

/-- A turn from the return of `recv` to the call of `decode`. -/
def CoBuffer.fill (self : CoBuffer) (bytes : Bytes) : Option (Int × CoBuffer) :=
  if bytes = [] then some (coConnectionClose, self)
  else (self.writeSpace bytes).map fun self => self.bufferSizeExpand bytes.length

namespace ResponseRun

section
variable {Protocol : Type}

def object (self : ResponseRun Protocol) : CoConnection := self.cycle.objects self.connection

def registration (self : ResponseRun Protocol) : Option Registration :=
  self.cycle.kernel.interest self.object.coTcp.socketfd

/-- Everything but the connection, its registration and its request. -/
def replaceOthers (self : ResponseRun Protocol) (cycle : CoCycle) : ResponseRun Protocol :=
  { self with
    cycle := { cycle with
      objects := Function.update cycle.objects self.connection self.object
      requests := Function.update cycle.requests self.request (self.cycle.requests self.request)
      kernel := { cycle.kernel with
        interest := Function.update cycle.kernel.interest self.object.coTcp.socketfd self.registration } } }

def setTimer (self : ResponseRun Protocol) (kind : TimerKind) (flagTimerSet : Bool) : ResponseRun Protocol :=
  { self with cycle := self.cycle.modifyObject self.connection fun object => object.setTimer kind flagTimerSet }

def setBuffer (self : ResponseRun Protocol) (coBuffer : CoBuffer) : ResponseRun Protocol :=
  { self with cycle := self.cycle.modifyObject self.connection fun object => { object with coBuffer } }

/-- `modify_connection`; where it calls `epoll_ctl`, the socket is looked at anew. -/
def modifyConnection (self : ResponseRun Protocol) (eventType : EventType) (eventOP : EpollEvents) :
    Int × ResponseRun Protocol :=
  let object := self.object
  let (ret, cycle) := self.cycle.modifyConnection self.connection eventType eventOP
  if eventType.change object.epollCurEvents eventOP = object.epollCurEvents ∧
      object.epollCurVersion = object.version then (ret, { self with cycle })
  else (ret, { self with cycle, ready := self.socket.readable })

def finalize (self : ResponseRun Protocol) (retCode : Int) : ResponseRun Protocol :=
  { self with finalized := some retCode }

/-- The deferred cleanup of `upstream_write`. -/
def writeCleanup (self : ResponseRun Protocol) : ResponseRun Protocol :=
  let (deleted, self) := (self.setTimer .write false).modifyConnection .del coEventOut
  if deleted ≠ coOk then self.finalize coError else self

/-- The deferred cleanup of `upstream_read`; a deletion that fails is logged. -/
def readCleanup (self : ResponseRun Protocol) : ResponseRun Protocol :=
  ((self.setTimer .read false).modifyConnection .del coEventIn).2

/-- `upstream_read` up to its loop. -/
def upstreamRead (self : ResponseRun Protocol) : ResponseRun Protocol :=
  let (added, self) := (self.setTimer .read true).modifyConnection .add coEventIn
  if added ≠ coOk then self.readCleanup.finalize coError else self

/-- The request is written. -/
def written (self : ResponseRun Protocol) : ResponseRun Protocol := self.writeCleanup.upstreamRead

variable (calls : UpstreamCalls Protocol)

def upstreamProcess (self : ResponseRun Protocol) : ResponseRun Protocol :=
  match calls.userProcess with
  | none => self.finalize coOk
  | some userProcess => ((self.setTimer .read true).setTimer .read false).finalize (userProcess self.protocol)

/-- `upstream_read` behind its loop. -/
def leave (self : ResponseRun Protocol) (ret : Int) : ResponseRun Protocol :=
  let self := { self with waiting := none }.readCleanup
  if ret = coOk then self.upstreamProcess calls else self.finalize ret

/-- A turn from the return of `recv` on. -/
def received (self : ResponseRun Protocol) (bytes : Bytes) (memory : Block) : Option (ResponseRun Protocol) :=
  match self.object.coBuffer.fill bytes with
  | none => none
  | some (ret, coBuffer) =>
    if ret ≠ coOk then some ((self.setBuffer coBuffer).leave calls ret)
    else
      match calls.decode self.protocol coBuffer with
      | none => none
      | some (ret, protocol, coBuffer) =>
        let self := { self.setBuffer coBuffer with
          protocol, waiting := none, reads := self.reads ++ [(bytes, memory)] }
        if ret = coAgain then some self else some (self.leave calls ret)

/-- The second half of the hook: the coroutine is swapped in. -/
def swapIn (self : ResponseRun Protocol) (memory : Block) (errnoAgain : Bool) : Option (ResponseRun Protocol) :=
  if self.object.flagDying then some (self.leave calls (tcpReadFailed errnoAgain))
  else
    match self.socket.recv bufferSize4096 with
    | none => some (self.leave calls coTimeout)
    | some (bytes, socket) => { self with socket }.received calls bytes memory

def dispatched (self : ResponseRun Protocol) (timestamp : Nat) (memory : Block) (errnoAgain : Bool) :
    Option (ResponseRun Protocol) :=
  let (resumed, cycle) := self.cycle.funcDispatcher self.connection timestamp
  if resumed then { self with cycle }.swapIn calls memory errnoAgain else some { self with cycle }

/-- The first half of the hook. -/
def recv (self : ResponseRun Protocol) (memory : Block) (errnoAgain : Bool) : Option (ResponseRun Protocol) :=
  if self.object.flagDying then some (self.leave calls (tcpReadFailed errnoAgain))
  else
    match self.socket.recv bufferSize4096 with
    | none => some { self with waiting := some memory }
    | some (bytes, socket) => { self with socket }.received calls bytes memory

def step (self : ResponseRun Protocol) : ResponseEvent → Option (ResponseRun Protocol)
  | .turn memory errnoAgain =>
    if self.waiting.isSome || self.finalized.isSome then none
    else
      match self.object.coBuffer.bufferExpand bufferSize4096 (some memory) with
      | none => none
      | some (ret, coBuffer) =>
        let self := self.setBuffer coBuffer
        if ret ≠ coOk then some (self.leave calls coError) else self.recv calls memory errnoAgain
  | .arrive count =>
    if self.socket.fin || count = 0 || self.unsent.length < count then none
    else some { self with
      unsent := self.unsent.drop count
      socket := { self.socket with received := self.socket.received ++ self.unsent.take count }
      ready := self.ready || self.registration.isSome }
  | .fin =>
    if self.socket.fin || !self.unsent.isEmpty then none
    else some { self with
      socket := { self.socket with fin := true }
      ready := self.ready || self.registration.isSome }
  | .epollWait =>
    -- the loop has the thread only while the coroutine waits
    match self.waiting, self.registration, self.reported with
    | some _, some registration, none =>
      if self.ready && self.socket.events.meets registration.events then
        some { self with
          ready := false
          reported := some ⟨self.socket.events.inter registration.events, registration.connId,
            registration.version⟩ }
      else none
    | _, _, _ => none
  | .processReport timestamp errnoAgain =>
    match self.waiting, self.reported with
    | some memory, some report =>
      let self := { self with reported := none }
      if self.object.version ≠ report.version then some self
      else
        -- registered for reading only, the connection has no write half
        match self.cycle.readHalf self.connection report.revents with
        | none => some self
        | some cycle => { self with cycle }.dispatched calls timestamp memory errnoAgain
    | _, _ => none
  | .others cycle => some (self.replaceOthers cycle)

end

end ResponseRun

/-! ## The connection of an attempt -/

/-- The connection of a request that nothing has happened to. -/
structure CoConnection.Serving (object : CoConnection) (request : Nat) : Prop extends object.Quiet where
  unused : object.flagUseBlockConn = false
  inner : object.flagBlockConn = false
  serves : object.request = some request

section
variable {object : CoConnection} {request : Nat}

theorem CoConnection.Serving.setBuffer (serving : object.Serving request) (coBuffer : CoBuffer) :
    { object with coBuffer }.Serving request :=
  ⟨⟨serving.timedOut, serving.pendingEof, serving.dying, serving.thirdFunc⟩,
    serving.unused, serving.inner, serving.serves⟩

theorem CoConnection.Serving.setTimer (serving : object.Serving request) (kind : TimerKind) (flagTimerSet : Bool) :
    (object.setTimer kind flagTimerSet).Serving request := by
  cases kind <;> exact ⟨⟨serving.timedOut, serving.pendingEof, serving.dying, serving.thirdFunc⟩, serving.unused,
    serving.inner, serving.serves⟩

theorem CoConnection.Serving.registered (serving : object.Serving request) (events : EpollEvents) (version : Nat)
    (readActive writeActive : Bool) : (CoCycle.registered events version readActive writeActive object).Serving request :=
  ⟨⟨serving.timedOut, serving.pendingEof, serving.dying, serving.thirdFunc⟩,
    serving.unused, serving.inner, serving.serves⟩

end

namespace CoCycle

/-- The connection of a request without sub-requests is registered for reading. -/
structure AwaitsResponse (cycle : CoCycle) (connection request : Nat) : Prop where
  serving : (cycle.objects connection).Serving request
  noUpstreams : (cycle.requests request).upstreamRequests = []
  active : (cycle.objects connection).readEvent.flagActive = true
  registered : cycle.kernel.interest (cycle.objects connection).coTcp.socketfd =
    some ⟨coEventRead, (cycle.objects connection).connId, (cycle.objects connection).version⟩

section
variable {cycle : CoCycle} {connection request : Nat}

theorem AwaitsResponse.setBuffer (awaits : cycle.AwaitsResponse connection request) (coBuffer : CoBuffer) :
    (cycle.modifyObject connection fun object => { object with coBuffer }).AwaitsResponse connection request := by
  have object := cycle.modifyObject_same connection fun object => { object with coBuffer }
  constructor
  · rw [object]
    exact awaits.serving.setBuffer coBuffer
  · exact awaits.noUpstreams
  · rw [object]
    exact awaits.active
  · rw [object]
    exact awaits.registered

/-- A registration that is changed to another one. -/
theorem modifyConnection_changed {eventType : EventType} {eventOP events after : EpollEvents} {held : Registration}
    (mask : (cycle.objects connection).epollCurEvents = events)
    (inside : cycle.kernel.interest (cycle.objects connection).coTcp.socketfd = some held)
    (current : eventType.change events eventOP = after) (changed : after ≠ events) (nonzero : events ≠ .zero)
    (nonempty : after ≠ .zero) :
    ∃ next, cycle.modifyConnection connection eventType eventOP = (coOk, next) ∧ next.requests = cycle.requests ∧
      next.objects connection = registered after (cycle.objects connection).version (after.meets coEventRead)
        (after.meets coEventOut) (cycle.objects connection) ∧
      next.kernel.interest (cycle.objects connection).coTcp.socketfd =
        some ⟨after, (cycle.objects connection).connId, (cycle.objects connection).version⟩ := by
  have op : EpollOp.choose (cycle.objects connection).epollCurEvents after = .mod := by
    rw [mask, EpollOp.choose, if_neg nonzero, if_neg nonempty]
  have accepted := Kernel.epollCtl_mod inside
    ⟨after, (cycle.objects connection).connId, (cycle.objects connection).version⟩
  rw [← op] at accepted
  exact ⟨_, modifyConnection_accepted (by rw [mask, current]) (by rw [mask]; exact changed) accepted, rfl,
    modifyObject_same _ _ _, Function.update_self _ _ _⟩

/-- A report without the FIN resumes the coroutine of a connection that nothing has happened to. -/
theorem AwaitsResponse.resumed (awaits : cycle.AwaitsResponse connection request) {revents : EpollEvents}
    (readable : revents.epollin = true) (noFin : revents.epollrdhup = false) (timestamp : Nat) :
    cycle.readHalf connection revents = some cycle ∧ cycle.funcDispatcher connection timestamp = (true, cycle) := by
  constructor
  · simp [readHalf, readable, noFin, awaits.active]
  · rw [funcDispatcher, eventException_quiet awaits.serving.toQuiet]
    rfl

/-- A connection of a request without sub-requests is marked, and resumed all the same. -/
theorem eventException_request (unused : (cycle.objects connection).flagUseBlockConn = false)
    (inner : (cycle.objects connection).flagBlockConn = false)
    (thirdFunc : (cycle.objects connection).flagThirdFuncBlocking = false)
    (serves : (cycle.objects connection).request = some request)
    (noUpstreams : (cycle.requests request).upstreamRequests = [])
    (trouble : ((cycle.objects connection).flagTimedOut || (cycle.objects connection).flagPendingEof ||
      (cycle.objects connection).flagDying) = true) (timestamp : Nat) :
    cycle.eventException connection timestamp = (coOk, cycle.markDying connection) := by
  have kept : (cycle.markDying connection).requests = cycle.requests := rfl
  simp [eventException, trouble, unused, inner, thirdFunc, serves, noUpstreams, kept]

/-- A report with the FIN marks the connection before the coroutine is resumed. -/
theorem AwaitsResponse.marked (awaits : cycle.AwaitsResponse connection request) {revents : EpollEvents}
    (fin : revents.epollrdhup = true) (timestamp : Nat) : ∃ closing after,
      cycle.readHalf connection revents = some closing ∧ closing.funcDispatcher connection timestamp = (true, after) ∧
        (after.objects connection).flagDying = true := by
  let closing := cycle.modifyObject connection fun object => { object with flagPendingEof := true }
  have object : closing.objects connection = { cycle.objects connection with flagPendingEof := true } :=
    modifyObject_same _ _ _
  have trouble : closing.eventException connection timestamp = (coOk, closing.markDying connection) := by
    apply eventException_request
    · rw [object]
      exact awaits.serving.unused
    · rw [object]
      exact awaits.serving.inner
    · rw [object]
      exact awaits.serving.thirdFunc
    · rw [object]
      exact awaits.serving.serves
    · exact awaits.noUpstreams
    · simp [object]
  refine ⟨closing, closing.markDying connection, ?_, ?_, ?_⟩
  · simp [closing, readHalf, fin, awaits.active]
  · rw [funcDispatcher, trouble]
    rfl
  · simp [markDying]

end

end CoCycle

/-! ## One step -/

/-- The user's function is content with every response. -/
def UpstreamCalls.Succeeds {Protocol : Type} (calls : UpstreamCalls Protocol) : Prop :=
  ∀ userProcess ∈ calls.userProcess, ∀ protocol, userProcess protocol = coOk

/-- `buffer_expand`, `recv` and the rest of a turn up to `decode`. -/
theorem CoBuffer.receive_expanded {held received : CoBuffer} {memory : Block}
    (expanded : held.bufferExpand bufferSize4096 (some memory) = some (coOk, received)) (bytes : Bytes) :
    held.receive (bytes, memory) = received.fill bytes := by
  simp only [receive, expanded]
  rw [if_neg (not_not.2 rfl)]
  rfl

namespace ResponseRun

/-- The report that resumes the read does not carry the FIN. -/
def Undisturbed {Protocol : Type} (run : ResponseRun Protocol) : ResponseEvent → Prop
  | .processReport _ _ => ∀ report ∈ run.reported, report.events.epollrdhup = false
  | _ => True

instance decidableUndisturbed {Protocol : Type} (run : ResponseRun Protocol) :
    ∀ event, Decidable (Undisturbed run event)
  | .processReport _ _ => inferInstanceAs (Decidable (∀ report ∈ run.reported, report.events.epollrdhup = false))
  | .turn _ _ | .arrive _ | .fin | .epollWait | .others _ => isTrue trivial

section
variable {Protocol : Type} {calls : UpstreamCalls Protocol}
  {decode : Protocol → CoBuffer → Option (Int × Protocol × CoBuffer)}
  {first : Protocol} {start : CoBuffer} {response bytes rest : Bytes} {run next : ResponseRun Protocol} {memory : Block}
  {event : ResponseEvent}

/-- The attempt is at an end. -/
structure Ended (run : ResponseRun Protocol) : Prop where
  finalized : run.finalized.isSome
  waiting : run.waiting = none

/-- The attempt has read a message, or something that is none. -/
inductive Decided (decode : Protocol → CoBuffer → Option (Int × Protocol × CoBuffer)) (first : Protocol)
    (start : CoBuffer) (response : Bytes) (run : ResponseRun Protocol) : Prop
  | decoded {left : CoBuffer} {rest : Bytes} : run.finalized = some coOk → Recv run.reads →
      Completes decode first start run.reads run.protocol left →
        (run.reads.map Prod.fst).flatten ++ rest = response → Decided decode first start response run
  | refused {retCode : Int} : run.finalized = some retCode → retCode ≠ coOk → Recv run.reads →
      Refuses decode first start response run.reads → Decided decode first start response run

/-- The attempt has failed. -/
def Failed (run : ResponseRun Protocol) : Prop := ∃ retCode, run.finalized = some retCode ∧ retCode ≠ coOk

/-- An attempt under way, of whose response nothing was lost. -/
structure Begun (response : Bytes) (run : ResponseRun Protocol) : Prop where
  awaits : run.cycle.AwaitsResponse run.connection run.request
  unfinished : run.finalized = none
  sent : (run.reads.map Prod.fst).flatten ++ run.socket.received ++ run.unsent = response
  fin : run.socket.fin = true → run.unsent = []
  readable : Recv run.reads

/-- The buffer behind the last call of `decode`; the turn at hand may have made space in it. -/
def Holds (run : ResponseRun Protocol) (held : CoBuffer) : Prop :=
  match run.waiting with
  | none => run.object.coBuffer = held
  | some memory => held.bufferExpand bufferSize4096 (some memory) = some (coOk, run.object.coBuffer)

/-- An attempt between two events. -/
structure Reading (decode : Protocol → CoBuffer → Option (Int × Protocol × CoBuffer)) (first : Protocol)
    (start : CoBuffer) (response : Bytes) (run : ResponseRun Protocol) : Prop extends Begun response run where
  pending : ∃ held, Pending decode first start run.reads run.protocol held ∧ run.Holds held
  reported : ∀ report ∈ run.reported,
    report.Reads run.object.version ∧ run.waiting.isSome ∧ run.socket.readable = true
  /-- An arrival is noticed: `epoll` holds it, or the array at hand does. -/
  noticed : run.waiting.isSome → run.socket.readable = true → run.ready = true ∨ run.reported.isSome

/-- The attempt goes on, or has come to its end by what it has read. -/
def Proceeds (decode : Protocol → CoBuffer → Option (Int × Protocol × CoBuffer)) (first : Protocol) (start : CoBuffer)
    (response : Bytes) (run : ResponseRun Protocol) : Prop :=
  Reading decode first start response run ∨ run.Ended ∧ Decided decode first start response run

/-- An attempt inside of a turn that has made its space. -/
structure Turning (decode : Protocol → CoBuffer → Option (Int × Protocol × CoBuffer)) (first : Protocol)
    (start : CoBuffer) (response : Bytes) (memory : Block) (run : ResponseRun Protocol) : Prop
    extends Begun response run where
  space : ∃ held, Pending decode first start run.reads run.protocol held ∧
    held.bufferExpand bufferSize4096 (some memory) = some (coOk, run.object.coBuffer)
  reported : run.reported = none

/-! ### The end of an attempt -/

theorem modifyConnection_frame (run : ResponseRun Protocol) (eventType : EventType) (eventOP : EpollEvents) :
    ∃ cycle ready, (run.modifyConnection eventType eventOP).2 = { run with cycle, ready } := by
  unfold modifyConnection
  dsimp only
  split
  · exact ⟨_, run.ready, rfl⟩
  · exact ⟨_, _, rfl⟩

theorem leave_spec (succeeds : calls.Succeeds) (run : ResponseRun Protocol) (ret : Int) :
    (run.leave calls ret).Ended ∧ (run.leave calls ret).finalized = some ret ∧
      (run.leave calls ret).reads = run.reads ∧ (run.leave calls ret).protocol = run.protocol := by
  obtain ⟨cycle, ready, cleaned⟩ :=
    modifyConnection_frame ({ run with waiting := none }.setTimer .read false) .del coEventIn
  unfold leave readCleanup
  dsimp only
  rw [cleaned]
  by_cases ok : ret = coOk
  · rw [if_pos ok, ok]
    unfold upstreamProcess
    split
    · exact ⟨⟨rfl, rfl⟩, rfl, rfl, rfl⟩
    · rename_i userProcess set
      exact ⟨⟨rfl, rfl⟩, congrArg some (succeeds userProcess set _), rfl, rfl⟩
  · rw [if_neg ok]
    exact ⟨⟨rfl, rfl⟩, rfl, rfl, rfl⟩

theorem leave_refused (succeeds : calls.Succeeds) (run : ResponseRun Protocol) {ret : Int} (failed : ret ≠ coOk)
    (recv : Recv run.reads) (refuses : Refuses decode first start response run.reads) :
    (run.leave calls ret).Ended ∧ Decided decode first start response (run.leave calls ret) := by
  obtain ⟨ended, finalized, reads, -⟩ := leave_spec succeeds run ret
  exact ⟨ended, .refused finalized failed (reads ▸ recv) (reads ▸ refuses)⟩

theorem leave_decoded (succeeds : calls.Succeeds) (run : ResponseRun Protocol) {left : CoBuffer}
    (recv : Recv run.reads) (completes : Completes decode first start run.reads run.protocol left)
    (whole : (run.reads.map Prod.fst).flatten ++ rest = response) :
    (run.leave calls coOk).Ended ∧ Decided decode first start response (run.leave calls coOk) := by
  obtain ⟨ended, finalized, reads, protocol⟩ := leave_spec succeeds run coOk
  exact ⟨ended, .decoded finalized (reads ▸ recv) (by rw [reads, protocol]; exact completes) (by rw [reads]; exact whole)⟩

theorem object_setBuffer (run : ResponseRun Protocol) (coBuffer : CoBuffer) :
    (run.setBuffer coBuffer).object = { run.object with coBuffer } := by
  simp [object, setBuffer]

/-- Nothing is read behind the end. -/
theorem Ended.step (ended : run.Ended) (stepped : run.step calls event = some next) :
    next.Ended ∧ next.finalized = run.finalized ∧ next.reads = run.reads ∧ next.protocol = run.protocol := by
  cases event with
  | turn memory errnoAgain =>
    rw [ResponseRun.step, if_pos (by simp [ended.finalized])] at stepped
    cases stepped
  | arrive count =>
    simp only [ResponseRun.step] at stepped
    split at stepped
    · cases stepped
    · cases stepped
      exact ⟨⟨ended.finalized, ended.waiting⟩, rfl, rfl, rfl⟩
  | fin =>
    simp only [ResponseRun.step] at stepped
    split at stepped
    · cases stepped
    · cases stepped
      exact ⟨⟨ended.finalized, ended.waiting⟩, rfl, rfl, rfl⟩
  | epollWait =>
    simp only [ResponseRun.step, ended.waiting] at stepped
    cases stepped
  | processReport timestamp errnoAgain =>
    simp only [ResponseRun.step, ended.waiting] at stepped
    cases stepped
  | others cycle =>
    cases stepped
    exact ⟨⟨ended.finalized, ended.waiting⟩, rfl, rfl, rfl⟩

/-! ### A turn of the loop -/

/-- A turn asks for more, or ends the attempt. -/
theorem Turning.received (succeeds : calls.Succeeds) (turning : Turning calls.decode first start response memory run)
    {socket : ThirdSocket} (took : run.socket.recv bufferSize4096 = some (bytes, socket))
    (ran : { run with socket }.received calls bytes memory = some next) :
    Proceeds calls.decode first start response next := by
  obtain ⟨short, front, fin, closed⟩ := ThirdSocket.recv_some took (by decide)
  obtain ⟨held, pending, expanded⟩ := turning.space
  have whole : (run.reads.map Prod.fst).flatten ++ (bytes ++ (socket.received ++ run.unsent)) = response := by
    rw [← List.append_assoc bytes, front, ← List.append_assoc, turning.sent]
  have object : ({ run with socket } : ResponseRun Protocol).object = run.object := rfl
  unfold ResponseRun.received at ran
  by_cases empty : bytes = []
  · -- the peer has closed, and all of the response was read before
    obtain ⟨drained, fin⟩ := closed empty
    have read : (run.reads.map Prod.fst).flatten = response := by
      have sent := turning.sent
      rwa [drained, turning.fin fin, List.append_nil, List.append_nil] at sent
    rw [empty] at ran
    cases ran
    exact .inr (leave_refused succeeds _ (by decide) turning.readable (pending.refuses_end read))
  · rw [object, ← CoBuffer.receive_expanded expanded] at ran
    split at ran
    · cases ran
    · rename_i ret coBuffer arrived
      by_cases ok : ret = coOk
      · subst ok
        rw [if_neg (not_not.2 rfl)] at ran
        split at ran
        · cases ran
        · rename_i code protocol behind decoded
          have read : ((run.reads ++ [(bytes, memory)]).map Prod.fst).flatten ++ (socket.received ++ run.unsent) =
              response := by
            rw [← whole, List.map_append, List.flatten_append, List.map_singleton, List.flatten_singleton,
              List.append_assoc]
          have recv : Recv (run.reads ++ [(bytes, memory)]) :=
            List.forall_mem_append.2 ⟨turning.readable, List.forall_mem_singleton.2 ⟨empty, short⟩⟩
          by_cases again : code = coAgain
          · -- the read is recorded, and the next turn begins
            subst again
            cases ran
            refine .inl ⟨⟨turning.awaits.setBuffer behind, turning.unfinished, ?_,
              fun closed => turning.fin (fin ▸ closed), recv⟩, ⟨behind, pending.again arrived decoded,
                congrArg CoConnection.coBuffer (object_setBuffer _ behind)⟩, ?_, ?_⟩
            · rw [List.append_assoc]
              exact read
            · intro report mem
              exact absurd (turning.reported ▸ mem) (Option.not_mem_none _)
            · exact fun suspended => by cases suspended
          · dsimp only at ran
            rw [if_neg again] at ran
            cases ran
            by_cases ok : code = coOk
            · subst ok
              exact .inr (leave_decoded succeeds _ recv (pending.completes arrived decoded) read)
            · exact .inr (leave_refused succeeds _ ok recv (pending.refuses_after arrived decoded ok again whole))
      · -- the bytes were read, but could not be kept
        rw [if_pos ok] at ran
        cases ran
        refine .inr (leave_refused succeeds _ ok turning.readable ?_)
        refine pending.refuses_piece (bytes, memory) ⟨empty, short⟩ whole fun more last left completes => ?_
        obtain ⟨received, again, -⟩ := completes.head
        cases arrived.symm.trans again
        exact ok rfl

/-- The first half of the hook suspends the coroutine where nothing can be read. -/
theorem Turning.recv (succeeds : calls.Succeeds) (turning : Turning calls.decode first start response memory run)
    {errnoAgain : Bool} (ran : run.recv calls memory errnoAgain = some next) :
    Proceeds calls.decode first start response next := by
  unfold ResponseRun.recv at ran
  rw [object, turning.awaits.serving.dying, if_neg Bool.false_ne_true] at ran
  split at ran
  · rename_i blocked
    cases ran
    have unreadable : run.socket.readable = false := by
      rw [← ThirdSocket.recv_isSome run.socket bufferSize4096]
      exact congrArg Option.isSome blocked
    refine .inl ⟨⟨turning.awaits, turning.unfinished, turning.sent, turning.fin, turning.readable⟩, turning.space, ?_,
      fun _ readable => ?_⟩
    · intro report mem
      exact absurd (turning.reported ▸ mem) (Option.not_mem_none _)
    · exact absurd (unreadable.symm.trans readable) Bool.false_ne_true
  · rename_i bytes socket took
    exact turning.received succeeds took ran

/-- The second half of the hook reads what there is. -/
theorem Turning.swapIn (succeeds : calls.Succeeds) (turning : Turning calls.decode first start response memory run)
    (readable : run.socket.readable = true) {errnoAgain : Bool}
    (ran : run.swapIn calls memory errnoAgain = some next) :
    Proceeds calls.decode first start response next := by
  unfold ResponseRun.swapIn at ran
  rw [object, turning.awaits.serving.dying, if_neg Bool.false_ne_true] at ran
  split at ran
  · rename_i blocked
    have arrived := ThirdSocket.recv_isSome run.socket bufferSize4096
    rw [blocked, readable] at arrived
    cases arrived
  · rename_i bytes socket took
    exact turning.received succeeds took ran

/-! ### The steps of an attempt -/

theorem Reading.unreported (reading : Reading decode first start response run) (awake : run.waiting = none) :
    run.reported = none := by
  refine Option.eq_none_iff_forall_not_mem.2 fun report mem => ?_
  have suspended := (reading.reported report mem).2.1
  rw [awake] at suspended
  cases suspended

theorem Reading.turn (succeeds : calls.Succeeds) (reading : Reading calls.decode first start response run)
    {errnoAgain : Bool} (stepped : run.step calls (.turn memory errnoAgain) = some next) :
    Proceeds calls.decode first start response next := by
  simp only [ResponseRun.step] at stepped
  split at stepped
  · cases stepped
  · rename_i idle
    have awake : run.waiting = none := by
      cases waiting : run.waiting with
      | none => rfl
      | some memory => simp [waiting] at idle
    obtain ⟨held, pending, holds⟩ := reading.pending
    rw [Holds, awake] at holds
    split at stepped
    · cases stepped
    · rename_i ret coBuffer expanded
      rw [holds] at expanded
      by_cases ok : ret = coOk
      · subst ok
        rw [if_neg (not_not.2 rfl)] at stepped
        have turning : Turning calls.decode first start response memory (run.setBuffer coBuffer) :=
          ⟨⟨reading.awaits.setBuffer coBuffer, reading.unfinished, reading.sent, reading.fin, reading.readable⟩,
            ⟨held, pending, by rw [object_setBuffer]; exact expanded⟩, reading.unreported awake⟩
        exact turning.recv succeeds stepped
      · rw [if_pos ok] at stepped
        cases stepped
        have sent := reading.sent
        rw [List.append_assoc] at sent
        exact .inr (leave_refused succeeds _ (by decide) reading.readable (pending.refuses_space expanded ok sent))

/-- A report is dropped, or resumes the coroutine that waits. -/
theorem processReport_cases {timestamp : Nat} {errnoAgain : Bool}
    (stepped : run.step calls (.processReport timestamp errnoAgain) = some next) :
    ∃ memory report, run.waiting = some memory ∧ run.reported = some report ∧ ∃ cycle,
      (next = { run with reported := none, cycle } ∨
        { run with reported := none, cycle }.swapIn calls memory errnoAgain = some next) := by
  simp only [ResponseRun.step] at stepped
  split at stepped
  · rename_i memory report waiting reported
    refine ⟨memory, report, waiting, reported, ?_⟩
    split at stepped
    · cases stepped
      exact ⟨run.cycle, .inl rfl⟩
    · split at stepped
      · cases stepped
        exact ⟨run.cycle, .inl rfl⟩
      · unfold ResponseRun.dispatched at stepped
        dsimp only at stepped
        split at stepped
        · exact ⟨_, .inr stepped⟩
        · cases stepped
          exact ⟨_, .inl rfl⟩
  · cases stepped

/-- A report about the connection resumes the turn at hand. -/
theorem step_processReport {report : EpollReport} {half after : CoCycle} {timestamp : Nat} {errnoAgain : Bool}
    (waiting : run.waiting = some memory) (reported : run.reported = some report)
    (current : report.version = run.object.version)
    (dispatched : run.cycle.readHalf run.connection report.revents = some half)
    (resumed : half.funcDispatcher run.connection timestamp = (true, after)) :
    run.step calls (.processReport timestamp errnoAgain) =
      { run with reported := none, cycle := after }.swapIn calls memory errnoAgain := by
  rw [object] at current
  simp only [ResponseRun.step, waiting, reported, object, current, ne_eq, not_true_eq_false, dispatched,
    ResponseRun.dispatched, resumed, if_false, if_true]

/-- A report that does not carry the FIN goes on with the turn. -/
theorem Reading.processReport (succeeds : calls.Succeeds) (reading : Reading calls.decode first start response run)
    {timestamp : Nat} {errnoAgain : Bool} (undisturbed : Undisturbed run (.processReport timestamp errnoAgain))
    (stepped : run.step calls (.processReport timestamp errnoAgain) = some next) :
    Proceeds calls.decode first start response next := by
  obtain ⟨memory, report, waiting, reported, -⟩ := processReport_cases stepped
  obtain ⟨reads, -, readable⟩ := reading.reported report reported
  have noFin := undisturbed report reported
  have epollin : report.revents.epollin = true := by
    have arrived := reads.readable
    rwa [noFin, Bool.or_false, ← reads.revents] at arrived
  rw [← reads.revents] at noFin
  obtain ⟨half, resumed⟩ := reading.awaits.resumed epollin noFin timestamp
  rw [step_processReport waiting reported reads.current half resumed] at stepped
  obtain ⟨held, pending, holds⟩ := reading.pending
  rw [Holds, waiting] at holds
  have turning : Turning calls.decode first start response memory { run with reported := none } :=
    ⟨⟨reading.awaits, reading.unfinished, reading.sent, reading.fin, reading.readable⟩, ⟨held, pending, holds⟩, rfl⟩
  exact turning.swapIn succeeds readable stepped

/-- A report that carries the FIN ends the attempt, whatever there is to be read. -/
theorem Reading.disturbed (succeeds : calls.Succeeds) (reading : Reading calls.decode first start response run)
    (disturbed : ¬Undisturbed run event) (stepped : run.step calls event = some next) : next.Ended ∧ next.Failed := by
  cases event with
  | processReport timestamp errnoAgain =>
    obtain ⟨memory, report, waiting, reported, -⟩ := processReport_cases stepped
    have fin : report.events.epollrdhup = true := by
      by_contra noFin
      refine disturbed fun other mem => ?_
      cases reported.symm.trans mem
      exact Bool.not_eq_true _ ▸ noFin
    obtain ⟨reads, -, -⟩ := reading.reported report reported
    rw [← reads.revents] at fin
    obtain ⟨half, after, dispatched, resumed, dying⟩ := reading.awaits.marked fin timestamp
    -- the hook finds the mark before it would look at the socket
    rw [step_processReport waiting reported reads.current dispatched resumed, ResponseRun.swapIn, object,
      if_pos dying] at stepped
    cases stepped
    obtain ⟨ended, finalized, -, -⟩ := leave_spec succeeds _ (tcpReadFailed errnoAgain)
    refine ⟨ended, _, finalized, ?_⟩
    unfold tcpReadFailed
    split <;> decide
  | turn | arrive | fin | epollWait | others => exact absurd trivial disturbed

theorem Reading.registered (reading : Reading decode first start response run) :
    run.registration = some ⟨coEventRead, run.object.connId, run.object.version⟩ :=
  reading.awaits.registered

theorem Reading.arrive (reading : Reading decode first start response run) {count : Nat}
    (stepped : run.step calls (.arrive count) = some next) : Reading decode first start response next := by
  simp only [ResponseRun.step] at stepped
  split at stepped
  · cases stepped
  · rename_i closed
    cases stepped
    -- the socket is registered all the time, so `epoll` takes notice
    have noticed : (run.ready || run.registration.isSome) = true := by
      rw [reading.registered, Option.isSome_some, Bool.or_true]
    refine ⟨⟨reading.awaits, reading.unfinished, ?_, fun fin => ?_, reading.readable⟩,
      reading.pending, fun report mem => ?_,
      fun _ _ => .inl noticed⟩
    · have sent := reading.sent
      simpa using sent
    · have opened : run.socket.fin = true := fin
      simp [opened] at closed
    · obtain ⟨reads, suspended, readable⟩ := reading.reported report mem
      exact ⟨reads, suspended, ThirdSocket.readable_append readable _⟩

theorem Reading.close (reading : Reading decode first start response run)
    (stepped : run.step calls .fin = some next) : Reading decode first start response next := by
  simp only [ResponseRun.step] at stepped
  split at stepped
  · cases stepped
  · rename_i behind
    cases stepped
    have noticed : (run.ready || run.registration.isSome) = true := by
      rw [reading.registered, Option.isSome_some, Bool.or_true]
    refine ⟨⟨reading.awaits, reading.unfinished, reading.sent, fun _ => ?_, reading.readable⟩, reading.pending,
      fun report mem => ?_, fun _ _ => .inl noticed⟩
    · simp only [Bool.or_eq_true, Bool.not_eq_true', not_or, Bool.not_eq_false, List.isEmpty_iff] at behind
      exact behind.2
    · obtain ⟨reads, suspended, -⟩ := reading.reported report mem
      exact ⟨reads, suspended, Bool.or_true _⟩

theorem Reading.epollWait (reading : Reading decode first start response run)
    (stepped : run.step calls .epollWait = some next) : Reading decode first start response next := by
  simp only [ResponseRun.step] at stepped
  split at stepped
  · rename_i memory registration waiting registered unreported
    cases registered.symm.trans reading.registered
    split at stepped
    · rename_i met
      cases stepped
      have meets := (Bool.and_eq_true_iff.1 met).2
      -- so what is reported can be read
      have readable := ThirdSocket.readable_of_meets meets
      refine ⟨⟨reading.awaits, reading.unfinished, reading.sent, reading.fin, reading.readable⟩, reading.pending,
        fun report mem => ?_, fun _ _ => .inr rfl⟩
      cases mem
      rw [ThirdSocket.meets_read] at meets
      exact ⟨⟨rfl, rfl, rfl, meets⟩, by rw [waiting]; rfl, readable⟩
    · cases stepped
  · cases stepped

theorem Reading.others (reading : Reading decode first start response run) (cycle : CoCycle) :
    Reading decode first start response (run.replaceOthers cycle) := by
  have object : (run.replaceOthers cycle).cycle.objects run.connection = run.cycle.objects run.connection :=
    Function.update_self _ _ _
  have request : (run.replaceOthers cycle).cycle.requests run.request = run.cycle.requests run.request :=
    Function.update_self _ _ _
  have interest : (run.replaceOthers cycle).cycle.kernel.interest (run.cycle.objects run.connection).coTcp.socketfd =
      run.registration := Function.update_self _ _ _
  have awaits : (run.replaceOthers cycle).cycle.AwaitsResponse run.connection run.request := by
    constructor
    · rw [object]
      exact reading.awaits.serving
    · rw [request]
      exact reading.awaits.noUpstreams
    · rw [object]
      exact reading.awaits.active
    · rw [object]
      exact interest.trans reading.awaits.registered
  obtain ⟨held, pending, holds⟩ := reading.pending
  have same : (run.replaceOthers cycle).object = run.object := object
  refine ⟨⟨awaits, reading.unfinished, reading.sent, reading.fin, reading.readable⟩,
    ⟨held, pending, ?_⟩, ?_, reading.noticed⟩
  · rw [Holds, same]
    exact holds
  · rw [same]
    exact reading.reported

/-- Undisturbed, an attempt goes on or comes to its end by what it has read. -/
theorem Reading.step (succeeds : calls.Succeeds) (reading : Reading calls.decode first start response run)
    (undisturbed : Undisturbed run event) (stepped : run.step calls event = some next) :
    Proceeds calls.decode first start response next := by
  cases event with
  | turn memory errnoAgain => exact reading.turn succeeds stepped
  | arrive count => exact .inl (reading.arrive stepped)
  | fin => exact .inl (reading.close stepped)
  | epollWait => exact .inl (reading.epollWait stepped)
  | processReport timestamp errnoAgain => exact reading.processReport succeeds undisturbed stepped
  | others cycle =>
    cases stepped
    exact .inl (reading.others cycle)

end

end ResponseRun

end CoServer
