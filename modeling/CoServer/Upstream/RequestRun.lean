import CoServer.Core.ThirdSocket
import CoServer.Upstream.Frames

/-! # One request, its handler and its sub-requests

The handler of a request runs until it is suspended; meanwhile the thread goes
on with its queues, its timers and the other connections, among them those of
the sub-requests the handler added. -/

namespace CoServer

/-- Where a coroutine of a request is suspended. -/
inductive Wait where
  | runUpstreams
  /-- `CoDispatcher::yield` that the handler calls itself -/
  | yielded
  | sleep
  | mutex
  | thirdSocket
  | writing
deriving DecidableEq

inductive Place where
  | handler
  | responding
  | suspended (wait : Wait)
  | finalized
deriving DecidableEq

/-- Who dispatched the connection of a suspended coroutine. -/
inductive Waker where
  | delayQueue
  | resumeQueue
  | singleQueue
  | report
  | timer (kind : TimerKind)
  | blockConnection
deriving DecidableEq

/-- The end of one attempt of a sub-request: whether its connection had been marked by
    the parent, whether the sub-request was removed from the parent, how many were left
    then, and whether the parent was queued. -/
structure AttemptEnd where
  request : Nat
  marked : Bool
  removed : Bool
  left : Nat
  woken : Bool
deriving DecidableEq

namespace CoCycle

/-- What the functions that suspend the coroutine do before it is swapped out. -/
def enterWait (self : CoCycle) (connection : Nat) : Wait → CoCycle
  | .sleep | .mutex => self.modifyObject connection fun object =>
      { object.setTimer .sleep true with flagThirdFuncBlocking := true }
  | .thirdSocket => self.modifyObject connection fun object => object.useBlock true
  | .runUpstreams | .yielded | .writing => self

/-- What they do after it is swapped in. -/
def leaveWait (self : CoCycle) (connection : Nat) : Wait → CoCycle
  | .sleep | .mutex => self.modifyObject connection fun object =>
      { object.setTimer .sleep false with flagThirdFuncBlocking := false }
  | .thirdSocket => (self.modifyObject connection fun object => object.useBlock false).resetBlock
      connection
  | .runUpstreams | .yielded | .writing => self

/-- `request_finalize` -/
def requestFinalize (self : CoCycle) (request connection : Nat) (retCode : Int) : CoCycle :=
  (self.destroyRequest request).freeRequestConnection connection retCode

end CoCycle

open CoCycle (UpstreamRun UpstreamEvent GetCalls)

/-- The thread, and the request on its connection.  The rest is what was seen so far:
    the sub-requests that were added and those not finished, the upstream of each, those
    marked by their parent, the attempts that ended, and who woke the coroutine from what. -/
structure RequestRun where
  thread : UpstreamRun
  connection : Nat
  request : Nat
  place : Place := .handler
  /-- `m_waitResumes` -/
  waitResumes : List (Nat × Nat) := []
  added : List Nat := []
  unfinished : List Nat := []
  upstreamOf : Nat → Nat := fun _ => 0
  marked : List Nat := []
  ended : List AttemptEnd := []
  wakes : List (Wait × Waker) := []

inductive RequestEvent where
  /-- the handler calls `add_upstream` -/
  | addUpstream (upstream : Option Nat) (get : GetCalls) (protocol : Bool) (timestamp : Nat)
  | runUpstreams
  /-- the handler is suspended in another call -/
  | wait (wait : Wait)
  /-- the handler returns -/
  | respond
  /-- the response cannot be written yet -/
  | writeBlocked
  | finalize (retCode : Int)
  | popDelay (timestamp : Nat)
  | popResume (timestamp : Nat)
  /-- an entry of `m_waitSingles` for the mutex the coroutine waits for -/
  | popSingle (timestamp : Nat)
  | resumeAsync (connection version : Nat)
  /-- the peer closed, or the connection broke -/
  | peerClosed (timestamp : Nat)
  | writable (timestamp : Nat)
  | timer (kind : TimerKind) (timestamp : Nat)
  /-- the block connection is dispatched -/
  | blockConnection
  | endAttempt (request : Nat) (retCode : Int) (timestamp : Nat) (get : GetCalls)
  /-- the other connections of the thread -/
  | others (event : UpstreamEvent)
  | otherRequests (requests : Nat)
  | otherPush (connection : Nat)

namespace RequestRun

def cycle (self : RequestRun) : CoCycle := self.thread.cycle

def withCycle (self : RequestRun) (cycle : CoCycle) : RequestRun :=
  { self with thread := { self.thread with cycle } }

/-- The connection of a sub-request was marked by its parent. -/
def parentDying (self : RequestRun) (upstreamRequest : Nat) : Bool :=
  match (self.cycle.requests upstreamRequest).connection with
  | none => false
  | some connection => (self.cycle.objects connection).flagParentDying

/-- Takes note of the sub-requests that are marked by now. -/
def mark (self : RequestRun) : RequestRun :=
  { self with marked := self.marked ++ self.unfinished.filter self.parentDying }

/-- `m_version` of the connection. -/
def version (self : RequestRun) : Nat := (self.cycle.objects self.connection).version

/-! ## The handler -/

def suspend (self : RequestRun) (wait : Wait) : RequestRun :=
  { self.withCycle (self.cycle.enterWait self.connection wait) with place := .suspended wait }

def swapIn (self : RequestRun) (wait : Wait) (waker : Waker) : RequestRun :=
  { self.withCycle (self.cycle.leaveWait self.connection wait) with
    place := if wait = .writing then .responding else .handler
    wakes := self.wakes ++ [(wait, waker)] }

def addUpstream (self : RequestRun) (upstream : Option Nat) (get : GetCalls) (protocol : Bool)
    (timestamp : Nat) : RequestRun :=
  let cycle := (self.cycle.addUpstream self.request upstream get protocol timestamp).2
  match upstream, self.cycle.getUpstreamConnection upstream get with
  | some upstream, (got, some connection) =>
    if protocol then
      { self with
        thread := self.thread.hand cycle connection
        added := self.added ++ [self.cycle.allocatedRequests]
        unfinished := self.unfinished ++ [self.cycle.allocatedRequests]
        upstreamOf := Function.update self.upstreamOf self.cycle.allocatedRequests upstream }
    else
      { self with
        thread := ({ self.thread with cycle := got }.take connection).gaveBack cycle connection }
  | _, _ => self.withCycle cycle

/-! ## Sub-requests -/

/-- The end of an attempt on the connection `connection` of `upstream`. -/
def endAttempt (self : RequestRun) (upstreamRequest connection upstream : Nat) (retCode : Int)
    (timestamp : Nat) (get : GetCalls) : RequestRun :=
  let cycle := self.cycle.upstreamFinalize upstreamRequest connection upstream retCode timestamp get
  let removed := (cycle.requests upstreamRequest).destroyed
  let unfinished := if removed then self.unfinished.erase upstreamRequest else self.unfinished
  let pushed := cycle.delayConnections.drop self.cycle.delayConnections.length
  { self with
    thread :=
      if self.cycle.needRetry upstreamRequest connection upstream retCode then
        let freed := self.thread.gaveBack
          (self.cycle.freeUpstreamConnection connection retCode timestamp) connection
        match (cycle.requests upstreamRequest).connection with
        | none => { freed with cycle }
        | some retried => freed.hand cycle retried
      else self.thread.gaveBack cycle connection
    unfinished
    ended := self.ended ++ [⟨upstreamRequest, decide (upstreamRequest ∈ self.marked), removed,
      unfinished.length, decide ((self.connection, self.version) ∈ pushed)⟩] }

/-! ## Steps -/

/-- `func_dispatcher` on the connection of the request. -/
def dispatch (self : RequestRun) (timestamp : Nat) (waker : Waker) : Option RequestRun :=
  match self.place with
  | .suspended wait =>
    let (resumed, cycle) := self.cycle.funcDispatcher self.connection timestamp
    let self := (self.withCycle cycle).mark
    some (if resumed then self.swapIn wait waker else self)
  | .handler | .responding | .finalized => none

/-- A turn of the loops over the queues: the entry is dispatched if it is for the life
    the connection has now. -/
def popped (self : RequestRun) (entry : Nat × Nat) (timestamp : Nat) (waker : Waker) :
    Option RequestRun :=
  if entry = (self.connection, self.version) then self.dispatch timestamp waker else some self

/-- The thread goes on only while the coroutine is suspended. -/
def Suspended (self : RequestRun) : Prop :=
  match self.place with
  | .suspended _ => True
  | .handler | .responding | .finalized => False

instance (self : RequestRun) : Decidable self.Suspended := by
  unfold Suspended
  split <;> infer_instance

def step (self : RequestRun) : RequestEvent → Option RequestRun
  | .addUpstream upstream get protocol timestamp =>
    if self.place = .handler ∧ ∀ found ∈ upstream, get.Allowed self.cycle found then
      some (self.addUpstream upstream get protocol timestamp)
    else none
  | .runUpstreams =>
    if self.place = .handler then
      -- without sub-requests in the user's list it fails at once
      some (if (self.cycle.requests self.request).upstreamInfos = 0 then self
        else self.suspend .runUpstreams)
    else none
  | .wait wait =>
    if self.place = .handler ∧ wait ≠ .runUpstreams ∧ wait ≠ .writing ∧
        (wait = .thirdSocket → (self.cycle.objects self.connection).flagDying = false) then
      some (self.suspend wait)
    else none
  | .respond =>
    if self.place = .handler then
      let cycle := self.cycle.modifyObject self.connection fun object =>
        (object.setTimer .read false).setTimer .write true
      some { self.withCycle cycle with place := .responding }
    else none
  | .writeBlocked =>
    if self.place = .responding ∧ (self.cycle.objects self.connection).flagDying = false then
      some (self.suspend .writing)
    else none
  | .finalize retCode =>
    if self.place = .responding then
      let cycle := self.cycle.requestFinalize self.request self.connection retCode
      some { self.withCycle cycle with place := .finalized }
    else none
  | .popDelay timestamp =>
    match self.cycle.delayConnections with
    | [] => none
    | entry :: rest =>
      if self.Suspended then
        (self.withCycle { self.cycle with delayConnections := rest }).popped entry timestamp
          .delayQueue
      else none
  | .popResume timestamp =>
    match self.waitResumes with
    | [] => none
    | entry :: rest =>
      if self.Suspended then
        { self with waitResumes := rest }.popped entry timestamp .resumeQueue
      else none
  | .popSingle timestamp =>
    if self.place = .suspended .mutex then self.dispatch timestamp .singleQueue else none
  | .resumeAsync connection version =>
    some { self with waitResumes := self.waitResumes ++ [(connection, version)] }
  | .peerClosed timestamp =>
    let cycle := self.cycle.modifyObject self.connection fun object =>
      { object with flagPendingEof := true }
    (self.withCycle cycle).dispatch timestamp .report
  | .writable timestamp =>
    if self.place = .suspended .writing then self.dispatch timestamp .report else none
  | .timer kind timestamp =>
    if ((self.cycle.objects self.connection).timerEvent kind).flagTimerSet then
      let cycle := self.cycle.modifyObject self.connection fun object => object.timerExpired kind
      (self.withCycle cycle).dispatch timestamp (.timer kind)
    else none
  | .blockConnection =>
    if self.place = .suspended .thirdSocket then some (self.swapIn .thirdSocket .blockConnection)
    else none
  | .endAttempt upstreamRequest retCode timestamp get =>
    if self.Suspended ∧ upstreamRequest ∈ self.unfinished then
      match (self.cycle.requests upstreamRequest).connection with
      | none => none
      | some connection =>
        match (self.cycle.objects connection).upstream with
        | none => none
        | some upstream =>
          if get.Allowed (self.cycle.freeUpstreamConnection connection retCode timestamp) upstream then
            some (self.endAttempt upstreamRequest connection upstream retCode timestamp get)
          else none
    else none
  | .others event =>
    if self.Suspended ∧ event.freed ≠ some self.connection ∧
        ∀ upstreamRequest ∈ self.unfinished,
          event.freed = none ∨ event.freed ≠ (self.cycle.requests upstreamRequest).connection then
      (self.thread.step event).map fun thread => { self with thread }
    else none
  | .otherRequests requests =>
    if self.Suspended then
      some (self.withCycle { self.cycle with
        allocatedRequests := self.cycle.allocatedRequests + requests
        requestId := sizeT (self.cycle.requestId + requests) })
    else none
  | .otherPush connection =>
    if self.Suspended ∧ connection ≠ self.connection then
      some (self.withCycle (self.cycle.pushDelay connection))
    else none

end RequestRun

end CoServer
