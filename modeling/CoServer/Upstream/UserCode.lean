import CoServer.Lib.Run
import CoServer.Upstream.Attempt

/-! # The user's functions

`m_userProcess` and `m_userDestroy` run on the coroutine of a connection, and may
suspend it.  The machine goes from one such call to the next: a step is all that
happens to one request between them, with the outcomes of what it calls.  The
steps of the requests of a thread come in any order.

For every connection it is known where it is: in the pool, open for a client
whose request has not come, in the reuse list of an upstream, or assigned to a
request. -/

namespace CoServer

open UpstreamAttempt (upstreamInit)

inductive ConnPlace where
  | pool
  | client
  | reuse
  | held (request : Nat)
deriving DecidableEq

inductive Stage where
  /-- suspended in a call of its own, or not dispatched yet -/
  | waiting
  | userProcess
  /-- `m_userDestroy` is running, and the connection is freed with `retCode` next -/
  | userDestroy (retCode : Int)
  /-- `m_userDestroy` is running, and the connection was given back before -/
  | released
  | ended
deriving DecidableEq

structure UserRequest where
  /-- `CO_REQUEST_UPSTREAM` in `m_requestType` -/
  upstream : Bool := false
  /-- `m_userDestroy` is set: it is for detached requests, not for other sub-requests -/
  userDestroy : Bool := false
  connection : Nat := 0
  retryTimes : Int := 0
  stage : Stage := .ended
  /-- how often `m_userDestroy` was called -/
  destroyCalls : Nat := 0

/-! ## The calls -/

/-- The outcomes of `epoll_ctl` when a connection is freed, and whether the limits of its
    upstream allow it to be kept. -/
structure FreeCalls where
  del : Bool := true
  keepAdd : Bool := true
  keepDel : Bool := true
  keep : Bool := true

structure RequestCalls where
  readAdd : Bool := true
  turns : List ReadTurn := []
  readDel : Bool := true
  writeAdd : Bool := true
  encode : Nat := 0
  tcpWrite : List Int := []
  writeDel : Bool := true
  free : FreeCalls := {}

namespace CoConnection

/-- `del_connection` on the object. -/
def delConnection (self : CoConnection) (accepted : Bool) : CoConnection :=
  if self.epollCurEvents = .zero then self
  else if !accepted then self
  else CoCycle.registered .zero 0 false false self

/-- The loop of `request_read`: how it ends, if its calls return. -/
def readTurns : List ReadTurn → Option Int
  | [] => none
  | turn :: turns =>
    if turn.bufferExpand ≠ coOk then some turn.bufferExpand
    else
      match turn.tcpRead with
      | none => none
      | some ret =>
        if ret < coOk then some ret
        else if turn.bufferSizeExpand ≠ coOk then some turn.bufferSizeExpand
        else if turn.decode = coAgain then readTurns turns
        else some turn.decode

/-- `request_read` with its deferred cleanup. -/
def requestRead (self : CoConnection) (calls : RequestCalls) : Option (Int × CoConnection) :=
  let (added, self) := self.modifyConnection .add coEventRead calls.readAdd
  (if added ≠ coOk then some coError else readTurns calls.turns).map fun ret =>
    (ret, (self.modifyConnection .del coEventIn calls.readDel).2)

/-- The loop of `request_write`: whether all was sent. -/
def sendTurns : List Int → Nat → Option Bool
  | _, 0 => some true
  | [], _ + 1 => none
  | ret :: rets, size + 1 => if ret > 0 then sendTurns rets (size + 1 - ret.toNat) else some false

/-- `request_write` with its deferred cleanup, and the code for `request_finalize`. -/
def requestWrite (self : CoConnection) (calls : RequestCalls) (retCode : Int) :
    Option (Int × CoConnection) :=
  let (added, self) := self.modifyConnection .add coEventOut calls.writeAdd
  (if added ≠ coOk then some coError
    else (sendTurns calls.tcpWrite calls.encode).map fun sent => if sent then retCode else coError).map
    fun ret => (ret, (self.modifyConnection .del coEventOut calls.writeDel).2)

/-- A connection that goes back to the pool. -/
def close (self : CoConnection) (calls : FreeCalls) : CoConnection × ConnPlace :=
  ((self.delConnection calls.del).resetRequest.resetOwner, .pool)

/-- `free_request_connection` -/
def freeRequest (self : CoConnection) (calls : FreeCalls) (retCode : Int) : CoConnection × ConnPlace :=
  if retCode ≠ coOk then self.close calls
  else
    let self := (self.resetRequest.modifyConnection .add coEventIn calls.keepAdd).2
    let self := (self.modifyConnection .del coEventOut calls.keepDel).2
    ({ self with handler := some .requestInit }, .client)

/-- `CoUpstream::free_connection` -/
def freeUpstream (self : CoConnection) (calls : FreeCalls) (retCode : Int) : CoConnection × ConnPlace :=
  if retCode ≠ coOk ∨ calls.keep = false then self.close calls
  else ((self.resetRequest.modifyConnection .del (coEventIn.union coEventOut) calls.keepDel).2, .reuse)

end CoConnection

/-- The code an attempt that has ended was finalized with.  After a second `upstream_finalize`
    nothing is defined, since the first has destroyed the request or given it another connection. -/
def UpstreamAttempt.finalizedWith (self : UpstreamAttempt) : Option Int :=
  if self.suspended then none
  else
    match self.trace.filterMap fun
      | .finalize retCode _ => some retCode
      | _ => none with
    | [retCode] => some retCode
    | _ => none

/-! ## The machine -/

structure UserRun where
  objects : Nat → CoConnection := fun _ => {}
  place : Nat → ConnPlace := fun _ => .pool
  requests : Nat → UserRequest := fun _ => {}
  allocated : Nat := 0

inductive UserEvent where
  /-- a client is accepted -/
  | accept (connection : Nat)
  /-- `request_init` and `request_read`, and `request_write` if that fails; without a protocol
      the request has no connection, and nothing is defined -/
  | clientRequest (connection : Nat) (userDestroy : Bool) (calls : RequestCalls)
  | processReturns (request : Nat) (retCode : Int) (calls : RequestCalls)
  | destroyReturns (request : Nat) (calls : FreeCalls)
  /-- `add_upstream` or `add_upstream_detach` with the connection it got -/
  | addUpstream (connection : Nat) (userDestroy : Bool)
  /-- an attempt comes to its end; `retried` is the connection that a retry gets, if it gets one -/
  | attempt (request : Nat) (calls : AttemptCalls) (parentDying : Bool) (retryMaxnum : Int)
      (retried : Option Nat) (free : FreeCalls)
  /-- a connection without a request is closed -/
  | idleClosed (connection : Nat) (calls : FreeCalls)

namespace UserRun

/-- One request and one connection change. -/
def change (self : UserRun) (request connection : Nat) (record : UserRequest) (object : CoConnection)
    (place : ConnPlace) : UserRun :=
  { self with
    requests := Function.update self.requests request record
    objects := Function.update self.objects connection object
    place := Function.update self.place connection place }

/-- A connection changes that has no request. -/
def changeIdle (self : UserRun) (connection : Nat) (object : CoConnection) (place : ConnPlace) : UserRun :=
  { self with
    objects := Function.update self.objects connection object
    place := Function.update self.place connection place }

/-- The request is deleted and its connection freed. -/
def freeConnection (self : UserRun) (request : Nat) (record : UserRequest) (object : CoConnection)
    (retCode : Int) (calls : FreeCalls) : UserRun :=
  let (object, place) := if record.upstream then object.freeUpstream calls retCode
    else object.freeRequest calls retCode
  self.change request record.connection { record with stage := .ended } object place

/-- `request_finalize`, and `upstream_finalize` without a retry. -/
def finalize (self : UserRun) (request : Nat) (record : UserRequest) (object : CoConnection)
    (retCode : Int) (calls : FreeCalls) : UserRun :=
  if record.userDestroy then
    self.change request record.connection
      { record with stage := .userDestroy retCode, destroyCalls := record.destroyCalls + 1 } object
      (.held request)
  else self.freeConnection request record object retCode calls

/-- `request_write` to its end. -/
def write (self : UserRun) (request : Nat) (record : UserRequest) (object : CoConnection)
    (retCode : Int) (calls : RequestCalls) : Option UserRun :=
  (object.requestWrite calls retCode).map fun (ret, object) =>
    self.finalize request record object ret calls.free

/-- `needRetry` -/
def needRetry (record : UserRequest) (retCode : Int) (parentDying : Bool) (retryMaxnum : Int) : Bool :=
  !parentDying && retCode != coOk && decide (retryMaxnum > record.retryTimes)

/-- `upstream_finalize` with a retry: the connection is freed, and the request gets another one
    or ends. -/
def retry (self : UserRun) (request : Nat) (record : UserRequest) (object : CoConnection) (retCode : Int)
    (retried : Option Nat) (calls : FreeCalls) : Option UserRun :=
  let record := { record with retryTimes := record.retryTimes + 1 }
  let (freed, place) := object.freeUpstream calls retCode
  match retried with
  | none =>
    some (self.change request record.connection
      (if record.userDestroy then { record with stage := .released, destroyCalls := record.destroyCalls + 1 }
        else { record with stage := .ended }) freed place)
  | some connection =>
    let self := self.change request record.connection { record with stage := .ended } freed place
    if self.place connection = .pool ∨ self.place connection = .reuse then
      some (self.change request connection { record with connection, stage := .waiting }
        (self.objects connection) (.held request))
    else none

def step (self : UserRun) : UserEvent → Option UserRun
  | .accept connection =>
    if self.place connection = .pool then
      some (self.changeIdle connection (self.objects connection) .client)
    else none
  | .clientRequest connection userDestroy calls =>
    if self.place connection = .client then
      let request := self.allocated
      let record := { userDestroy, connection, stage := .userProcess }
      let self := { self with allocated := self.allocated + 1 }
      match (self.objects connection).requestRead calls with
      | none => none
      | some (ret, object) =>
        if ret = coOk then some (self.change request connection record object (.held request))
        else self.write request record object coError calls
    else none
  | .processReturns request retCode calls =>
    let record := self.requests request
    if record.stage = .userProcess then
      self.write request record (self.objects record.connection) retCode calls
    else none
  | .destroyReturns request calls =>
    let record := self.requests request
    match record.stage with
    | .userDestroy retCode =>
      some (self.freeConnection request record (self.objects record.connection) retCode calls)
    | .released =>
      some { self with requests := Function.update self.requests request { record with stage := .ended } }
    | .waiting | .userProcess | .ended => none
  | .addUpstream connection userDestroy =>
    if self.place connection = .pool ∨ self.place connection = .reuse then
      let request := self.allocated
      some ({ self with allocated := self.allocated + 1 }.change request connection
        { upstream := true, userDestroy, connection, stage := .waiting } (self.objects connection)
        (.held request))
    else none
  | .attempt request calls parentDying retryMaxnum retried free =>
    let record := self.requests request
    -- `m_userProcess` is set for the requests of clients only
    if record.stage = .waiting ∧ calls.userProcess = none then
      let attempt := upstreamInit calls { connection := self.objects record.connection }
      attempt.finalizedWith.bind fun retCode =>
        if needRetry record retCode parentDying retryMaxnum then
          self.retry request record attempt.connection retCode retried free
        else some (self.finalize request record attempt.connection retCode free)
    else none
  | .idleClosed connection calls =>
    if self.place connection = .client ∨ self.place connection = .reuse then
      let (object, place) := (self.objects connection).close calls
      some (self.changeIdle connection object place)
    else none

end UserRun

end CoServer
