import CoServer.Base.Buffer
import CoServer.Base.Socket

/-! # `CoConnection`

One entry of the connection pool.  Pointers are addresses: natural numbers that
name an object for as long as the process runs, since no connection is deleted
before the pool itself. -/

namespace CoServer

/-- Arithmetic of `uint32_t`. -/
def uint32 (n : Nat) : Nat := n % 2 ^ 32

theorem uint32_of_lt {n : Nat} (h : n < 2 ^ 32) : uint32 n = n := Nat.mod_eq_of_lt h

structure CoEvent where
  flagActive : Bool := false
  flagTimerSet : Bool := false
deriving DecidableEq

def CoEvent.reset (_ : CoEvent) : CoEvent := {}

/-- `COROUTINE_RUNNING` and `COROUTINE_DOWN` are never assigned. -/
inductive CoroutineStatus where
  | ready
  | suspend
deriving DecidableEq

/-- The functions a connection's `m_handler` is set to. -/
inductive Handler where
  | listen
  | resumeRead
  | requestInit
  | upstreamInit
deriving DecidableEq

/-- The functions a connection's `m_handlerException` is set to. -/
inductive HandlerException where
  | eventException
  | listen
  | resumeRead
deriving DecidableEq

/-- The functions pushed to `m_handlerCleanups`. -/
inductive Cleanup where
  | funcCleanup
deriving DecidableEq

structure CoConnection where
  connId : Nat := 0
  version : Nat := 0
  epollCurEvents : EpollEvents := {}
  epollCurVersion : Nat := 0
  readEvent : CoEvent := {}
  writeEvent : CoEvent := {}
  sleepEvent : CoEvent := {}
  coBuffer : CoBuffer := {}
  coTcp : CoTCP := {}
  serverControl : Option Nat := none
  request : Option Nat := none
  requestCount : Nat := 0
  upstream : Option Nat := none
  backend : Option Nat := none
  startTimestamp : Nat := 0
  coroutineStatus : CoroutineStatus := .ready
  handler : Option Handler := none
  handlerException : HandlerException := .eventException
  handlerCleanups : List Cleanup := []
  blockConn : Option Nat := none
  blockOriginConn : Option Nat := none
  flagBlockConn : Bool := false
  flagUseBlockConn : Bool := false
  flagPendingEof : Bool := false
  flagTimedOut : Bool := false
  flagDying : Bool := false
  flagParentDying : Bool := false
  flagThirdFuncBlocking : Bool := false

namespace CoConnection

/-- The part of `reset` that a kept alive connection sees too. -/
def resetRequest (self : CoConnection) : CoConnection :=
  { self with
    version := uint32 (self.version + 1)
    handler := none
    request := none
    flagUseBlockConn := false
    flagPendingEof := false
    flagTimedOut := false
    flagDying := false
    flagParentDying := false
    flagThirdFuncBlocking := false
    readEvent := self.readEvent.reset
    writeEvent := self.writeEvent.reset
    sleepEvent := self.sleepEvent.reset
    coBuffer := self.coBuffer.reset
    coroutineStatus := .ready }

/-- What `reset` also clears when the connection is not kept alive, apart from
    closing its socket. -/
def resetOwner (self : CoConnection) : CoConnection :=
  { self with
    startTimestamp := 0
    serverControl := none
    upstream := none
    backend := none
    requestCount := 0
    handlerCleanups := [] }

/-- What `reset_block` does to the block connection. -/
def resetBlock (self : CoConnection) : CoConnection :=
  { self with
    readEvent := self.readEvent.reset
    writeEvent := self.writeEvent.reset
    coTcp := self.coTcp.reset
    flagPendingEof := false
    flagTimedOut := false
    flagDying := false
    flagParentDying := false
    flagUseBlockConn := false
    flagThirdFuncBlocking := false }

/-! ## Places in the pool

What the pool relies on a connection to keep: its id and the pairing with its
block connection. -/

/-- The two connections are the same entry of the pool. -/
structure SamePlace (a b : CoConnection) : Prop where
  connId : b.connId = a.connId
  blockConn : b.blockConn = a.blockConn
  blockOriginConn : b.blockOriginConn = a.blockOriginConn
  flagBlockConn : b.flagBlockConn = a.flagBlockConn

theorem SamePlace.refl (a : CoConnection) : SamePlace a a := ⟨rfl, rfl, rfl, rfl⟩

theorem SamePlace.trans {a b c : CoConnection} (first : SamePlace a b) (second : SamePlace b c) :
    SamePlace a c :=
  ⟨second.connId.trans first.connId, second.blockConn.trans first.blockConn,
    second.blockOriginConn.trans first.blockOriginConn,
    second.flagBlockConn.trans first.flagBlockConn⟩

theorem samePlace_resetRequest (self : CoConnection) : SamePlace self self.resetRequest :=
  ⟨rfl, rfl, rfl, rfl⟩

theorem samePlace_resetBlock (self : CoConnection) : SamePlace self self.resetBlock :=
  ⟨rfl, rfl, rfl, rfl⟩

end CoConnection

end CoServer
