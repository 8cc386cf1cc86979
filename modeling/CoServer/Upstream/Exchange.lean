import CoServer.Core.KeptRequests
import CoServer.Lib.RemoteCall
import CoServer.Upstream.Responses

/-! # Both ends of a connection

A connection that an upstream of one process has to a server of another: the
coroutine of the one is in `upstream_write` and `upstream_read` while that of the
other is in `request_read` and `request_write`, and two streams of bytes are
between them.  A step is one turn of a loop, so the ends interleave between any two
calls of `send` and `recv`.  Either end can fail or close at any time. -/

namespace CoServer

/-- A turn of the loops of `request_write` and `upstream_write`: what `tcp_write`
    returned, the bytes it sent, and the buffer behind them. -/
def CoBuffer.writeTurn (self : CoBuffer) (accepts : Nat) : Int × Bytes × CoBuffer :=
  let ret := self.tcpWrite accepts
  if ret > 0 then (ret, self.region.take ret.toNat, (self.bufferErase ret.toNat).2) else (ret, [], self)

/-- `request_write` and `upstream_write` empty the buffer that they encode into. -/
def CoBuffer.cleared (self : CoBuffer) : CoBuffer := if self.bufferSize > 0 then self.reset else self

/-! ## The end of the server -/

inductive RequestTurn (Protocol : Type) where
  /-- there is no request; the next report calls `request_init` -/
  | init
  | read (protocol : Protocol)
  /-- in the loop of `request_write`, with the code for `request_finalize` -/
  | write (retCode : Int)
  | closed

/-- `processed` records what the user's function was given and what it made of it. -/
structure RequestEnd (Protocol : Type) where
  coBuffer : CoBuffer := {}
  turn : RequestTurn Protocol := .init
  processed : List (Protocol × Protocol) := []

namespace RequestEnd

section
variable {Protocol : Type}

def requestFinalize (self : RequestEnd Protocol) (retCode : Int) : RequestEnd Protocol :=
  if retCode ≠ coOk then { self with turn := .closed }
  else { self with coBuffer := self.coBuffer.reset, turn := .init }

/-- A turn of the loop of `request_write`. -/
def writeTurn (self : RequestEnd Protocol) (retCode : Int) (accepts : Nat) : Bytes × RequestEnd Protocol :=
  if self.coBuffer.bufferSize > 0 then
    let (ret, sent, coBuffer) := self.coBuffer.writeTurn accepts
    if ret > 0 then (sent, { self with coBuffer }) else ([], self.requestFinalize coError)
  else ([], self.requestFinalize retCode)

variable (side : ServerProtocol Protocol) (userProcess : Nat → Protocol → Int × Protocol)

/-- `request_write` up to its loop. -/
def requestWrite (self : RequestEnd Protocol) (protocol : Protocol) (retCode : Int) (memory : Nat → Block) :
    Option (RequestEnd Protocol) :=
  (side.encode protocol self.coBuffer.cleared memory).map fun (_, coBuffer) =>
    { self with coBuffer, turn := .write retCode }

def requestProcess (self : RequestEnd Protocol) (protocol : Protocol) (memory : Nat → Block) :
    Option (RequestEnd Protocol) :=
  let (ret, processed) := userProcess self.processed.length protocol
  { self with processed := self.processed ++ [(protocol, processed)] }.requestWrite side processed ret memory

/-- A turn of the loop of `request_read`; `recv` returns nothing where it fails. -/
def readTurn (self : RequestEnd Protocol) (protocol : Protocol) (arrival : Bytes × Block) (memory : Nat → Block) :
    Option (RequestEnd Protocol) :=
  match self.coBuffer.receive arrival with
  | none => none
  | some (ret, coBuffer) =>
    if ret ≠ coOk then { self with coBuffer }.requestWrite side protocol coError memory
    else
      match side.decode protocol coBuffer with
      | none => none
      | some (ret, protocol, coBuffer) =>
        if ret = coAgain then some { self with coBuffer, turn := .read protocol }
        else if ret = coOk then { self with coBuffer }.requestProcess side userProcess protocol memory
        else { self with coBuffer }.requestWrite side protocol coError memory

end

end RequestEnd

/-! ## The end of the upstream -/

inductive UpstreamTurn (Protocol : Type) where
  /-- in the list of the connections that can be used again, or just connected -/
  | idle
  | write (protocol : Protocol)
  | read (protocol : Protocol)
  | closed

/-- `answered` records the requests that `upstream_process` was called for. -/
structure UpstreamEnd (Protocol : Type) where
  coBuffer : CoBuffer := {}
  turn : UpstreamTurn Protocol := .idle
  answered : List Protocol := []

namespace UpstreamEnd

section
variable {Protocol : Type}

def close (self : UpstreamEnd Protocol) : UpstreamEnd Protocol := { self with turn := .closed }

/-- A turn of the loop of `upstream_write`; behind it `upstream_read` begins. -/
def writeTurn (self : UpstreamEnd Protocol) (protocol : Protocol) (accepts : Nat) : Bytes × UpstreamEnd Protocol :=
  if self.coBuffer.bufferSize > 0 then
    let (ret, sent, coBuffer) := self.coBuffer.writeTurn accepts
    if ret > 0 then (sent, { self with coBuffer }) else ([], self.close)
  else ([], { self with turn := .read protocol })

variable (side : ServerProtocol Protocol)

/-- `upstream_write` up to its loop. -/
def upstreamWrite (self : UpstreamEnd Protocol) (protocol : Protocol) (memory : Nat → Block) :
    Option (UpstreamEnd Protocol) :=
  (side.encode protocol self.coBuffer.cleared memory).map fun (_, coBuffer) =>
    { self with coBuffer, turn := .write protocol }

/-- A connection whose request was answered is kept; what closes it later is a step of
    its own. -/
def upstreamProcess (self : UpstreamEnd Protocol) (protocol : Protocol) : UpstreamEnd Protocol :=
  { coBuffer := self.coBuffer.reset, turn := .idle, answered := self.answered ++ [protocol] }

/-- A turn of the loop of `upstream_read`. -/
def readTurn (self : UpstreamEnd Protocol) (protocol : Protocol) (arrival : Bytes × Block) :
    Option (UpstreamEnd Protocol) :=
  match self.coBuffer.receive arrival with
  | none => none
  | some (ret, coBuffer) =>
    if ret ≠ coOk then some { self with coBuffer }.close
    else
      match side.decode protocol coBuffer with
      | none => none
      | some (ret, protocol, coBuffer) =>
        if ret = coAgain then some { self with coBuffer, turn := .read protocol }
        else if ret = coOk then some ({ self with coBuffer }.upstreamProcess protocol)
        else some { self with coBuffer }.close

end

end UpstreamEnd

/-! ## The two of them -/

/-- The bytes on the way are in the socket buffers of both hosts and between them. -/
structure Exchange (Client Server : Type) where
  client : UpstreamEnd Client := {}
  server : RequestEnd Server := {}
  toServer : Bytes := []
  toClient : Bytes := []

/-- What the kernel does is up to the events: how many bytes a call of `send` takes, none
    if it fails; how many a call of `recv` returns, none if it fails or the peer has
    closed; what lies in the memory that `realloc` returns. -/
inductive ExchangeEvent (Client : Type) where
  /-- the connection is taken for a request -/
  | upstreamWrite (protocol : Client) (memory : Nat → Block)
  | upstreamSend (accepts : Nat)
  | upstreamRecv (count : Nat) (memory : Block)
  /-- a timer, a disconnection, or one of the limits of a connection that is kept -/
  | upstreamClose
  | requestRecv (count : Nat) (memory : Block) (response : Nat → Block)
  | requestSend (accepts : Nat)
  /-- a timer or a disconnection between two requests -/
  | requestClose

namespace Exchange

section
variable {Client Server : Type} (clientSide : ServerProtocol Client) (serverSide : ServerProtocol Server)
  (userProcess : Nat → Server → Int × Server)

def step (self : Exchange Client Server) : ExchangeEvent Client → Option (Exchange Client Server)
  | .upstreamWrite protocol memory =>
    match self.client.turn with
    | .idle => (self.client.upstreamWrite clientSide protocol memory).map fun client => { self with client }
    | _ => none
  | .upstreamSend accepts =>
    match self.client.turn with
    | .write protocol =>
      let (sent, client) := self.client.writeTurn protocol accepts
      some { self with client, toServer := self.toServer ++ sent }
    | _ => none
  | .upstreamRecv count memory =>
    if self.toClient.length < count ∨ bufferSize4096 < count then none
    else
      match self.client.turn with
      | .read protocol =>
        (self.client.readTurn clientSide protocol (self.toClient.take count, memory)).map fun client =>
          { self with client, toClient := self.toClient.drop count }
      | _ => none
  | .upstreamClose => some { self with client := self.client.close }
  | .requestRecv count memory response =>
    if self.toServer.length < count ∨ bufferSize4096 < count then none
    else
      match self.server.turn with
      | .init =>
        (self.server.readTurn serverSide userProcess serverSide.createProtocol (self.toServer.take count, memory)
          response).map fun server => { self with server, toServer := self.toServer.drop count }
      | .read protocol =>
        (self.server.readTurn serverSide userProcess protocol (self.toServer.take count, memory)
          response).map fun server => { self with server, toServer := self.toServer.drop count }
      | _ => none
  | .requestSend accepts =>
    match self.server.turn with
    | .write retCode =>
      let (sent, server) := self.server.writeTurn retCode accepts
      some { self with server, toClient := self.toClient ++ sent }
    | _ => none
  | .requestClose =>
    match self.server.turn with
    | .init => some { self with server := self.server.requestFinalize coError }
    | _ => none

end

end Exchange

end CoServer
