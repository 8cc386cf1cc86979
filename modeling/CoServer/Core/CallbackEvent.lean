import CoServer.Upstream.Upstream

/-! # `CoCallbackEvent`: what happens to a connection that is in trouble

`event_exception` runs before every dispatch of a connection.  Its answer
decides whether the coroutine is resumed. -/

namespace CoServer

namespace CoCycle

/-- The parent gives up on the sub-request: its connection is marked and dispatched
    soon. -/
def killUpstream (self : CoCycle) (upstreamRequest : Nat) : CoCycle :=
  match (self.requests upstreamRequest).connection with
  | none => self
  | some upstreamConnection =>
    (self.modifyObject upstreamConnection fun object =>
      { object with flagDying := true, flagParentDying := true }).pushDelay upstreamConnection

def killUpstreams (self : CoCycle) (upstreamRequests : List (Nat × Nat)) : CoCycle :=
  upstreamRequests.foldl (fun self entry => self.killUpstream entry.2) self

def markDying (self : CoCycle) (connection : Nat) : CoCycle :=
  self.modifyObject connection fun object => { object with flagDying := true }

/-- The block connection in use is marked too. -/
def markBlockDying (self : CoCycle) (connection : Nat) : CoCycle :=
  match (self.objects connection).flagUseBlockConn, (self.objects connection).blockConn with
  | true, some blockConn => self.markDying blockConn
  | _, _ => self

def eventException (self : CoCycle) (connection : Nat) (timestamp : Nat) : Int × CoCycle :=
  let object := self.objects connection
  if !(object.flagTimedOut || object.flagPendingEof || object.flagDying) then (coOk, self)
  else
    let self := self.markDying connection
    if object.flagThirdFuncBlocking then (coException, self)
    else if object.flagUseBlockConn || object.flagBlockConn then
      (coOk, self.markBlockDying connection)
    else
      match object.request with
      | some request =>
        let upstreamRequests := (self.requests request).upstreamRequests
        -- the last sub-request resumes the parent
        if !upstreamRequests.isEmpty then (coException, self.killUpstreams upstreamRequests)
        else (coOk, self)
      | none =>
        -- mostly a connection that is kept alive
        match object.upstream with
        | none => (coException, self.freeRequestConnection connection coException)
        | some _ => (coException, self.freeUpstreamConnection connection coException timestamp)

end CoCycle

end CoServer
