import CoServer.Core.AcceptLimit
import CoServer.Upstream.Accounting

/-! # The connections of a worker thread

`run_server_thread` sizes the pool by the configuration: as many connections as the
servers and the upstreams may have, and four more, to which the pool adds three.  The
two sockets that wake the thread and the listening sockets are taken from them too. -/

namespace CoServer

namespace CoCycle

/-- `maxConnectionSize` of `run_server_thread`. -/
def threadConnections (confServers : List CoConfServer) (confUpstreams : List CoConfUpstreamLimits) : Int :=
  let maxConnectionSize := confServers.foldl (fun size conf => size + conf.maxConnections) 4
  confUpstreams.foldl (fun size conf => size + conf.maxConnections) maxConnectionSize

/-- The configuration of the first servers and upstreams. -/
def configuredConnections (serverControls : Nat → CoServerControl) (upstreams : Nat → CoUpstream)
    (serverCount upstreamCount : Nat) : Int :=
  threadConnections ((List.range serverCount).map fun server => (serverControls server).confServer)
    ((List.range upstreamCount).map fun upstream => (upstreams upstream).confUpstream)

/-- `run_server_thread` to the call of `init` of the pool. -/
def runServerThread (kernel : Kernel) (serverControls : Nat → CoServerControl) (upstreams : Nat → CoUpstream)
    (serverCount upstreamCount : Nat) : Int × CoCycle :=
  let maxConnectionSize := configuredConnections serverControls upstreams serverCount upstreamCount
  (fresh kernel serverControls upstreams).initPool (maxConnectionSize.tdiv 4) maxConnectionSize

/-- `init_yieldresume_comm` behind its second `get_connection`. -/
def listenResume (self : CoCycle) (resumeRead : Nat) : CoCycle :=
  let self := self.modifyObject resumeRead fun object => { object with
    handler := some .resumeRead, handlerException := .resumeRead }
  (self.modifyConnection resumeRead .add coEventRead).2

/-- The connections are not enough, also after the pool has tried to make more. -/
def exhausted (self : CoCycle) : Bool := self.refill.connectionPool.freeConnections.isEmpty

/-- The connections of a thread in use: its own, and those of its servers and upstreams. -/
structure WorkerRun where
  cycle : CoCycle
  inUse : List Nat := []
  /-- of the pair of sockets, which `init_yieldresume_comm` takes first -/
  comm : List Nat := []
  listens : List Nat := []
  coroutine : Nat → ListenState := fun _ => .created
  clients : Nat → List Nat := fun _ => []
  held : List Nat := []
  requests : Nat → Nat := fun _ => 0

inductive WorkerEvent where
  /-- `get_connection` on one end of the pair -/
  | openComm (calls : OpenCalls) (now : Nat) (socketFd : Int)
  | server (event : AcceptEvent)
  | upstream (event : UpstreamEvent)

namespace WorkerRun

/-- What the servers see of the thread. -/
def acceptRun (self : WorkerRun) : AcceptRun :=
  { cycle := self.cycle, inUse := self.inUse, coroutine := self.coroutine, clients := self.clients }

/-- What the upstreams see of the thread. -/
def upstreamRun (self : WorkerRun) : UpstreamRun :=
  { cycle := self.cycle, inUse := self.inUse, held := self.held, requests := self.requests }

/-- What servers do; only their clients are freed by them. -/
def Serves (self : WorkerRun) (serverCount : Nat) : AcceptEvent → Prop
  | .initServer server _ _ | .start server | .limit server | .suspend server | .accept server _ =>
    server < serverCount
  | .freeRequestConnection connection _ => ∃ server < serverCount, connection ∈ self.clients server
  | .freeConnection _ | .getConnection _ _ _ _ => False

/-- What upstreams do. -/
def Requests (upstreamCount : Nat) : UpstreamEvent → Prop
  | .getConnection upstream _ _ _ _ _ => upstream < upstreamCount
  | .freeConnection _ _ _ => True
  | .getOther _ _ _ _ _ | .freeOther _ => False

instance (self : WorkerRun) (serverCount : Nat) (event : AcceptEvent) :
    Decidable (self.Serves serverCount event) := by
  cases event <;> unfold Serves <;> infer_instance

instance (upstreamCount : Nat) (event : UpstreamEvent) : Decidable (Requests upstreamCount event) := by
  cases event <;> unfold Requests <;> infer_instance

/-- The connection that `init` of a server got. -/
def listening (self : WorkerRun) (next : AcceptRun) : AcceptEvent → List Nat
  | .initServer _ _ _ => next.inUse.take (next.inUse.length - self.inUse.length)
  | _ => []

def step (serverCount upstreamCount : Nat) (self : WorkerRun) : WorkerEvent → Option WorkerRun
  | .openComm calls now socketFd =>
    if self.comm.length < 2 ∧ Unopened self.cycle.kernel socketFd then
      match { self.cycle with kernel := self.cycle.kernel.open socketFd }.getConnectionFd calls now socketFd with
      | (cycle, none) => some { self with cycle }
      | (cycle, some connection) => some { self with
          -- with the second one, the first one is made to read
          cycle := self.comm.foldl listenResume cycle
          inUse := connection :: self.inUse
          comm := connection :: self.comm }
    else none
  | .server event =>
    if self.Serves serverCount event then
      (self.acceptRun.step event).map fun next => { self with
        cycle := next.cycle, inUse := next.inUse, coroutine := next.coroutine, clients := next.clients
        listens := self.listening next event ++ self.listens }
    else none
  | .upstream event =>
    if Requests upstreamCount event then
      (self.upstreamRun.step event).map fun next => { self with
        cycle := next.cycle, inUse := next.inUse, held := next.held, requests := next.requests }
    else none

end WorkerRun

/-! ## The size of the pool -/

section
variable {self : CoCycle} {pairs : Nat} {inUse : List Nat}

theorem maxSize_createPairs (turns i : Nat) (self : CoCycle) :
    (createPairs turns i self).connectionPool.maxConnectionSize = self.connectionPool.maxConnectionSize ∧
      (createPairs turns i self).connectionPool.curConnectionSize = self.connectionPool.curConnectionSize := by
  induction turns generalizing i self with
  | zero => exact ⟨rfl, rfl⟩
  | succ turns ih => exact ih (i + 2) (self.createPair i)

theorem maxSize_expandConnections (self : CoCycle) (expandSize : Int) :
    (self.expandConnections expandSize).2.connectionPool.maxConnectionSize =
      self.connectionPool.maxConnectionSize := by
  unfold expandConnections
  dsimp only
  split
  · rfl
  · exact (maxSize_createPairs _ _ _).1

@[simp] theorem maxSize_refill (self : CoCycle) :
    self.refill.connectionPool.maxConnectionSize = self.connectionPool.maxConnectionSize := by
  unfold refill
  split
  · exact maxSize_expandConnections self 16
  · rfl

@[simp] theorem maxSize_popFree (self : CoCycle) (connection : Nat) (socketFd : Int) (now : Nat) :
    (self.popFree connection socketFd now).connectionPool.maxConnectionSize =
      self.connectionPool.maxConnectionSize := rfl

theorem maxSize_getConnectionIp (self : CoCycle) (calls : OpenCalls) (now : Nat) (ip : Bytes) (port : Nat)
    (listen : Bool) :
    (self.getConnectionIp calls now ip port listen).1.connectionPool.maxConnectionSize =
      self.connectionPool.maxConnectionSize := by
  unfold CoCycle.getConnectionIp
  dsimp only
  split
  · exact maxSize_refill self
  · split
    · simp
    · split
      · simp
      · split <;> simp

theorem maxSize_getConnectionFd (self : CoCycle) (calls : OpenCalls) (now : Nat) (socketFd : Int) :
    (self.getConnectionFd calls now socketFd).1.connectionPool.maxConnectionSize =
      self.connectionPool.maxConnectionSize := by
  unfold CoCycle.getConnectionFd
  dsimp only
  split
  · exact maxSize_refill self
  · split
    · simp
    · split <;> simp

/-- While fewer connections are in use than the pool can make, it has one. -/
theorem PoolInv.not_exhausted (inv : PoolInv self pairs inUse)
    (room : (inUse.length : Int) < self.connectionPool.maxConnectionSize) : self.exhausted = false := by
  have shared := List.Perm.length_eq inv.shared
  have size := inv.layout.size
  simp only [List.length_append, mains, List.length_map, List.length_range] at shared
  obtain ⟨grown, refilled, -⟩ := inv.refill
  have shares := List.Perm.length_eq refilled.shared
  simp only [List.length_append, mains, List.length_map, List.length_range] at shares
  have resized := refilled.layout.size
  refine Bool.eq_false_iff.2 fun empty => ?_
  rw [exhausted, List.isEmpty_iff] at empty
  rw [empty, List.length_nil] at shares
  unfold CoCycle.refill at empty resized
  split at empty
  · -- then it makes at least one more
    rename_i before
    rw [List.isEmpty_iff] at before
    rw [before, List.length_nil] at shared
    rw [if_pos (by rw [before]; rfl)] at resized
    have notFull : ¬ self.connectionPool.curConnectionSize ≥ self.connectionPool.maxConnectionSize := by omega
    simp only [CoCycle.expandConnections, if_neg notFull, (maxSize_createPairs _ _ _).2] at resized
    split at resized <;> omega
  · rename_i some
    exact some (List.isEmpty_iff.2 empty)

end

end CoCycle

end CoServer
