import CoServer.Core.CurConnection

/-! # Waits for third-party sockets

The block connection of a pair is armed while the coroutine of the main connection
waits in `yield_thirdsocket`.  Everything the dispatcher calls keeps this: a main
connection that is reset has its block connection reset too. -/

namespace CoServer

/-- No event of the connection is active or timed. -/
def CoConnection.Rests (self : CoConnection) : Prop := self.readEvent = {} ∧ self.writeEvent = {}

namespace CoCycle

open CoConnection

/-- The connections come in pairs, and servers listen on main connections. -/
structure PairsInv (cycle : CoCycle) : Prop where
  even : ∃ pairs, cycle.allocated = 2 * pairs
  main : ∀ k, 2 * k < cycle.allocated → SamePlace (mainPlace k) (cycle.objects (2 * k))
  block : ∀ k, 2 * k + 1 < cycle.allocated → SamePlace (blockPlace k) (cycle.objects (2 * k + 1))
  listens : ∀ server, ∃ k, (cycle.serverControls server).listenConnection = 2 * k

/-- No pair starts to wait, and those that still wait keep the status of the coroutine. -/
structure KeepsWaits (before after : CoCycle) : Prop where
  allocated : after.allocated = before.allocated
  places : ∀ connection, SamePlace (before.objects connection) (after.objects connection)
  listens : ∀ server, (after.serverControls server).listenConnection =
    (before.serverControls server).listenConnection
  sleeps : ∀ k, (after.objects (2 * k + 1)).sleepEvent = (before.objects (2 * k + 1)).sleepEvent
  waits : ∀ k, ¬(after.objects (2 * k + 1)).Rests → ¬(before.objects (2 * k + 1)).Rests ∧
    (after.objects (2 * k)).coroutineStatus = (before.objects (2 * k)).coroutineStatus

theorem KeepsWaits.of_objects {before after : CoCycle} (objects : after.objects = before.objects)
    (allocated : after.allocated = before.allocated)
    (listens : ∀ server, (after.serverControls server).listenConnection =
      (before.serverControls server).listenConnection) : KeepsWaits before after where
  allocated := allocated
  places _ := objects ▸ .refl _
  listens := listens
  sleeps _ := by rw [objects]
  waits _ waits := by
    rw [objects] at waits ⊢
    exact ⟨waits, rfl⟩

theorem KeepsWaits.refl (cycle : CoCycle) : KeepsWaits cycle cycle := .of_objects rfl rfl fun _ => rfl

theorem KeepsWaits.trans {a b c : CoCycle} (first : KeepsWaits a b) (second : KeepsWaits b c) :
    KeepsWaits a c where
  allocated := second.allocated.trans first.allocated
  places connection := (first.places connection).trans (second.places connection)
  listens server := (second.listens server).trans (first.listens server)
  sleeps k := (second.sleeps k).trans (first.sleeps k)
  waits k waits := by
    obtain ⟨middle, status⟩ := second.waits k waits
    obtain ⟨before, statusToo⟩ := first.waits k middle
    exact ⟨before, status.trans statusToo⟩

/-- The pairs are a matter of places. -/
theorem PairsInv.places {before after : CoCycle} (inv : PairsInv before)
    (allocated : after.allocated = before.allocated)
    (places : ∀ connection, SamePlace (before.objects connection) (after.objects connection))
    (listens : ∀ server, (after.serverControls server).listenConnection =
      (before.serverControls server).listenConnection) : PairsInv after where
  even := by
    rw [allocated]
    exact inv.even
  main k below := (inv.main k (allocated ▸ below)).trans (places _)
  block k below := (inv.block k (allocated ▸ below)).trans (places _)
  listens server := by
    rw [listens]
    exact inv.listens server

theorem PairsInv.keep {before after : CoCycle} (inv : PairsInv before) (keeps : KeepsWaits before after) :
    PairsInv after :=
  inv.places keeps.allocated keeps.places keeps.listens

/-! ## What keeps the waits -/

section
variable (self : CoCycle) (k : Nat)

/-- A change of a main connection that leaves its coroutine alone. -/
theorem keepsWaits_main (f : CoConnection → CoConnection)
    (place : SamePlace (self.objects (2 * k)) (f (self.objects (2 * k))))
    (status : (f (self.objects (2 * k))).coroutineStatus = (self.objects (2 * k)).coroutineStatus) :
    KeepsWaits self (self.modifyObject (2 * k) f) where
  allocated := rfl
  listens _ := rfl
  places connection := by
    by_cases same : connection = 2 * k
    · subst same
      rw [modifyObject_same]
      exact place
    · rw [modifyObject_other _ _ _ _ same]
      exact .refl _
  sleeps j := by rw [modifyObject_other _ _ _ _ (by omega)]
  waits j waits := by
    rw [modifyObject_other _ _ _ _ (by omega)] at waits
    refine ⟨waits, ?_⟩
    by_cases same : 2 * j = 2 * k
    · rw [same, modifyObject_same, status]
    · rw [modifyObject_other _ _ _ _ same]

/-- A change of any connection that leaves its events and its coroutine alone. -/
theorem keepsWaits_flags (connection : Nat) (f : CoConnection → CoConnection)
    (place : ∀ object, SamePlace object (f object))
    (events : ∀ object, (f object).readEvent = object.readEvent ∧ (f object).writeEvent = object.writeEvent ∧
      (f object).sleepEvent = object.sleepEvent ∧ (f object).coroutineStatus = object.coroutineStatus) :
    KeepsWaits self (self.modifyObject connection f) := by
  have same : ∀ other, (self.modifyObject connection f).objects other = self.objects other ∨
      (self.modifyObject connection f).objects other = f (self.objects other) := by
    intro other
    by_cases same : other = connection
    · subst same
      exact .inr (modifyObject_same _ _ _)
    · exact .inl (modifyObject_other _ _ _ _ same)
  constructor
  · rfl
  · intro other
    obtain same | same := same other <;> rw [same]
    · exact .refl _
    · exact place _
  · intro server
    rfl
  · intro j
    obtain same | same := same (2 * j + 1) <;> rw [same]
    exact (events _).2.2.1
  · intro j waits
    constructor
    · obtain same | same := same (2 * j + 1) <;> rw [same] at waits
      · exact waits
      · rw [Rests, (events _).1, (events _).2.1] at waits
        exact waits
    · obtain same | same := same (2 * j) <;> rw [same]
      exact (events _).2.2.2

theorem Reregistered.keepsWaits {before after : CoCycle} (changed : Reregistered before (2 * k) after) :
    KeepsWaits before after := by
  cases changed with
  | kernel interest => exact .of_objects rfl rfl fun _ => rfl
  | mirrored interest events version readActive writeActive =>
    have kernel : KeepsWaits before { before with kernel := { before.kernel with interest } } :=
      .of_objects rfl rfl fun _ => rfl
    exact kernel.trans (keepsWaits_main _ k _ ⟨rfl, rfl, rfl, rfl⟩ rfl)

/-- A change of a server control that leaves its listening connection. -/
theorem keepsWaits_modifyServer (server : Nat) (f : CoServerControl → CoServerControl)
    (listens : ∀ control, (f control).listenConnection = control.listenConnection) :
    KeepsWaits self (self.modifyServer server f) := by
  apply @KeepsWaits.of_objects self (self.modifyServer server f) rfl rfl
  intro other
  by_cases isServer : other = server
  · subst isServer
    rw [modifyServer_same, listens]
  · rw [modifyServer_other _ _ _ _ isServer]

theorem keepsWaits_closeSocket : KeepsWaits self (self.closeSocket (2 * k)) := by
  have closed : KeepsWaits self (self.modifyObject (2 * k) fun object =>
      { object with coTcp := (object.coTcp.tcpClose self.kernel).1 }) :=
    keepsWaits_main self k _ ⟨rfl, rfl, rfl, rfl⟩ rfl
  exact closed.trans (.of_objects rfl rfl fun _ => rfl)

end

section
variable {self : CoCycle}

theorem keepsWaits_modifyListening {server : Nat}
    (listens : ∃ k, (self.serverControls server).listenConnection = 2 * k) :
    KeepsWaits self (self.modifyListening server) := by
  obtain ⟨k, listens⟩ := listens
  obtain same | ⟨eventType, listening, same⟩ := modifyListening_cases self server
  · rw [same]
    exact .refl self
  · rw [same, listens]
    have set : KeepsWaits self (self.modifyServer server fun control => { control with listening }) :=
      keepsWaits_modifyServer self server _ fun _ => rfl
    exact set.trans ((modifyConnection_reregistered _ _ _ _).keepsWaits k)

theorem keepsWaits_cleanup (inv : PairsInv self) (connection : Nat) (cleanup : Cleanup) :
    KeepsWaits self (runCleanup connection self cleanup) := by
  cases cleanup
  show KeepsWaits self (self.funcCleanup connection)
  unfold funcCleanup
  split
  · exact .refl self
  · rename_i server _
    have left : KeepsWaits self (self.modifyServer server fun control =>
        { control with curConnectionSize := control.curConnectionSize - 1 }) :=
      keepsWaits_modifyServer self server _ fun _ => rfl
    exact left.trans (keepsWaits_modifyListening ((inv.keep left).listens server))

theorem keepsWaits_cleanups (inv : PairsInv self) (connection : Nat) (cleanups : List Cleanup) :
    KeepsWaits self (cleanups.foldl (runCleanup connection) self) := by
  induction cleanups generalizing self with
  | nil => exact .refl self
  | cons cleanup rest ih =>
    have first := keepsWaits_cleanup inv connection cleanup
    exact first.trans (ih (inv.keep first))

end

/-! ## Connections that are given back -/

section
variable {self : CoCycle} {k : Nat}

/-- The part of `reset` before `reset_block`. -/
theorem reset_before_block (self : CoCycle) (connection : Nat) (keepalive : Bool) :
    ∃ middle : CoCycle, self.reset connection keepalive = middle.resetBlock connection ∧
      SamePlace (self.objects connection) (middle.objects connection) ∧
      (∀ other, other ≠ connection → middle.objects other = self.objects other) ∧
      middle.allocated = self.allocated ∧ middle.serverControls = self.serverControls := by
  cases keepalive with
  | true =>
    refine ⟨_, rfl, ?_, ?_, rfl, rfl⟩
    · simp [samePlace_resetRequest]
    · intro other apart
      simp [modifyObject_other _ _ _ _ apart]
  | false =>
    have closed := closed_closeSocket (self.modifyObject connection resetRequest) connection
    refine ⟨(if (self.modifyObject connection resetRequest).fd connection > 0 then
      (self.modifyObject connection resetRequest).closeSocket connection
      else self.modifyObject connection resetRequest).modifyObject connection resetOwner, rfl, ?_, ?_, ?_, ?_⟩
    · obtain ⟨coTcp, object, -⟩ := closed.object
      rw [modifyObject_same, object, modifyObject_same]
      exact ⟨rfl, rfl, rfl, rfl⟩
    · intro other apart
      rw [modifyObject_other _ _ _ _ apart, closed.others other apart, modifyObject_other _ _ _ _ apart]
    · exact closed.allocated
    · exact closed.servers

variable (inv : PairsInv self) (below : 2 * k < self.allocated)
include inv below

/-- The block connection rests afterwards, so the coroutine may start anew. -/
theorem keepsWaits_reset (keepalive : Bool) : KeepsWaits self (self.reset (2 * k) keepalive) := by
  obtain ⟨middle, same, place, others, allocated, servers⟩ := reset_before_block self (2 * k) keepalive
  have owner : (middle.objects (2 * k)).blockConn = some (2 * k + 1) :=
    place.blockConn.trans (inv.main k below).blockConn
  rw [same, resetBlock_owned owner]
  constructor
  · exact allocated
  · intro other
    by_cases isBlock : other = 2 * k + 1
    · subst isBlock
      rw [modifyObject_same, others _ (by omega)]
      exact samePlace_resetBlock _
    · rw [modifyObject_other _ _ _ _ isBlock]
      by_cases isMain : other = 2 * k
      · subst isMain
        exact place
      · rw [others other isMain]
        exact .refl _
  · intro server
    rw [modifyObject_servers, servers]
  · intro j
    by_cases isBlock : 2 * j + 1 = 2 * k + 1
    · rw [isBlock, modifyObject_same, others _ (by omega)]
      rfl
    · rw [modifyObject_other _ _ _ _ isBlock, others _ (by omega)]
  · intro j waits
    by_cases isBlock : 2 * j + 1 = 2 * k + 1
    · rw [isBlock, modifyObject_same] at waits
      exact absurd ⟨rfl, rfl⟩ waits
    · rw [modifyObject_other _ _ _ _ isBlock, others _ (by omega)] at waits
      rw [modifyObject_other _ _ _ _ (by omega), others _ (by omega)]
      exact ⟨waits, rfl⟩

theorem keepsWaits_freeConnection : KeepsWaits self (self.freeConnection (2 * k)) := by
  unfold freeConnection
  dsimp only
  generalize step0 : ({ self with connectionPool := { self.connectionPool with
    innerSockets := self.connectionPool.innerSockets.erase
      (self.objects (2 * k)).coTcp.socketfd } } : CoCycle) = erased
  have first : KeepsWaits self erased := by
    rw [← step0]
    exact .of_objects rfl rfl fun _ => rfl
  have second : KeepsWaits erased (if (self.objects (2 * k)).coTcp.socketfd > 0 then
      erased.closeSocket (2 * k) else erased) := by
    split
    · exact keepsWaits_closeSocket erased k
    · exact .refl erased
  generalize (if (self.objects (2 * k)).coTcp.socketfd > 0 then erased.closeSocket (2 * k) else erased) =
    shut at second
  have third := keepsWaits_cleanups (inv.keep (first.trans second)) (2 * k)
    (shut.objects (2 * k)).handlerCleanups
  generalize (shut.objects (2 * k)).handlerCleanups.foldl (runCleanup (2 * k)) shut = clean at third
  have fourth : KeepsWaits clean (clean.modifyObject (2 * k) fun object =>
      { object with handlerCleanups := [] }) := keepsWaits_main clean k _ ⟨rfl, rfl, rfl, rfl⟩ rfl
  have all := (first.trans second).trans (third.trans fourth)
  have fifth := keepsWaits_reset (inv.keep all) (all.allocated ▸ below) false
  exact (all.trans fifth).trans (.of_objects rfl rfl fun _ => rfl)

theorem keepsWaits_closeUpstream (upstream : Nat) :
    KeepsWaits self (self.closeUpstream upstream (2 * k)) := by
  unfold closeUpstream
  dsimp only
  have first : KeepsWaits self (self.modifyUpstream upstream (.resizeBy (-1))) :=
    .of_objects rfl rfl fun _ => rfl
  have second := first.trans ((delConnection_reregistered _ (2 * k)).keepsWaits k)
  exact second.trans (keepsWaits_freeConnection (inv.keep second) (second.allocated ▸ below))

theorem keepsWaits_freeUpstreamConnection (timestamp : Nat) :
    KeepsWaits self (self.freeUpstreamConnection (2 * k) coException timestamp) := by
  have close : ∀ upstream control, KeepsWaits self ((self.modifyUpstream upstream control).closeUpstream
      upstream (2 * k)) := by
    intro upstream control
    have first : KeepsWaits self (self.modifyUpstream upstream control) :=
      .of_objects rfl rfl fun _ => rfl
    exact first.trans (keepsWaits_closeUpstream (inv.keep first) below upstream)
  unfold freeUpstreamConnection
  split
  · unfold upstreamFreeConnection
    dsimp only
    split
    · exact close _ _
    · rw [if_pos (by decide)]
      exact close _ _
  · exact .refl self

theorem keepsWaits_freeRequestConnection :
    KeepsWaits self (self.freeRequestConnection (2 * k) coException) := by
  unfold freeRequestConnection
  rw [if_pos (by decide)]
  have deleted := (delConnection_reregistered self (2 * k)).keepsWaits k
  exact deleted.trans (keepsWaits_freeConnection (inv.keep deleted) (deleted.allocated ▸ below))

end

/-! ## Dispatching -/

section
variable {self : CoCycle} (inv : PairsInv self) {connection : Nat} (below : connection < self.allocated)

theorem keepsWaits_markDying (self : CoCycle) (connection : Nat) :
    KeepsWaits self (self.markDying connection) :=
  keepsWaits_flags self connection _ (fun _ => ⟨rfl, rfl, rfl, rfl⟩) fun _ => ⟨rfl, rfl, rfl, rfl⟩

theorem keepsWaits_killUpstreams (self : CoCycle) (upstreamRequests : List (Nat × Nat)) :
    KeepsWaits self (self.killUpstreams upstreamRequests) := by
  unfold killUpstreams
  induction upstreamRequests generalizing self with
  | nil => exact .refl self
  | cons entry rest ih =>
    have first : KeepsWaits self (self.killUpstream entry.2) := by
      unfold killUpstream
      split
      · exact .refl self
      · rename_i upstreamConnection _
        have marked : KeepsWaits self (self.modifyObject upstreamConnection fun object =>
            { object with flagDying := true, flagParentDying := true }) :=
          keepsWaits_flags self _ _ (fun _ => ⟨rfl, rfl, rfl, rfl⟩) fun _ => ⟨rfl, rfl, rfl, rfl⟩
        exact marked.trans (.of_objects rfl rfl fun _ => rfl)
    exact first.trans (ih _)

include inv below

/-- A connection of the pool is a main connection or a block connection. -/
theorem PairsInv.cases : (∃ k, connection = 2 * k ∧ (self.objects connection).flagBlockConn = false) ∨
    ∃ k, connection = 2 * k + 1 ∧ (self.objects connection).flagBlockConn = true := by
  obtain ⟨k, isMain | isBlock⟩ := Nat.even_or_odd' connection
  · subst isMain
    exact .inl ⟨k, rfl, (inv.main k below).flagBlockConn⟩
  · subst isBlock
    exact .inr ⟨k, rfl, (inv.block k below).flagBlockConn⟩

theorem keepsWaits_eventException (timestamp : Nat) :
    KeepsWaits self (self.eventException connection timestamp).2 := by
  unfold eventException
  dsimp only
  split
  · exact .refl self
  · have marked := keepsWaits_markDying self connection
    split
    · exact marked
    · split
      · unfold markBlockDying
        split
        · exact marked.trans (keepsWaits_markDying _ _)
        · exact marked
      · rename_i notBlock
        -- so it is a main connection
        obtain ⟨k, isMain, -⟩ | ⟨k, -, isBlock⟩ := inv.cases below
        · subst isMain
          have marked' := inv.keep marked
          split
          · split
            · exact marked.trans (keepsWaits_killUpstreams _ _)
            · exact marked
          · split
            · exact marked.trans (keepsWaits_freeRequestConnection marked' below)
            · exact marked.trans (keepsWaits_freeUpstreamConnection marked' below timestamp)
        · simp [isBlock] at notBlock

theorem keepsWaits_handlerException (timestamp : Nat) :
    KeepsWaits self (self.handlerException connection timestamp).2 := by
  unfold handlerException
  split
  · exact keepsWaits_eventException inv below timestamp
  · exact .refl self
  · exact .refl self

end

theorem markDying_status (self : CoCycle) (connection other : Nat) :
    ((self.markDying connection).objects other).coroutineStatus = (self.objects other).coroutineStatus := by
  unfold markDying
  rw [modifyObject_objects]
  split
  · rename_i same
    rw [same]
  · rfl

/-- A block connection is never given back by its dispatch. -/
theorem handlerException_block_status {self : CoCycle} {connection : Nat}
    (isBlock : (self.objects connection).flagBlockConn = true) (timestamp other : Nat) :
    ((self.handlerException connection timestamp).2.objects other).coroutineStatus =
      (self.objects other).coroutineStatus := by
  unfold handlerException
  split
  · unfold eventException
    dsimp only
    split
    · rfl
    · split
      · exact markDying_status self connection other
      · rw [if_pos (by simp [isBlock])]
        unfold markBlockDying
        split
        · exact (markDying_status _ _ other).trans (markDying_status self connection other)
        · exact markDying_status self connection other
  · rfl
  · rfl

/-! ## The waits themselves -/

/-- All but pair `k` is left alone, and pair `k` keeps the status of its coroutine. -/
structure KeepsOthers (k : Nat) (before after : CoCycle) : Prop where
  allocated : after.allocated = before.allocated
  places : ∀ connection, SamePlace (before.objects connection) (after.objects connection)
  listens : after.serverControls = before.serverControls
  sleeps : ∀ j, (after.objects (2 * j + 1)).sleepEvent = (before.objects (2 * j + 1)).sleepEvent
  status : (after.objects (2 * k)).coroutineStatus = (before.objects (2 * k)).coroutineStatus
  others : ∀ j, j ≠ k → after.objects (2 * j) = before.objects (2 * j) ∧
    after.objects (2 * j + 1) = before.objects (2 * j + 1)

section
variable {a b c : CoCycle} {k : Nat}

theorem KeepsOthers.trans (first : KeepsOthers k a b) (second : KeepsOthers k b c) : KeepsOthers k a c where
  allocated := second.allocated.trans first.allocated
  places connection := (first.places connection).trans (second.places connection)
  listens := second.listens.trans first.listens
  sleeps j := (second.sleeps j).trans (first.sleeps j)
  status := second.status.trans first.status
  others j apart := by
    obtain ⟨main, block⟩ := first.others j apart
    obtain ⟨mainToo, blockToo⟩ := second.others j apart
    exact ⟨mainToo.trans main, blockToo.trans block⟩

theorem KeepsOthers.of_objects (objects : b.objects = a.objects) (allocated : b.allocated = a.allocated)
    (listens : b.serverControls = a.serverControls) : KeepsOthers k a b where
  allocated := allocated
  places _ := objects ▸ .refl _
  listens := listens
  sleeps _ := by rw [objects]
  status := by rw [objects]
  others _ _ := by simp [objects]

theorem KeepsOthers.pairs (keeps : KeepsOthers k a b) (inv : PairsInv a) : PairsInv b :=
  inv.places keeps.allocated keeps.places fun server => by rw [keeps.listens]

/-- A wait that is over. -/
theorem KeepsOthers.keepsWaits (keeps : KeepsOthers k a b) (rests : (b.objects (2 * k + 1)).Rests) :
    KeepsWaits a b where
  allocated := keeps.allocated
  places := keeps.places
  listens server := by rw [keeps.listens]
  sleeps := keeps.sleeps
  waits j waits := by
    by_cases same : j = k
    · subst same
      exact absurd rests waits
    · obtain ⟨main, block⟩ := keeps.others j same
      rw [block] at waits
      rw [main]
      exact ⟨waits, rfl⟩

/-- The places of a changed connection. -/
theorem places_modifyObject (self : CoCycle) (connection : Nat) (f : CoConnection → CoConnection)
    (place : ∀ object, SamePlace object (f object)) (other : Nat) :
    SamePlace (self.objects other) ((self.modifyObject connection f).objects other) := by
  by_cases same : other = connection
  · subst same
    rw [modifyObject_same]
    exact place _
  · rw [modifyObject_other _ _ _ _ same]
    exact .refl _

theorem keepsOthers_main (self : CoCycle) (k : Nat) (f : CoConnection → CoConnection)
    (place : ∀ object, SamePlace object (f object))
    (status : ∀ object, (f object).coroutineStatus = object.coroutineStatus) :
    KeepsOthers k self (self.modifyObject (2 * k) f) where
  allocated := rfl
  listens := rfl
  places := places_modifyObject self (2 * k) f place
  sleeps j := by rw [modifyObject_other _ _ _ _ (by omega)]
  status := by rw [modifyObject_same, status]
  others j apart := by simp [modifyObject_other self (2 * k) (2 * j) f (by omega),
    modifyObject_other self (2 * k) (2 * j + 1) f (by omega)]

theorem keepsOthers_block (self : CoCycle) (k : Nat) (f : CoConnection → CoConnection)
    (place : ∀ object, SamePlace object (f object))
    (sleep : ∀ object, (f object).sleepEvent = object.sleepEvent) :
    KeepsOthers k self (self.modifyObject (2 * k + 1) f) where
  allocated := rfl
  listens := rfl
  places := places_modifyObject self (2 * k + 1) f place
  sleeps j := by
    by_cases same : 2 * j + 1 = 2 * k + 1
    · rw [same, modifyObject_same, sleep]
    · rw [modifyObject_other _ _ _ _ same]
  status := by rw [modifyObject_other _ _ _ _ (by omega)]
  others j apart := by simp [modifyObject_other self (2 * k + 1) (2 * j) f (by omega),
    modifyObject_other self (2 * k + 1) (2 * j + 1) f (by omega)]

theorem Reregistered.keepsOthers (changed : Reregistered a (2 * k + 1) b) : KeepsOthers k a b := by
  cases changed with
  | kernel interest => exact .of_objects rfl rfl rfl
  | mirrored interest events version readActive writeActive =>
    have kernel : KeepsOthers k a { a with kernel := { a.kernel with interest } } :=
      .of_objects rfl rfl rfl
    exact kernel.trans (keepsOthers_block _ k _ (fun _ => ⟨rfl, rfl, rfl, rfl⟩) fun _ => rfl)

theorem blockTimer_ne_sleep (eventOP : EpollEvents) : blockTimer eventOP ≠ .sleep := by
  unfold blockTimer
  split <;> nofun

theorem keepsOthers_timer (self : CoCycle) (k : Nat) (eventOP : EpollEvents) (flagTimerSet : Bool) :
    KeepsOthers k self (self.modifyObject (2 * k + 1) fun object =>
      object.setTimer (blockTimer eventOP) flagTimerSet) := by
  have notSleep := blockTimer_ne_sleep eventOP
  generalize blockTimer eventOP = kind at notSleep
  apply keepsOthers_block
  · intro object
    cases kind <;> exact ⟨rfl, rfl, rfl, rfl⟩
  · intro object
    cases kind with
    | read | write => rfl
    | sleep => exact absurd rfl notSleep

theorem keepsOthers_yieldThirdsocket (self : CoCycle) (k : Nat) (calls : OpenCalls) (socketFd : Int)
    (eventOP : EpollEvents) :
    KeepsOthers k self (self.yieldThirdsocket (2 * k) (2 * k + 1) calls socketFd eventOP) := by
  unfold yieldThirdsocket
  dsimp only
  have used := keepsOthers_main self k (fun object => object.useBlock true)
    (fun _ => ⟨rfl, rfl, rfl, rfl⟩) fun _ => rfl
  generalize self.modifyObject (2 * k) (fun object => object.useBlock true) = borrowed at used
  generalize ((borrowed.objects (2 * k + 1)).coTcp.initClientSocketfd borrowed.kernel calls socketFd).2 = called
  have opened : KeepsOthers k borrowed (borrowed.modifyObject (2 * k + 1) fun object =>
      { object with coTcp := called.1 }) :=
    keepsOthers_block borrowed k _ (fun _ => ⟨rfl, rfl, rfl, rfl⟩) fun _ => rfl
  have set : KeepsOthers k borrowed (borrowed.setTcp (2 * k + 1) called) :=
    opened.trans (.of_objects rfl rfl rfl)
  have added := (modifyConnection_reregistered (borrowed.setTcp (2 * k + 1) called) (2 * k + 1) .add
    eventOP).keepsOthers
  exact ((used.trans set).trans added).trans (keepsOthers_timer _ k eventOP true)

/-- What the end of a wait leaves. -/
theorem resumeThirdsocket_keepsOthers {self : CoCycle} (inv : PairsInv self)
    (below : 2 * k < self.allocated) (eventOP : EpollEvents) :
    KeepsOthers k self (self.resumeThirdsocket (2 * k) (2 * k + 1) eventOP).2 ∧
      ((self.resumeThirdsocket (2 * k) (2 * k + 1) eventOP).2.objects (2 * k + 1)).Rests := by
  have deleted := (modifyConnection_reregistered self (2 * k + 1) .del eventOP).keepsOthers
  have untimed := deleted.trans (keepsOthers_timer _ k eventOP false)
  have unused := untimed.trans (keepsOthers_main _ k (fun object => object.useBlock false)
    (fun _ => ⟨rfl, rfl, rfl, rfl⟩) fun _ => rfl)
  unfold resumeThirdsocket
  dsimp only
  have owner := (unused.places (2 * k)).blockConn.trans (inv.main k below).blockConn
  rw [resetBlock_owned owner]
  constructor
  · exact unused.trans (keepsOthers_block _ k CoConnection.resetBlock
      (fun _ => ⟨rfl, rfl, rfl, rfl⟩) fun _ => rfl)
  · rw [modifyObject_same]
    exact ⟨rfl, rfl⟩

end

end CoCycle

end CoServer
