import CoServer.Lib.Run
import CoServer.Core.ConnectionPool
import Mathlib.Data.List.Perm.Basic
import Mathlib.Data.List.Nodup
import Mathlib.Data.List.Range

/-! # The invariant of the connection pool

Pair `k` of the pool is the connection at address `2 * k` and its block
connection right behind it.  The invariant has three parts: where the
connections are, who has them, and which descriptors they hold. -/

namespace CoServer

namespace CoCycle

open CoConnection

/-! ## The parts of the invariant -/

/-- The main connection of pair `k` when it was made. -/
def mainPlace (k : Nat) : CoConnection := { connId := 2 * k + 1, blockConn := some (2 * k + 1) }

/-- The block connection of pair `k` when it was made. -/
def blockPlace (k : Nat) : CoConnection :=
  { connId := 2 * k + 2, flagBlockConn := true, blockOriginConn := some (2 * k) }

/-- The addresses of the main connections of `pairs` pairs. -/
def mains (pairs : Nat) : List Nat := (List.range pairs).map (2 * ·)

/-- The descriptor a connection holds. -/
def fd (self : CoCycle) (connection : Nat) : Int := (self.objects connection).coTcp.socketfd

structure Layout (cycle : CoCycle) (pairs : Nat) : Prop where
  size : cycle.connectionPool.curConnectionSize = pairs
  bounded : cycle.connectionPool.curConnectionSize ≤ cycle.connectionPool.maxConnectionSize
  allocated : cycle.allocated = 2 * pairs
  connections : cycle.connectionPool.connections = (List.range (2 * pairs)).map some
  main : ∀ k < pairs, SamePlace (mainPlace k) (cycle.objects (2 * k))
  block : ∀ k < pairs, SamePlace (blockPlace k) (cycle.objects (2 * k + 1))

/-- Every main connection is either free or in use. -/
def Shared (cycle : CoCycle) (pairs : Nat) (inUse : List Nat) : Prop :=
  (cycle.connectionPool.freeConnections ++ inUse).Perm (mains pairs)

structure Sockets (cycle : CoCycle) (pairs : Nat) (inUse : List Nat) : Prop where
  opened : ∀ k < pairs, 0 ≤ cycle.fd (2 * k) → cycle.fd (2 * k) ∈ cycle.kernel.descriptors
  apart : ∀ j < pairs, ∀ k < pairs, j ≠ k → 0 ≤ cycle.fd (2 * j) → cycle.fd (2 * j) ≠ cycle.fd (2 * k)
  used : ∀ connection ∈ inUse, 0 ≤ cycle.fd connection
  inner : ∀ socketFd, socketFd ∈ cycle.connectionPool.innerSockets ↔
    ∃ connection ∈ inUse, cycle.fd connection = socketFd

/-- The connection has no owner, as `reset` leaves it. -/
structure Unowned (connection : CoConnection) : Prop where
  serverControl : connection.serverControl = none
  upstream : connection.upstream = none
  requestCount : connection.requestCount = 0
  handlerCleanups : connection.handlerCleanups = []

structure PoolInv (cycle : CoCycle) (pairs : Nat) (inUse : List Nat) : Prop where
  layout : Layout cycle pairs
  shared : Shared cycle pairs inUse
  sockets : Sockets cycle pairs inUse
  unowned : ∀ connection ∈ cycle.connectionPool.freeConnections, Unowned (cycle.objects connection)

theorem mem_mains {pairs connection : Nat} :
    connection ∈ mains pairs ↔ ∃ k < pairs, connection = 2 * k := by
  simp [mains, eq_comm]

theorem nodup_mains (pairs : Nat) : (mains pairs).Nodup := by
  apply List.Nodup.map _ List.nodup_range
  intro a b same
  simpa using same

/-! ## Steps the pool does not notice -/

/-- Nothing that the pool relies on changes; connections in use may get owners. -/
structure KeepsPool (inUse : List Nat) (before after : CoCycle) : Prop where
  pool : after.connectionPool = before.connectionPool
  allocated : after.allocated = before.allocated
  descriptors : after.kernel.descriptors = before.kernel.descriptors
  places : ∀ connection, SamePlace (before.objects connection) (after.objects connection)
  fds : ∀ connection, (before.objects connection).flagBlockConn = false →
    after.fd connection = before.fd connection
  owners : ∀ connection, connection ∉ inUse → Unowned (before.objects connection) →
    Unowned (after.objects connection)

theorem KeepsPool.refl (inUse : List Nat) (cycle : CoCycle) : KeepsPool inUse cycle cycle :=
  ⟨rfl, rfl, rfl, fun _ => .refl _, fun _ _ => rfl, fun _ _ unowned => unowned⟩

theorem KeepsPool.trans {inUse : List Nat} {a b c : CoCycle} (first : KeepsPool inUse a b)
    (second : KeepsPool inUse b c) : KeepsPool inUse a c where
  pool := second.pool.trans first.pool
  allocated := second.allocated.trans first.allocated
  descriptors := second.descriptors.trans first.descriptors
  places connection := (first.places connection).trans (second.places connection)
  fds connection main :=
    (second.fds connection ((first.places connection).flagBlockConn.trans main)).trans
      (first.fds connection main)
  owners connection notInUse unowned :=
    second.owners connection notInUse (first.owners connection notInUse unowned)

section
variable {before after : CoCycle} {pairs : Nat} {inUse : List Nat}

theorem Layout.keep (layout : Layout before pairs) (keeps : KeepsPool inUse before after) :
    Layout after pairs where
  size := by rw [keeps.pool, layout.size]
  bounded := by rw [keeps.pool]; exact layout.bounded
  allocated := by rw [keeps.allocated, layout.allocated]
  connections := by rw [keeps.pool, layout.connections]
  main k below := (layout.main k below).trans (keeps.places _)
  block k below := (layout.block k below).trans (keeps.places _)

theorem Layout.fds (layout : Layout before pairs) (keeps : KeepsPool inUse before after) {k : Nat}
    (below : k < pairs) : after.fd (2 * k) = before.fd (2 * k) :=
  keeps.fds _ (layout.main k below).flagBlockConn

theorem PoolInv.used_main (inv : PoolInv before pairs inUse) {connection : Nat}
    (used : connection ∈ inUse) : ∃ k < pairs, connection = 2 * k :=
  mem_mains.1 (inv.shared.mem_iff.1 (List.mem_append_right _ used))

theorem Sockets.keep (inv : PoolInv before pairs inUse) (keeps : KeepsPool inUse before after) :
    Sockets after pairs inUse := by
  have usedFd : ∀ connection ∈ inUse, after.fd connection = before.fd connection := by
    intro connection used
    obtain ⟨k, below, rfl⟩ := inv.used_main used
    exact inv.layout.fds keeps below
  refine ⟨?_, ?_, ?_, ?_⟩
  · intro k below
    rw [inv.layout.fds keeps below, keeps.descriptors]
    exact inv.sockets.opened k below
  · intro j belowJ k belowK
    rw [inv.layout.fds keeps belowJ, inv.layout.fds keeps belowK]
    exact inv.sockets.apart j belowJ k belowK
  · intro connection used
    rw [usedFd connection used]
    exact inv.sockets.used connection used
  · intro socketFd
    rw [keeps.pool, inv.sockets.inner]
    constructor
    · rintro ⟨connection, used, same⟩
      exact ⟨connection, used, (usedFd connection used).trans same⟩
    · rintro ⟨connection, used, same⟩
      exact ⟨connection, used, (usedFd connection used).symm.trans same⟩

theorem PoolInv.free_not_used (inv : PoolInv before pairs inUse) {connection : Nat}
    (free : connection ∈ before.connectionPool.freeConnections) : connection ∉ inUse := by
  intro used
  have nodup := List.nodup_append.1 (inv.shared.nodup_iff.2 (nodup_mains pairs))
  exact nodup.2.2 _ free _ used rfl

theorem PoolInv.keep (inv : PoolInv before pairs inUse) (keeps : KeepsPool inUse before after) :
    PoolInv after pairs inUse where
  layout := inv.layout.keep keeps
  shared := by rw [Shared, keeps.pool]; exact inv.shared
  sockets := .keep inv keeps
  unowned connection free := by
    rw [keeps.pool] at free
    exact keeps.owners connection (inv.free_not_used free) (inv.unowned connection free)

end

theorem Reregistered.keepsPool {before after : CoCycle} {connection : Nat}
    (changed : Reregistered before connection after) (inUse : List Nat) :
    KeepsPool inUse before after where
  pool := changed.pool
  allocated := changed.allocated
  descriptors := changed.descriptors
  places other := by
    obtain ⟨_, _, _, _, same⟩ := changed.object other
    rw [same]
    exact ⟨rfl, rfl, rfl, rfl⟩
  fds other _ := by
    obtain ⟨_, _, _, _, same⟩ := changed.object other
    rw [fd, same]
    rfl
  owners other _ unowned := by
    obtain ⟨_, _, _, _, same⟩ := changed.object other
    rw [same]
    exact ⟨unowned.serverControl, unowned.upstream, unowned.requestCount, unowned.handlerCleanups⟩

section
variable (inUse : List Nat) (self : CoCycle)

theorem keepsPool_modifyServer (server : Nat) (f : CoServerControl → CoServerControl) :
    KeepsPool inUse self (self.modifyServer server f) :=
  ⟨rfl, rfl, rfl, fun _ => .refl _, fun _ _ => rfl, fun _ _ unowned => unowned⟩

theorem keepsPool_modifyUpstream (upstream : Nat) (f : CoUpstream → CoUpstream) :
    KeepsPool inUse self (self.modifyUpstream upstream f) :=
  ⟨rfl, rfl, rfl, fun _ => .refl _, fun _ _ => rfl, fun _ _ unowned => unowned⟩

theorem keepsPool_pushDelay (connection : Nat) : KeepsPool inUse self (self.pushDelay connection) :=
  ⟨rfl, rfl, rfl, fun _ => .refl _, fun _ _ => rfl, fun _ _ unowned => unowned⟩

/-- An owner's assignment to its connection that leaves the place and the socket
    alone. -/
theorem keepsPool_modifyObject (connection : Nat) (f : CoConnection → CoConnection)
    (place : SamePlace (self.objects connection) (f (self.objects connection)))
    (socket : (self.objects connection).flagBlockConn = false →
      (f (self.objects connection)).coTcp.socketfd = self.fd connection)
    (owned : connection ∉ inUse → Unowned (self.objects connection) →
      Unowned (f (self.objects connection))) :
    KeepsPool inUse self (self.modifyObject connection f) where
  pool := rfl
  allocated := rfl
  descriptors := rfl
  places other := by
    by_cases same : other = connection
    · subst same
      simpa using place
    · rw [modifyObject_other _ _ _ _ same]
      exact .refl _
  fds other main := by
    by_cases same : other = connection
    · subst same
      simpa [fd] using socket main
    · rw [fd, modifyObject_other _ _ _ _ same, fd]
  owners other notInUse unowned := by
    by_cases same : other = connection
    · subst same
      simpa using owned notInUse unowned
    · rw [modifyObject_other _ _ _ _ same]
      exact unowned

theorem keepsPool_modifyListening (server : Nat) :
    KeepsPool inUse self (self.modifyListening server) := by
  rcases self.modifyListening_cases server with same | ⟨eventType, listening, changed⟩
  · rw [same]
    exact .refl inUse self
  · rw [changed]
    exact (keepsPool_modifyServer inUse self server _).trans
      ((modifyConnection_reregistered _ _ _ _).keepsPool inUse)

theorem keepsPool_runCleanup (connection : Nat) (cleanup : Cleanup) :
    KeepsPool inUse self (runCleanup connection self cleanup) := by
  cases cleanup
  unfold runCleanup funcCleanup
  dsimp only
  split
  · exact .refl inUse self
  · exact (keepsPool_modifyServer inUse self _ _).trans (keepsPool_modifyListening inUse _ _)

end

theorem keepsPool_cleanups (inUse : List Nat) (connection : Nat) (cleanups : List Cleanup)
    (self : CoCycle) : KeepsPool inUse self (cleanups.foldl (runCleanup connection) self) := by
  induction cleanups generalizing self with
  | nil => exact .refl inUse self
  | cons cleanup rest ih => exact (keepsPool_runCleanup inUse self connection cleanup).trans (ih _)

/-! ## Expanding -/

/-- What `turns` turns of the loop of `expand_connections` have done. -/
structure Expanded (before after : CoCycle) (pairs turns : Nat) : Prop where
  allocated : after.allocated = 2 * (pairs + turns)
  connections : after.connectionPool.connections = (List.range (2 * (pairs + turns))).map some
  size : after.connectionPool.curConnectionSize = before.connectionPool.curConnectionSize
  maxSize : after.connectionPool.maxConnectionSize = before.connectionPool.maxConnectionSize
  free : after.connectionPool.freeConnections =
    before.connectionPool.freeConnections ++ (List.range' pairs turns).map (2 * ·)
  innerSockets : after.connectionPool.innerSockets = before.connectionPool.innerSockets
  kernel : after.kernel = before.kernel
  servers : after.serverControls = before.serverControls
  upstreams : after.upstreams = before.upstreams
  delay : after.delayConnections = before.delayConnections
  old : ∀ connection < 2 * pairs, after.objects connection = before.objects connection
  main : ∀ k, pairs ≤ k → k < pairs + turns → after.objects (2 * k) = mainPlace k
  block : ∀ k, pairs ≤ k → k < pairs + turns → after.objects (2 * k + 1) = blockPlace k

theorem set_fresh_pair (pairs turns : Nat) :
    (((List.range (2 * pairs)).map some ++ List.replicate (2 * (turns + 1)) none).set (2 * pairs)
        (some (2 * pairs))).set (2 * pairs + 1) (some (2 * pairs + 1)) =
      (List.range (2 * (pairs + 1))).map some ++ List.replicate (2 * turns) (none : Option Nat) := by
  have two : List.replicate (2 * (turns + 1)) (none : Option Nat) =
      none :: none :: List.replicate (2 * turns) none := rfl
  have wider : List.range (2 * (pairs + 1)) = List.range (2 * pairs) ++ [2 * pairs, 2 * pairs + 1] := by
    rw [show 2 * (pairs + 1) = 2 * pairs + 1 + 1 by omega, List.range_succ, List.range_succ]
    simp
  rw [two, wider, List.set_append_right _ _ (by simp), List.set_append_right _ _ (by simp)]
  simp

/-- One more turn in front of the others. -/
theorem createPairs_expanded (turns pairs : Nat) (self : CoCycle) (allocated : self.allocated = 2 * pairs)
    (connections : self.connectionPool.connections =
      (List.range (2 * pairs)).map some ++ List.replicate (2 * turns) none) :
    Expanded self (createPairs turns (2 * pairs) self) pairs turns := by
  induction turns generalizing pairs self with
  | zero =>
    exact {
      allocated := allocated
      connections := by simpa [createPairs] using connections
      size := rfl
      maxSize := rfl
      free := by simp [createPairs]
      innerSockets := rfl
      kernel := rfl
      servers := rfl
      upstreams := rfl
      delay := rfl
      old := fun _ _ => rfl
      main := fun k low high => absurd high (by omega)
      block := fun k low high => absurd high (by omega) }
  | succ turns ih =>
    have further := ih (pairs + 1) (self.createPair (2 * pairs))
      (show self.allocated + 2 = 2 * (pairs + 1) by omega)
      (by
        simp only [createPair, connections, allocated]
        exact set_fresh_pair pairs turns)
    have made : ∀ connection, connection ≠ 2 * pairs → connection ≠ 2 * pairs + 1 →
        (self.createPair (2 * pairs)).objects connection = self.objects connection := by
      intro connection notMain notBlock
      simp [createPair, allocated, notMain, notBlock]
    have newMain : (self.createPair (2 * pairs)).objects (2 * pairs) = mainPlace pairs := by
      simp [createPair, allocated, mainPlace]
    have newBlock : (self.createPair (2 * pairs)).objects (2 * pairs + 1) = blockPlace pairs := by
      simp [createPair, allocated, blockPlace]
    have shift : 2 * pairs + 2 = 2 * (pairs + 1) := by omega
    simp only [createPairs, shift]
    constructor
    · rw [further.allocated]; omega
    · rw [further.connections]; congr 2; omega
    · rw [further.size]; rfl
    · rw [further.maxSize]; rfl
    · rw [further.free, List.range'_succ]
      simp [createPair, allocated]
    · rw [further.innerSockets]; rfl
    · rw [further.kernel]; rfl
    · rw [further.servers]; rfl
    · rw [further.upstreams]; rfl
    · rw [further.delay]; rfl
    · intro connection below
      rw [further.old connection (by omega), made connection (by omega) (by omega)]
    · intro k low high
      by_cases first : k = pairs
      · subst first
        rw [further.old _ (by omega), newMain]
      · exact further.main k (by omega) (by omega)
    · intro k low high
      by_cases first : k = pairs
      · subst first
        rw [further.old _ (by omega), newBlock]
      · exact further.block k (by omega) (by omega)

/-- The cycle after the pool made the pairs from `pairs` to `grown`. -/
structure Grown (before after : CoCycle) (pairs grown : Nat) : Prop where
  le : pairs ≤ grown
  kernel : after.kernel = before.kernel
  servers : after.serverControls = before.serverControls
  upstreams : after.upstreams = before.upstreams
  delay : after.delayConnections = before.delayConnections
  old : ∀ connection < 2 * pairs, after.objects connection = before.objects connection
  new : ∀ k, pairs ≤ k → k < grown → after.fd (2 * k) = -1

theorem Grown.refl (cycle : CoCycle) (pairs : Nat) : Grown cycle cycle pairs pairs :=
  ⟨le_rfl, rfl, rfl, rfl, rfl, fun _ _ => rfl, fun _ low high => absurd low (by omega)⟩

theorem resize_longer {pairs turns : Nat} :
    resize ((List.range (2 * pairs)).map some) (2 * (pairs + turns)) =
      (List.range (2 * pairs)).map some ++ List.replicate (2 * turns) none := by
  have room : 2 * (pairs + turns) - 2 * pairs = 2 * turns := by omega
  have fits : ((List.range (2 * pairs)).map some).length ≤ 2 * (pairs + turns) := by
    simp only [List.length_map, List.length_range]
    omega
  rw [resize, List.take_of_length_le fits, List.length_map, List.length_range, room]

section
variable {self after : CoCycle} {pairs turns : Nat} {inUse : List Nat}

theorem Expanded.fd_old (expanded : Expanded self after pairs turns) {k : Nat} (old : k < pairs) :
    after.fd (2 * k) = self.fd (2 * k) := by
  rw [fd, expanded.old _ (by omega), fd]

theorem Expanded.fd_new (expanded : Expanded self after pairs turns) {k : Nat} (new : pairs ≤ k)
    (below : k < pairs + turns) : after.fd (2 * k) = -1 := by
  rw [fd, expanded.main k new below]
  rfl

theorem Expanded.grown (expanded : Expanded self after pairs turns) :
    Grown self after pairs (pairs + turns) :=
  ⟨Nat.le_add_right _ _, expanded.kernel, expanded.servers, expanded.upstreams, expanded.delay,
    expanded.old, fun _ low high => expanded.fd_new low high⟩

theorem Expanded.sockets (expanded : Expanded self after pairs turns)
    (sockets : Sockets self pairs inUse) (mains : ∀ connection ∈ inUse, ∃ k < pairs, connection = 2 * k) :
    Sockets after (pairs + turns) inUse where
  opened k below held := by
    by_cases old : k < pairs
    · rw [expanded.fd_old old, expanded.kernel] at *
      exact sockets.opened k old held
    · rw [expanded.fd_new (by omega) below] at held
      omega
  apart j belowJ k belowK differ held := by
    by_cases oldJ : j < pairs
    · rw [expanded.fd_old oldJ] at *
      by_cases oldK : k < pairs
      · rw [expanded.fd_old oldK]
        exact sockets.apart j oldJ k oldK differ held
      · rw [expanded.fd_new (by omega) belowK]
        omega
    · rw [expanded.fd_new (by omega) belowJ] at held
      omega
  used connection mem := by
    obtain ⟨k, old, rfl⟩ := mains connection mem
    rw [expanded.fd_old old]
    exact sockets.used _ mem
  inner socketFd := by
    rw [expanded.innerSockets, sockets.inner]
    constructor
    · rintro ⟨connection, mem, same⟩
      obtain ⟨k, old, rfl⟩ := mains connection mem
      exact ⟨_, mem, (expanded.fd_old old).trans same⟩
    · rintro ⟨connection, mem, same⟩
      obtain ⟨k, old, rfl⟩ := mains connection mem
      exact ⟨_, mem, (expanded.fd_old old).symm.trans same⟩

theorem PoolInv.free_main (inv : PoolInv self pairs inUse) {connection : Nat}
    (free : connection ∈ self.connectionPool.freeConnections) : ∃ k < pairs, connection = 2 * k :=
  mem_mains.1 (inv.shared.mem_iff.1 (List.mem_append_left _ free))

theorem Expanded.shared (expanded : Expanded self after pairs turns) (shared : Shared self pairs inUse) :
    Shared after (pairs + turns) inUse := by
  have more : mains (pairs + turns) = mains pairs ++ (List.range' pairs turns).map (2 * ·) := by
    rw [mains, List.range_eq_range', ← List.range'_append_1, List.map_append,
      ← List.range_eq_range', mains]
    simp
  rw [Shared, expanded.free, more, List.append_assoc]
  refine (List.Perm.append_left _ List.perm_append_comm).trans ?_
  rw [← List.append_assoc]
  exact shared.append_right _

theorem expandConnections_full (self : CoCycle) (expandSize : Int)
    (full : self.connectionPool.curConnectionSize ≥ self.connectionPool.maxConnectionSize) :
    self.expandConnections expandSize = (coError, self) := by
  rw [expandConnections, if_pos full]

theorem PoolInv.expand (inv : PoolInv self pairs inUse) {expandSize : Int} (nonneg : 0 ≤ expandSize) :
    ∃ grown, PoolInv (self.expandConnections expandSize).2 grown inUse ∧
      Grown self (self.expandConnections expandSize).2 pairs grown := by
  have size := inv.layout.size
  by_cases full : self.connectionPool.curConnectionSize ≥ self.connectionPool.maxConnectionSize
  · rw [expandConnections_full _ _ full]
    exact ⟨pairs, inv, .refl self pairs⟩
  -- the new size and the turns of the loop
  generalize newSize : (if self.connectionPool.curConnectionSize + expandSize >
    self.connectionPool.maxConnectionSize then self.connectionPool.maxConnectionSize
    else self.connectionPool.curConnectionSize + expandSize) = wanted
  have atMost : wanted ≤ self.connectionPool.maxConnectionSize := by
    split at newSize <;> omega
  have atLeast : (pairs : Int) ≤ wanted := by
    split at newSize <;> omega
  obtain ⟨turns, exact⟩ : ∃ turns : Nat, wanted = pairs + turns := ⟨(wanted - pairs).toNat, by omega⟩
  simp only [expandConnections, if_neg full, newSize]
  have start : (self.connectionPool.curConnectionSize * 2).toNat = 2 * pairs := by omega
  have count : (wanted - self.connectionPool.curConnectionSize).toNat = turns := by omega
  have long : (wanted * 2).toNat = 2 * (pairs + turns) := by omega
  rw [start, count, long]
  have expanded := createPairs_expanded turns pairs
    { self with connectionPool := { self.connectionPool with
      curConnectionSize := wanted
      connections := resize self.connectionPool.connections (2 * (pairs + turns)) } }
    inv.layout.allocated (by
      show resize self.connectionPool.connections (2 * (pairs + turns)) = _
      rw [inv.layout.connections]
      exact resize_longer)
  refine ⟨pairs + turns, ⟨?_, expanded.shared inv.shared, ?_, ?_⟩, ?_⟩
  · exact {
      size := by rw [expanded.size]; show wanted = _; omega
      bounded := by rw [expanded.size, expanded.maxSize]; exact atMost
      allocated := expanded.allocated
      connections := expanded.connections
      main := fun k below => by
        by_cases old : k < pairs
        · rw [expanded.old _ (by omega)]
          exact inv.layout.main k old
        · rw [expanded.main k (by omega) below]
          exact .refl _
      block := fun k below => by
        by_cases old : k < pairs
        · rw [expanded.old _ (by omega)]
          exact inv.layout.block k old
        · rw [expanded.block k (by omega) below]
          exact .refl _ }
  · exact expanded.sockets
      ⟨inv.sockets.opened, inv.sockets.apart, inv.sockets.used, inv.sockets.inner⟩
      fun _ => inv.used_main
  · intro connection free
    rw [expanded.free, List.mem_append] at free
    rcases free with old | new
    · obtain ⟨k, below, rfl⟩ := inv.free_main old
      rw [expanded.old _ (by omega)]
      exact inv.unowned _ old
    · simp only [List.mem_map, List.mem_range'_1] at new
      obtain ⟨k, range, rfl⟩ := new
      rw [expanded.main k (by omega) (by omega)]
      exact ⟨rfl, rfl, rfl, rfl⟩
  · have grown := expanded.grown
    exact ⟨grown.le, grown.kernel, grown.servers, grown.upstreams, grown.delay, grown.old, grown.new⟩

theorem PoolInv.refill (inv : PoolInv self pairs inUse) :
    ∃ grown, PoolInv self.refill grown inUse ∧ Grown self self.refill pairs grown := by
  unfold CoCycle.refill
  split
  · exact inv.expand (by decide)
  · exact ⟨pairs, inv, .refl self pairs⟩

end

/-! ## Handing out -/

/-- What a call of `get_connection` leaves to its caller: with a connection or
    without one, nobody else's connection has changed. -/
structure HandsOut (before : CoCycle) (inUse : List Nat) (after : CoCycle) (result : Option Nat) :
    Prop where
  inv : ∃ grown, PoolInv after grown (result.toList ++ inUse)
  servers : after.serverControls = before.serverControls
  upstreams : after.upstreams = before.upstreams
  delay : after.delayConnections = before.delayConnections
  used : ∀ connection ∈ inUse, after.objects connection = before.objects connection
  new : ∀ connection ∈ result, connection ∉ inUse ∧ Unowned (after.objects connection)

section
variable {self : CoCycle} {pairs : Nat} {inUse : List Nat}

@[simp] theorem setTcp_pool (connection : Nat) (called : CoTCP × Kernel) :
    (self.setTcp connection called).connectionPool = self.connectionPool := rfl

theorem setTcp_fd (connection other : Nat) (called : CoTCP × Kernel) :
    (self.setTcp connection called).fd other =
      if other = connection then called.1.socketfd else self.fd other := by
  simp only [fd, setTcp, modifyObject, Function.update_apply]
  split <;> rfl

theorem setTcp_other {connection other : Nat} (called : CoTCP × Kernel) (apart : other ≠ connection) :
    (self.setTcp connection called).objects other = self.objects other := by
  simp [setTcp, modifyObject, apart]

theorem setTcp_same (connection : Nat) (called : CoTCP × Kernel) :
    (self.setTcp connection called).objects connection =
      { self.objects connection with coTcp := called.1 } := by
  simp [setTcp, modifyObject]

/-- The free connection of pair `j` gets a socket that no other connection has. -/
theorem PoolInv.setTcp (inv : PoolInv self pairs inUse) {j : Nat} {called : CoTCP × Kernel}
    (free : 2 * j ∈ self.connectionPool.freeConnections)
    (held : 0 ≤ called.1.socketfd → called.1.socketfd ∈ called.2.descriptors)
    (others : ∀ k < pairs, k ≠ j → 0 ≤ self.fd (2 * k) → self.fd (2 * k) ∈ called.2.descriptors)
    (distinct : ∀ k < pairs, k ≠ j → 0 ≤ called.1.socketfd → called.1.socketfd ≠ self.fd (2 * k)) :
    PoolInv (self.setTcp (2 * j) called) pairs inUse := by
  have place : ∀ other, SamePlace (self.objects other) ((self.setTcp (2 * j) called).objects other) := by
    intro other
    by_cases same : other = 2 * j
    · rw [same, setTcp_same]
      exact ⟨rfl, rfl, rfl, rfl⟩
    · rw [setTcp_other called same]
      exact .refl _
  have usedFd : ∀ connection ∈ inUse, (self.setTcp (2 * j) called).fd connection = self.fd connection := by
    intro connection used
    have apart : connection ≠ 2 * j := fun same => inv.free_not_used free (same ▸ used)
    rw [setTcp_fd, if_neg apart]
  refine ⟨⟨inv.layout.size, inv.layout.bounded, inv.layout.allocated, inv.layout.connections, ?_, ?_⟩,
    inv.shared, ⟨?_, ?_, ?_, ?_⟩, ?_⟩
  · exact fun k below => (inv.layout.main k below).trans (place _)
  · exact fun k below => (inv.layout.block k below).trans (place _)
  · intro k below nonneg
    rw [setTcp_fd] at *
    by_cases same : 2 * k = 2 * j
    · rw [if_pos same] at *
      exact held nonneg
    · rw [if_neg same] at *
      exact others k below (by omega) nonneg
  · intro i belowI k belowK differ nonneg
    rw [setTcp_fd] at *
    rw [setTcp_fd]
    by_cases sameI : 2 * i = 2 * j
    · rw [if_pos sameI] at *
      rw [if_neg (by omega)]
      exact distinct k belowK (by omega) nonneg
    · rw [if_neg sameI] at *
      by_cases sameK : 2 * k = 2 * j
      · rw [if_pos sameK]
        intro equal
        exact distinct i belowI (by omega) (equal ▸ nonneg) equal.symm
      · rw [if_neg sameK]
        exact inv.sockets.apart i belowI k belowK differ nonneg
  · intro connection used
    rw [usedFd connection used]
    exact inv.sockets.used connection used
  · intro socketFd
    rw [setTcp_pool, inv.sockets.inner]
    constructor
    · rintro ⟨connection, used, same⟩
      exact ⟨connection, used, (usedFd connection used).trans same⟩
    · rintro ⟨connection, used, same⟩
      exact ⟨connection, used, (usedFd connection used).symm.trans same⟩
  · intro connection freeOne
    have unowned := inv.unowned connection freeOne
    by_cases same : connection = 2 * j
    · subst same
      rw [setTcp_same]
      exact ⟨unowned.serverControl, unowned.upstream, unowned.requestCount, unowned.handlerCleanups⟩
    · rw [setTcp_other called same]
      exact unowned

/-- The front of the free list is handed out with the socket it holds. -/
theorem PoolInv.popFree (inv : PoolInv self pairs inUse) {connection : Nat} {rest : List Nat}
    (front : self.connectionPool.freeConnections = connection :: rest)
    (held : 0 ≤ self.fd connection) (now : Nat) :
    PoolInv (self.popFree connection (self.fd connection) now) pairs (connection :: inUse) := by
  have free : connection ∈ self.connectionPool.freeConnections := by simp [front]
  have objects : ∀ other, ∃ startTimestamp,
      (self.popFree connection (self.fd connection) now).objects other =
        { self.objects other with startTimestamp } := by
    intro other
    by_cases same : other = connection
    · refine ⟨now, ?_⟩
      simp [CoCycle.popFree, modifyObject, same]
    · refine ⟨(self.objects other).startTimestamp, ?_⟩
      simp [CoCycle.popFree, modifyObject, same]
  have fds : ∀ other, (self.popFree connection (self.fd connection) now).fd other = self.fd other := by
    intro other
    obtain ⟨_, same⟩ := objects other
    rw [fd, same, fd]
  have place : ∀ other, SamePlace (self.objects other)
      ((self.popFree connection (self.fd connection) now).objects other) := by
    intro other
    obtain ⟨_, same⟩ := objects other
    rw [same]
    exact ⟨rfl, rfl, rfl, rfl⟩
  have tail : (self.popFree connection (self.fd connection) now).connectionPool.freeConnections = rest := by
    simp [CoCycle.popFree, front]
  refine ⟨⟨inv.layout.size, inv.layout.bounded, inv.layout.allocated, inv.layout.connections, ?_, ?_⟩,
    ?_, ⟨?_, ?_, ?_, ?_⟩, ?_⟩
  · exact fun k below => (inv.layout.main k below).trans (place _)
  · exact fun k below => (inv.layout.block k below).trans (place _)
  · rw [Shared, tail]
    refine List.perm_middle.trans ?_
    rw [← List.cons_append, ← front]
    exact inv.shared
  · intro k below
    rw [fds]
    exact inv.sockets.opened k below
  · intro i belowI k belowK
    rw [fds, fds]
    exact inv.sockets.apart i belowI k belowK
  · intro other used
    rw [fds]
    rcases List.mem_cons.1 used with rfl | used
    · exact held
    · exact inv.sockets.used other used
  · intro socketFd
    simp only [CoCycle.popFree, Finset.mem_insert, inv.sockets.inner, List.mem_cons]
    constructor
    · rintro (rfl | ⟨other, used, same⟩)
      · exact ⟨connection, .inl rfl, fds connection⟩
      · exact ⟨other, .inr used, (fds other).trans same⟩
    · rintro ⟨other, rfl | used, same⟩
      · exact .inl ((fds other).symm.trans same).symm
      · exact .inr ⟨other, used, (fds other).symm.trans same⟩
  · intro other freeOne
    rw [tail] at freeOne
    have unowned := inv.unowned other (by rw [front]; exact List.mem_cons_of_mem _ freeOne)
    obtain ⟨_, same⟩ := objects other
    rw [same]
    exact ⟨unowned.serverControl, unowned.upstream, unowned.requestCount, unowned.handlerCleanups⟩

/-- The two ends of a `get_connection` that found a free connection. -/
theorem HandsOut.of_front {grown : Nat} {refilled : CoCycle} {connection : Nat} {rest : List Nat}
    {called : CoTCP × Kernel} (inv : PoolInv self pairs inUse) (more : Grown self refilled pairs grown)
    (refilledInv : PoolInv refilled grown inUse)
    (front : refilled.connectionPool.freeConnections = connection :: rest)
    (calledInv : PoolInv (refilled.setTcp connection called) grown inUse) :
    HandsOut self inUse (refilled.setTcp connection called) none ∧
      (0 ≤ called.1.socketfd → ∀ now, HandsOut self inUse
        ((refilled.setTcp connection called).popFree connection called.1.socketfd now)
        (some connection)) := by
  have free : connection ∈ refilled.connectionPool.freeConnections := by simp [front]
  have notUsed := refilledInv.free_not_used free
  have apart : ∀ other ∈ inUse, other ≠ connection := fun other used same => notUsed (same ▸ used)
  have old : ∀ other ∈ inUse, refilled.objects other = self.objects other := by
    intro other used
    obtain ⟨k, below, rfl⟩ := inv.used_main used
    exact more.old _ (by omega)
  have holds : (refilled.setTcp connection called).fd connection = called.1.socketfd := by
    simp [setTcp_fd]
  constructor
  · exact {
      inv := ⟨grown, calledInv⟩
      servers := more.servers
      upstreams := more.upstreams
      delay := more.delay
      used := fun other used => (setTcp_other called (apart other used)).trans (old other used)
      new := fun other none => nomatch none }
  · intro held now
    have popped := @PoolInv.popFree _ _ _ calledInv connection rest front (by rwa [holds]) now
    rw [holds] at popped
    refine {
      inv := ⟨grown, popped⟩
      servers := more.servers
      upstreams := more.upstreams
      delay := more.delay
      used := fun other used => ?_
      new := fun other some => ?_ }
    · simp only [CoCycle.popFree, modifyObject_other _ _ _ _ (apart other used)]
      exact (setTcp_other called (apart other used)).trans (old other used)
    · cases some
      have unowned := calledInv.unowned connection free
      refine ⟨notUsed, ?_⟩
      simp only [CoCycle.popFree, modifyObject_same]
      exact ⟨unowned.serverControl, unowned.upstream, unowned.requestCount, unowned.handlerCleanups⟩

/-- The pool is exhausted. -/
theorem HandsOut.of_empty {grown : Nat} {refilled : CoCycle} (inv : PoolInv self pairs inUse)
    (more : Grown self refilled pairs grown) (refilledInv : PoolInv refilled grown inUse) :
    HandsOut self inUse refilled none where
  inv := ⟨grown, refilledInv⟩
  servers := more.servers
  upstreams := more.upstreams
  delay := more.delay
  used other used := by
    obtain ⟨k, below, rfl⟩ := inv.used_main used
    exact more.old _ (by omega)
  new other none := nomatch none

/-- The socket calls of `get_connection(ip, port, listen)` keep the invariant. -/
theorem PoolInv.initIpport (inv : PoolInv self pairs inUse) {j : Nat} (below : j < pairs)
    (free : 2 * j ∈ self.connectionPool.freeConnections) {calls : OpenCalls} (ip : Bytes) (port : Nat)
    (fresh : calls.socket = -1 ∨ 0 ≤ calls.socket ∧ calls.socket ∉ self.kernel.descriptors) :
    PoolInv (self.setTcp (2 * j)
      ((self.objects (2 * j)).coTcp.initIpport self.kernel calls ip port).2) pairs inUse := by
  rcases (self.objects (2 * j)).coTcp.initIpport_cases self.kernel calls ip port with
    ⟨held, sameFd, sameKernel⟩ | ⟨-, -, -, noFd, sameKernel⟩ | ⟨-, opened, newFd, newKernel⟩
  · -- a descriptor left by a call that failed is used
    apply inv.setTcp free
    · rw [sameFd, sameKernel]
      exact inv.sockets.opened j below
    · rw [sameKernel]
      exact fun k belowK _ => inv.sockets.opened k belowK
    · rw [sameFd]
      exact fun k belowK differ => inv.sockets.apart j below k belowK (Ne.symm differ)
  · apply inv.setTcp free
    · rw [noFd]
      intro nonneg
      omega
    · rw [sameKernel]
      exact fun k belowK _ => inv.sockets.opened k belowK
    · rw [noFd]
      intro k _ _ nonneg
      omega
  · obtain ⟨nonneg, unused⟩ := fresh.resolve_left opened
    apply inv.setTcp free
    · rw [newFd, newKernel]
      exact fun _ => Finset.mem_insert_self _ _
    · rw [newKernel]
      exact fun k belowK _ holds => Finset.mem_insert_of_mem (inv.sockets.opened k belowK holds)
    · rw [newFd]
      intro k belowK _ _ same
      exact unused (same ▸ inv.sockets.opened k belowK (same ▸ nonneg))

/-- The socket calls of `get_connection(socketFd)` keep the invariant. -/
theorem PoolInv.initClientSocketfd (inv : PoolInv self pairs inUse) {j : Nat} (below : j < pairs)
    (free : 2 * j ∈ self.connectionPool.freeConnections) {calls : OpenCalls} {socketFd : Int}
    (opened : socketFd ∈ self.kernel.descriptors)
    (unheld : ∀ k < pairs, 0 ≤ self.fd (2 * k) → self.fd (2 * k) ≠ socketFd) :
    PoolInv (self.setTcp (2 * j)
      ((self.objects (2 * j)).coTcp.initClientSocketfd self.kernel calls socketFd).2) pairs inUse := by
  have kept : ∀ descriptor ∈ self.kernel.descriptors, descriptor ≠ self.fd (2 * j) →
      descriptor ∈ ((self.objects (2 * j)).coTcp.initClientSocketfd self.kernel calls
        socketFd).2.2.descriptors := by
    intro descriptor mem apart
    rw [CoTCP.initClientSocketfd_descriptors]
    split
    · exact Finset.mem_erase.2 ⟨apart, mem⟩
    · exact mem
  apply inv.setTcp free
  · rw [CoTCP.initClientSocketfd_socketfd]
    intro nonneg
    apply kept _ opened
    intro same
    exact unheld j below (same ▸ nonneg) same.symm
  · intro k belowK differ nonneg
    exact kept _ (inv.sockets.opened k belowK nonneg)
      (inv.sockets.apart k belowK j below differ nonneg)
  · rw [CoTCP.initClientSocketfd_socketfd]
    intro k belowK _ nonneg same
    exact unheld k belowK (same ▸ nonneg) same.symm

theorem PoolInv.getConnectionIp (inv : PoolInv self pairs inUse) (calls : OpenCalls) (now : Nat)
    (ip : Bytes) (port : Nat) (listen : Bool)
    (fresh : calls.socket = -1 ∨ 0 ≤ calls.socket ∧ calls.socket ∉ self.kernel.descriptors) :
    HandsOut self inUse (self.getConnectionIp calls now ip port listen).1
      (self.getConnectionIp calls now ip port listen).2 := by
  obtain ⟨grown, refilledInv, more⟩ := inv.refill
  unfold CoCycle.getConnectionIp
  dsimp only
  cases front : self.refill.connectionPool.freeConnections with
  | nil => exact .of_empty inv more refilledInv
  | cons connection rest =>
    obtain ⟨j, below, rfl⟩ := @PoolInv.free_main _ _ _ refilledInv connection (by simp [front])
    have calledInv := refilledInv.initIpport below (by simp [front]) ip port (more.kernel ▸ fresh)
    obtain ⟨failed, done⟩ := HandsOut.of_front inv more refilledInv front calledInv
    dsimp only
    split
    · exact failed
    rename_i ok
    split
    · exact failed
    split
    · exact failed
    · refine done ?_ now
      -- the call returned `CO_OK`, so there is a descriptor
      rcases (self.refill.objects (2 * j)).coTcp.initIpport_cases self.refill.kernel calls ip port with
        ⟨held, sameFd, -⟩ | ⟨-, -, failed, -⟩ | ⟨-, opened, newFd, -⟩
      · rw [sameFd]
        omega
      · exact absurd (by simpa using ok) (failed ▸ (by decide : coError ≠ coOk))
      · rw [newFd]
        exact (fresh.resolve_left opened).1

theorem PoolInv.getConnectionFd (inv : PoolInv self pairs inUse) (calls : OpenCalls) (now : Nat)
    {socketFd : Int} (nonneg : 0 ≤ socketFd) (opened : socketFd ∈ self.kernel.descriptors)
    (unheld : ∀ k < pairs, 0 ≤ self.fd (2 * k) → self.fd (2 * k) ≠ socketFd) :
    HandsOut self inUse (self.getConnectionFd calls now socketFd).1
      (self.getConnectionFd calls now socketFd).2 := by
  obtain ⟨grown, refilledInv, more⟩ := inv.refill
  unfold CoCycle.getConnectionFd
  dsimp only
  cases front : self.refill.connectionPool.freeConnections with
  | nil => exact .of_empty inv more refilledInv
  | cons connection rest =>
    obtain ⟨j, below, rfl⟩ := @PoolInv.free_main _ _ _ refilledInv connection (by simp [front])
    have unheldNow : ∀ k < grown, 0 ≤ self.refill.fd (2 * k) → self.refill.fd (2 * k) ≠ socketFd := by
      intro k belowK holds
      by_cases old : k < pairs
      · rw [fd, more.old _ (by omega)] at *
        exact unheld k old holds
      · rw [more.new k (by omega) belowK] at holds
        omega
    have calledInv := @PoolInv.initClientSocketfd _ _ _ refilledInv _ below (by simp [front]) calls _
      (more.kernel ▸ opened) unheldNow
    obtain ⟨failed, done⟩ := HandsOut.of_front inv more refilledInv front calledInv
    dsimp only
    split
    · exact failed
    split
    · exact failed
    · have holds := CoTCP.initClientSocketfd_socketfd (self.refill.objects (2 * j)).coTcp
        self.refill.kernel calls socketFd true
      have popped := done (by rw [holds]; exact nonneg) now
      rwa [holds] at popped

end


/-! ## Taking back -/

/-- What `free_connection` does to the things the pool relies on. -/
structure Released (before after : CoCycle) (connection blockConn : Nat) : Prop where
  size : after.connectionPool.curConnectionSize = before.connectionPool.curConnectionSize
  maxSize : after.connectionPool.maxConnectionSize = before.connectionPool.maxConnectionSize
  connections : after.connectionPool.connections = before.connectionPool.connections
  free : after.connectionPool.freeConnections = connection :: before.connectionPool.freeConnections
  innerSockets : after.connectionPool.innerSockets =
    before.connectionPool.innerSockets.erase (before.fd connection)
  allocated : after.allocated = before.allocated
  descriptors : after.kernel.descriptors = if before.fd connection > 0 then
    before.kernel.descriptors.erase (before.fd connection) else before.kernel.descriptors
  upstreams : after.upstreams = before.upstreams
  delay : after.delayConnections = before.delayConnections
  places : ∀ other, SamePlace (before.objects other) (after.objects other)
  closed : after.fd connection = if before.fd connection > 0 then -1 else before.fd connection
  unowned : Unowned (after.objects connection)
  noCleanup : (before.objects connection).handlerCleanups = [] →
    after.serverControls = before.serverControls
  cleanup : ∀ server, (before.objects connection).handlerCleanups = [.funcCleanup] →
    (before.objects connection).serverControl = some server →
    after.serverControls = (before.modifyServer server leave).serverControls
  others : ∀ other, other ≠ connection → other ≠ blockConn → ∃ events version readActive writeActive,
    after.objects other = registered events version readActive writeActive (before.objects other)

/-- The cleanups only change servers and what connections are registered for. -/
structure Cleaned (before after : CoCycle) : Prop where
  upstreams : after.upstreams = before.upstreams
  delay : after.delayConnections = before.delayConnections
  objects : ∀ other, ∃ events version readActive writeActive, after.objects other =
    registered events version readActive writeActive (before.objects other)

theorem Cleaned.refl (cycle : CoCycle) : Cleaned cycle cycle :=
  ⟨rfl, rfl, fun other => ⟨_, _, (cycle.objects other).readEvent.flagActive,
    (cycle.objects other).writeEvent.flagActive, rfl⟩⟩

theorem Cleaned.trans {a b c : CoCycle} (first : Cleaned a b) (second : Cleaned b c) : Cleaned a c where
  upstreams := second.upstreams.trans first.upstreams
  delay := second.delay.trans first.delay
  objects other := by
    obtain ⟨_, _, _, _, one⟩ := first.objects other
    obtain ⟨events, version, readActive, writeActive, two⟩ := second.objects other
    exact ⟨events, version, readActive, writeActive, by rw [two, one]; rfl⟩

theorem cleaned_modifyListening (self : CoCycle) (server : Nat) :
    Cleaned self (self.modifyListening server) := by
  rcases self.modifyListening_cases server with same | ⟨eventType, listening, changed⟩
  · rw [same]
    exact .refl self
  · rw [changed]
    have registering := modifyConnection_reregistered
      (self.modifyServer server fun control => { control with listening })
      (self.serverControls server).listenConnection eventType coEventRead
    exact ⟨registering.upstreams, registering.delay, registering.object⟩

theorem cleaned_runCleanup (self : CoCycle) (connection : Nat) (cleanup : Cleanup) :
    Cleaned self (runCleanup connection self cleanup) := by
  cases cleanup
  unfold runCleanup funcCleanup
  dsimp only
  split
  · exact .refl self
  · rename_i server _
    have counted : Cleaned self (self.modifyServer server fun control =>
        { control with curConnectionSize := control.curConnectionSize - 1 }) :=
      ⟨rfl, rfl, (Cleaned.refl self).objects⟩
    exact counted.trans (cleaned_modifyListening _ server)

theorem cleaned_cleanups (connection : Nat) (cleanups : List Cleanup) (self : CoCycle) :
    Cleaned self (cleanups.foldl (runCleanup connection) self) := by
  induction cleanups generalizing self with
  | nil => exact .refl self
  | cons cleanup rest ih => exact (cleaned_runCleanup self connection cleanup).trans (ih _)

/-- `reset` of a connection whose socket is closed already. -/
theorem reset_closed (self : CoCycle) {connection blockConn : Nat}
    (block : (self.objects connection).blockConn = some blockConn)
    (noSocket : ¬ self.fd connection > 0) :
    self.reset connection = ((self.modifyObject connection fun object =>
      object.resetRequest.resetOwner).modifyObject blockConn CoConnection.resetBlock) := by
  have closed : ¬ ((self.modifyObject connection CoConnection.resetRequest).objects
      connection).coTcp.socketfd > 0 := by
    rw [modifyObject_same]
    exact noSocket
  have twice : (self.modifyObject connection CoConnection.resetRequest).modifyObject connection
      CoConnection.resetOwner = self.modifyObject connection fun object =>
        object.resetRequest.resetOwner := by
    simp [modifyObject]
  simp only [reset, if_neg closed, Bool.false_eq_true, if_false, twice, resetBlock]
  have found : ((self.modifyObject connection fun object =>
      object.resetRequest.resetOwner).objects connection).blockConn = some blockConn := by
    rw [modifyObject_same]
    exact block
  rw [found]

/-- `if (socketFd > 0) tcp_close()` -/
structure Closed (before after : CoCycle) (connection : Nat) : Prop where
  pool : after.connectionPool = before.connectionPool
  allocated : after.allocated = before.allocated
  upstreams : after.upstreams = before.upstreams
  delay : after.delayConnections = before.delayConnections
  servers : after.serverControls = before.serverControls
  descriptors : after.kernel.descriptors = if before.fd connection > 0 then
    before.kernel.descriptors.erase (before.fd connection) else before.kernel.descriptors
  object : ∃ coTcp, after.objects connection = { before.objects connection with coTcp } ∧
    coTcp.socketfd = if before.fd connection > 0 then -1 else before.fd connection
  others : ∀ other, other ≠ connection → after.objects other = before.objects other

theorem closed_closeSocket (self : CoCycle) (connection : Nat) :
    Closed self (if self.fd connection > 0 then self.closeSocket connection else self) connection := by
  by_cases held : self.fd connection > 0
  · rw [if_pos held]
    refine ⟨rfl, rfl, rfl, rfl, rfl, ?_, ?_, ?_⟩
    · exact CoTCP.tcpClose_descriptors _ _
    · exact ⟨((self.objects connection).coTcp.tcpClose self.kernel).1,
        by simp [closeSocket, modifyObject], CoTCP.tcpClose_socketfd _ _⟩
    · intro other apart
      simp [closeSocket, modifyObject, apart]
  · rw [if_neg held]
    exact ⟨rfl, rfl, rfl, rfl, rfl, by rw [if_neg held], ⟨_, rfl, by rw [if_neg held]; rfl⟩, fun _ _ => rfl⟩

/-- `reset` of a connection whose socket is closed and whose cleanups have run. -/
structure WasReset (before after : CoCycle) (connection blockConn : Nat) : Prop where
  pool : after.connectionPool = before.connectionPool
  kernel : after.kernel = before.kernel
  allocated : after.allocated = before.allocated
  servers : after.serverControls = before.serverControls
  upstreams : after.upstreams = before.upstreams
  delay : after.delayConnections = before.delayConnections
  object : after.objects connection =
    { before.objects connection with handlerCleanups := [] }.resetRequest.resetOwner
  block : after.objects blockConn = (before.objects blockConn).resetBlock
  others : ∀ other, other ≠ connection → other ≠ blockConn → after.objects other = before.objects other

theorem reset_wasReset (self : CoCycle) {connection blockConn : Nat} (differ : blockConn ≠ connection)
    (block : (self.objects connection).blockConn = some blockConn)
    (noSocket : ¬ self.fd connection > 0) :
    WasReset self ((self.modifyObject connection fun object =>
      { object with handlerCleanups := [] }).reset connection) connection blockConn := by
  have found : ((self.modifyObject connection fun object =>
      { object with handlerCleanups := [] }).objects connection).blockConn = some blockConn := by
    rw [modifyObject_same]
    exact block
  have closed : ¬ (self.modifyObject connection fun object =>
      { object with handlerCleanups := [] }).fd connection > 0 := by
    rw [fd, modifyObject_same]
    exact noSocket
  rw [reset_closed _ found closed]
  refine ⟨rfl, rfl, rfl, rfl, rfl, rfl, ?_, ?_, ?_⟩
  · rw [modifyObject_other _ _ _ _ differ.symm, modifyObject_same, modifyObject_same]
  · rw [modifyObject_same, modifyObject_other _ _ _ _ differ, modifyObject_other _ _ _ _ differ]
  · intro other apart apartBlock
    rw [modifyObject_other _ _ _ _ apartBlock, modifyObject_other _ _ _ _ apart,
      modifyObject_other _ _ _ _ apart]

theorem WasReset.places {before after : CoCycle} {connection blockConn : Nat}
    (reset : WasReset before after connection blockConn) (other : Nat) :
    SamePlace (before.objects other) (after.objects other) := by
  by_cases same : other = connection
  · rw [same, reset.object]
    exact ⟨rfl, rfl, rfl, rfl⟩
  · by_cases sameBlock : other = blockConn
    · rw [sameBlock, reset.block]
      exact samePlace_resetBlock _
    · rw [reset.others other same sameBlock]
      exact .refl _

/-- A connection of a server has one cleanup, which leaves the server; any other has none. -/
theorem cleanups_servers (self : CoCycle) (connection : Nat) :
    let after := (self.objects connection).handlerCleanups.foldl (runCleanup connection) self
    ((self.objects connection).handlerCleanups = [] → after.serverControls = self.serverControls) ∧
    ∀ server, (self.objects connection).handlerCleanups = [.funcCleanup] →
      (self.objects connection).serverControl = some server →
      after.serverControls = (self.modifyServer server leave).serverControls := by
  constructor
  · intro none
    rw [none]
    rfl
  · intro server one owner
    rw [one]
    exact funcCleanup_servers _ owner

theorem freeConnection_released (self : CoCycle) {connection blockConn : Nat}
    (differ : blockConn ≠ connection)
    (block : (self.objects connection).blockConn = some blockConn) :
    Released self (self.freeConnection connection) connection blockConn := by
  unfold freeConnection
  dsimp only
  -- the states after each of the five steps
  generalize step0 : ({ self with connectionPool := { self.connectionPool with
    innerSockets := self.connectionPool.innerSockets.erase
      (self.objects connection).coTcp.socketfd } } : CoCycle) = erased
  have erasedObjects : erased.objects = self.objects := by rw [← step0]
  have erasedKernel : erased.kernel = self.kernel := by rw [← step0]
  have sameFd : erased.fd connection = self.fd connection := by rw [fd, erasedObjects, fd]
  have closed := closed_closeSocket erased connection
  change Released self { CoCycle.reset _ connection with connectionPool := _ } connection blockConn
  generalize step1 : (if (self.objects connection).coTcp.socketfd > 0 then erased.closeSocket connection
    else erased) = shut
  have sameStep : (if erased.fd connection > 0 then erased.closeSocket connection else erased) = shut := by
    rw [sameFd]
    exact step1
  rw [sameStep] at closed
  obtain ⟨coTcp, object, socket⟩ := closed.object
  rw [erasedObjects] at object
  have sameServers : shut.serverControls = self.serverControls := by rw [closed.servers, ← step0]
  obtain ⟨noCleanup, cleanup⟩ := cleanups_servers shut connection
  generalize cleanups : (shut.objects connection).handlerCleanups = list at noCleanup cleanup
  rw [object] at cleanups cleanup
  have cleaned := cleaned_cleanups connection list shut
  have keeps := keepsPool_cleanups [] connection list shut
  generalize list.foldl (runCleanup connection) shut = clean at cleaned keeps noCleanup cleanup
  obtain ⟨events, version, readActive, writeActive, cleanObject⟩ := cleaned.objects connection
  rw [object] at cleanObject
  -- `reset` finds no socket and the block connection of the pair
  have cleanBlock : (clean.objects connection).blockConn = some blockConn := by
    rw [cleanObject]
    simpa [registered] using block
  have noSocket : ¬ clean.fd connection > 0 := by
    rw [fd, cleanObject]
    simp only [registered, socket]
    split <;> omega
  have pool : clean.connectionPool = { self.connectionPool with
      innerSockets := self.connectionPool.innerSockets.erase (self.fd connection) } := by
    rw [keeps.pool, closed.pool, ← step0]
    rfl
  -- nobody moves in the pool
  have place : ∀ other, SamePlace (self.objects other) (clean.objects other) := by
    intro other
    refine SamePlace.trans ?_ (keeps.places other)
    by_cases same : other = connection
    · rw [same, object]
      exact ⟨rfl, rfl, rfl, rfl⟩
    · rw [closed.others other same, erasedObjects]
      exact .refl _
  have reset := reset_wasReset clean differ cleanBlock noSocket
  generalize (clean.modifyObject connection fun object =>
    { object with handlerCleanups := [] }).reset connection = final at *
  exact {
    size := by rw [reset.pool, pool]
    maxSize := by rw [reset.pool, pool]
    connections := by rw [reset.pool, pool]
    free := by rw [reset.pool, pool]
    innerSockets := by rw [reset.pool, pool]
    allocated := by
      show final.allocated = _
      rw [reset.allocated, keeps.allocated, closed.allocated, ← step0]
    descriptors := by
      show final.kernel.descriptors = _
      rw [reset.kernel, keeps.descriptors, closed.descriptors, sameFd, erasedKernel]
    upstreams := by
      show final.upstreams = _
      rw [reset.upstreams, cleaned.upstreams, closed.upstreams, ← step0]
    delay := by
      show final.delayConnections = _
      rw [reset.delay, cleaned.delay, closed.delay, ← step0]
    places := fun other => (place other).trans (reset.places other)
    closed := by
      show (final.objects connection).coTcp.socketfd = _
      rw [reset.object, cleanObject, ← sameFd]
      exact socket
    unowned := by
      show Unowned (final.objects connection)
      rw [reset.object]
      exact ⟨rfl, rfl, rfl, rfl⟩
    noCleanup := fun none => by
      show final.serverControls = _
      rw [reset.servers, noCleanup (cleanups ▸ none), sameServers]
    cleanup := fun server one owner => by
      show final.serverControls = _
      rw [reset.servers, cleanup server (cleanups ▸ one) owner, modifyServer, modifyServer, sameServers]
    others := fun other apart apartBlock => by
      show ∃ _ _ _ _, final.objects other = _
      rw [reset.others other apart apartBlock]
      have same := cleaned.objects other
      rwa [closed.others other apart, erasedObjects] at same }

section
variable {self after : CoCycle} {pairs : Nat} {inUse : List Nat} {k : Nat}

theorem Released.fd_other (released : Released self after (2 * k) (2 * k + 1)) {j : Nat} (differ : j ≠ k) :
    after.fd (2 * j) = self.fd (2 * j) := by
  obtain ⟨_, _, _, _, same⟩ := released.others (2 * j) (by omega) (by omega)
  rw [fd, same, fd]
  rfl

/-- The connection that is given back goes from the connections in use to the
    front of the free list. -/
theorem PoolInv.released (inv : PoolInv self pairs inUse) (used : 2 * k ∈ inUse) (below : k < pairs)
    (released : Released self after (2 * k) (2 * k + 1)) : PoolInv after pairs (inUse.erase (2 * k)) := by
  have nodup := List.nodup_append.1 (inv.shared.nodup_iff.2 (nodup_mains pairs))
  have others : ∀ connection ∈ inUse.erase (2 * k), ∃ j < pairs, j ≠ k ∧ connection = 2 * j := by
    intro connection mem
    obtain ⟨j, belowJ, rfl⟩ := inv.used_main (List.mem_of_mem_erase mem)
    refine ⟨j, belowJ, ?_, rfl⟩
    rintro rfl
    exact nodup.2.1.not_mem_erase mem
  refine ⟨⟨?_, ?_, ?_, ?_, ?_, ?_⟩, ?_, ⟨?_, ?_, ?_, ?_⟩, ?_⟩
  · rw [released.size, inv.layout.size]
  · rw [released.size, released.maxSize]
    exact inv.layout.bounded
  · rw [released.allocated, inv.layout.allocated]
  · rw [released.connections, inv.layout.connections]
  · exact fun j belowJ => (inv.layout.main j belowJ).trans (released.places _)
  · exact fun j belowJ => (inv.layout.block j belowJ).trans (released.places _)
  · rw [Shared, released.free]
    refine List.Perm.trans ?_ inv.shared
    exact List.perm_middle.symm.trans ((List.perm_cons_erase used).symm.append_left _)
  · intro j belowJ nonneg
    rw [released.descriptors]
    by_cases same : j = k
    · subst same
      rw [released.closed] at *
      split at nonneg
      · omega
      · rename_i notHeld
        rw [if_neg notHeld, if_neg notHeld]
        exact inv.sockets.opened j belowJ nonneg
    · rw [released.fd_other same] at *
      have opened := inv.sockets.opened j belowJ nonneg
      split
      · exact Finset.mem_erase.2 ⟨inv.sockets.apart j belowJ k below same nonneg, opened⟩
      · exact opened
  · intro i belowI j belowJ differ nonneg
    by_cases sameI : i = k
    · subst sameI
      rw [released.fd_other differ.symm]
      rw [released.closed] at *
      split at nonneg
      · omega
      · rename_i notHeld
        rw [if_neg notHeld]
        exact inv.sockets.apart i belowI j belowJ differ nonneg
    · rw [released.fd_other sameI] at *
      by_cases sameJ : j = k
      · subst sameJ
        rw [released.closed]
        split
        · omega
        · exact inv.sockets.apart i belowI j belowJ differ nonneg
      · rw [released.fd_other sameJ]
        exact inv.sockets.apart i belowI j belowJ differ nonneg
  · intro connection mem
    obtain ⟨j, -, differ, rfl⟩ := others connection mem
    rw [released.fd_other differ]
    exact inv.sockets.used _ (List.mem_of_mem_erase mem)
  · intro socketFd
    rw [released.innerSockets, Finset.mem_erase, inv.sockets.inner]
    constructor
    · rintro ⟨notFreed, connection, mem, same⟩
      have kept : connection ∈ inUse.erase (2 * k) := by
        refine (List.mem_erase_of_ne ?_).2 mem
        rintro rfl
        exact notFreed same.symm
      obtain ⟨j, -, differ, rfl⟩ := others connection kept
      exact ⟨_, kept, (released.fd_other differ).trans same⟩
    · rintro ⟨connection, mem, same⟩
      obtain ⟨j, belowJ, differ, rfl⟩ := others connection mem
      have usedJ := List.mem_of_mem_erase mem
      rw [released.fd_other differ] at same
      refine ⟨?_, _, usedJ, same⟩
      rw [← same]
      exact inv.sockets.apart j belowJ k below differ (inv.sockets.used _ usedJ)
  · intro connection free
    rw [released.free, List.mem_cons] at free
    rcases free with rfl | free
    · exact released.unowned
    · obtain ⟨j, belowJ, rfl⟩ := inv.free_main free
      have differ : j ≠ k := by
        rintro rfl
        exact inv.free_not_used free used
      obtain ⟨_, _, _, _, same⟩ := released.others (2 * j) (by omega) (by omega)
      have unowned := inv.unowned _ free
      rw [same]
      exact ⟨unowned.serverControl, unowned.upstream, unowned.requestCount, unowned.handlerCleanups⟩

/-- `free_connection` on a connection in use. -/
theorem PoolInv.freeConnection (inv : PoolInv self pairs inUse) {connection : Nat}
    (used : connection ∈ inUse) :
    PoolInv (self.freeConnection connection) pairs (inUse.erase connection) ∧
      Released self (self.freeConnection connection) connection (connection + 1) := by
  obtain ⟨k, below, rfl⟩ := inv.used_main used
  have block : (self.objects (2 * k)).blockConn = some (2 * k + 1) := (inv.layout.main k below).blockConn
  have released := self.freeConnection_released (by omega) block
  exact ⟨inv.released used below released, released⟩

end

end CoCycle

end CoServer
