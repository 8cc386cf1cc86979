import CoServer.Core.PoolInvariant

/-! # Every run of the connection pool keeps it sound

The kernel chooses the descriptors: what `socket` and `accept` return is not
open at that time. -/

namespace CoServer

namespace CoCycle

/-! ## What a sound pool is -/

/-- The element at an even index of `m_connections`. -/
def IsMain (cycle : CoCycle) (connection : Nat) : Prop :=
  ∃ i, cycle.connectionPool.connections[2 * i]? = some (some connection)

structure PoolSound (cycle : CoCycle) (inUse : List Nat) : Prop where
  length : (cycle.connectionPool.connections.length : Int) = 2 * cycle.connectionPool.curConnectionSize
  bounded : cycle.connectionPool.curConnectionSize ≤ cycle.connectionPool.maxConnectionSize
  elements : ∀ i < cycle.connectionPool.connections.length, ∃ connection,
    cycle.connectionPool.connections[i]? = some (some connection) ∧
      (cycle.objects connection).connId = i + 1
  accordId : ∀ connection, some connection ∈ cycle.connectionPool.connections →
    cycle.getConnectionAccordId (cycle.objects connection).connId = some connection
  paired : ∀ i, 2 * i < cycle.connectionPool.connections.length → ∃ connection blockConn,
    cycle.connectionPool.connections[2 * i]? = some (some connection) ∧
      cycle.connectionPool.connections[2 * i + 1]? = some (some blockConn) ∧
      (cycle.objects connection).flagBlockConn = false ∧
      (cycle.objects connection).blockConn = some blockConn ∧
      (cycle.objects blockConn).flagBlockConn = true ∧
      (cycle.objects blockConn).blockOriginConn = some connection
  freeNodup : cycle.connectionPool.freeConnections.Nodup
  usedNodup : inUse.Nodup
  partition : ∀ connection, cycle.IsMain connection ↔
    Xor (connection ∈ cycle.connectionPool.freeConnections) (connection ∈ inUse)
  innerSockets : ∀ socketFd, socketFd ∈ cycle.connectionPool.innerSockets ↔
    ∃ connection ∈ inUse, cycle.fd connection = socketFd

theorem Layout.element {cycle : CoCycle} {pairs : Nat} (layout : Layout cycle pairs) (i : Nat) :
    cycle.connectionPool.connections[i]? = if i < 2 * pairs then some (some i) else none := by
  rw [layout.connections, List.getElem?_map]
  split
  · rename_i below
    rw [List.getElem?_range below]
    rfl
  · rename_i above
    rw [List.getElem?_eq_none (by simpa using above)]
    rfl

theorem Layout.connId {cycle : CoCycle} {pairs : Nat} (layout : Layout cycle pairs) {i : Nat}
    (below : i < 2 * pairs) : (cycle.objects i).connId = i + 1 := by
  obtain ⟨k, rfl | rfl⟩ := Nat.even_or_odd' i
  · exact (layout.main k (by omega)).connId
  · exact (layout.block k (by omega)).connId

theorem Layout.isMain {cycle : CoCycle} {pairs : Nat} (layout : Layout cycle pairs) (connection : Nat) :
    cycle.IsMain connection ↔ connection ∈ mains pairs := by
  rw [mem_mains]
  constructor
  · rintro ⟨i, found⟩
    rw [layout.element] at found
    split at found
    · refine ⟨i, by omega, ?_⟩
      simpa [eq_comm] using found
    · simp at found
  · rintro ⟨k, below, rfl⟩
    exact ⟨k, by rw [layout.element, if_pos (by omega)]⟩

theorem PoolInv.sound {cycle : CoCycle} {pairs : Nat} {inUse : List Nat}
    (inv : PoolInv cycle pairs inUse) : PoolSound cycle inUse := by
  have layout := inv.layout
  have length : cycle.connectionPool.connections.length = 2 * pairs := by
    rw [layout.connections, List.length_map, List.length_range]
  have nodup := List.nodup_append.1 (inv.shared.nodup_iff.2 (nodup_mains pairs))
  exact {
    length := by
      rw [length, layout.size]
      omega
    bounded := layout.bounded
    elements := fun i below => by
      rw [length] at below
      exact ⟨i, by rw [layout.element, if_pos below], layout.connId below⟩
    accordId := fun connection mem => by
      rw [layout.connections, List.mem_map] at mem
      obtain ⟨i, below, same⟩ := mem
      cases same
      rw [List.mem_range] at below
      rw [layout.connId below, getConnectionAccordId, if_neg (by omega), Nat.add_sub_cancel,
        layout.element, if_pos below]
      rfl
    paired := fun i below => by
      rw [length] at below
      have main := layout.main i (by omega)
      have block := layout.block i (by omega)
      exact ⟨2 * i, 2 * i + 1, by rw [layout.element, if_pos (by omega)],
        by rw [layout.element, if_pos (by omega)], main.flagBlockConn, main.blockConn,
        block.flagBlockConn, block.blockOriginConn⟩
    freeNodup := nodup.1
    usedNodup := nodup.2.1
    partition := fun connection => by
      rw [layout.isMain, ← inv.shared.mem_iff, List.mem_append, Xor]
      constructor
      · rintro (free | used)
        · exact .inl ⟨free, fun used => nodup.2.2 _ free _ used rfl⟩
        · exact .inr ⟨used, fun free => nodup.2.2 _ free _ used rfl⟩
      · rintro (⟨free, -⟩ | ⟨used, -⟩)
        · exact .inl free
        · exact .inr used
    innerSockets := inv.sockets.inner }

/-! ## Runs -/

/-- The pool and the connections it handed out. -/
structure PoolRun where
  cycle : CoCycle
  inUse : List Nat

inductive PoolEvent where
  | getConnectionIp (calls : OpenCalls) (now : Nat) (ip : Bytes) (port : Nat) (listen : Bool)
  | getConnectionFd (calls : OpenCalls) (now : Nat) (socketFd : Int)
  | freeConnection (connection : Nat)

/-- A descriptor the kernel may return: it belongs to no open socket. -/
def Unopened (kernel : Kernel) (socketFd : Int) : Prop :=
  0 ≤ socketFd ∧ socketFd ∉ kernel.descriptors

instance (kernel : Kernel) (socketFd : Int) : Decidable (Unopened kernel socketFd) :=
  inferInstanceAs (Decidable (_ ∧ _))

def PoolRun.handOut (self : PoolRun) (outcome : CoCycle × Option Nat) : PoolRun :=
  { cycle := outcome.1, inUse := outcome.2.toList ++ self.inUse }

def PoolRun.step (self : PoolRun) : PoolEvent → Option PoolRun
  | .getConnectionIp calls now ip port listen =>
    if calls.socket = -1 ∨ Unopened self.cycle.kernel calls.socket then
      some (self.handOut (self.cycle.getConnectionIp calls now ip port listen))
    else none
  | .getConnectionFd calls now socketFd =>
    -- the descriptor comes from an `accept` or a `socketpair` just before
    if Unopened self.cycle.kernel socketFd then
      let cycle := { self.cycle with kernel := self.cycle.kernel.open socketFd }
      some (self.handOut (cycle.getConnectionFd calls now socketFd))
    else none
  | .freeConnection connection =>
    if connection ∈ self.inUse then
      some { cycle := self.cycle.freeConnection connection, inUse := self.inUse.erase connection }
    else none

/-- A pool that `init` has not been called on. -/
def fresh (kernel : Kernel) (serverControls : Nat → CoServerControl) (upstreams : Nat → CoUpstream) :
    CoCycle :=
  { kernel, serverControls, upstreams }

theorem initPool_inv (kernel : Kernel) (serverControls : Nat → CoServerControl)
    (upstreams : Nat → CoUpstream) {minConnectionSize maxConnectionSize : Int}
    (small : minConnectionSize ≤ 2147483644)
    (started : ((fresh kernel serverControls upstreams).initPool minConnectionSize
      maxConnectionSize).1 = coOk) :
    ∃ pairs, PoolInv ((fresh kernel serverControls upstreams).initPool minConnectionSize
      maxConnectionSize).2 pairs [] ∧ Grown (fresh kernel serverControls upstreams)
        ((fresh kernel serverControls upstreams).initPool minConnectionSize
          maxConnectionSize).2 0 pairs := by
  have sized : int32 ((if minConnectionSize < 4 then 4 else minConnectionSize) + 3) =
      (if minConnectionSize < 4 then 4 else minConnectionSize) + 3 :=
    int32_of_bounds (by split <;> omega) (by split <;> omega)
  have positive : 0 ≤ (if minConnectionSize < 4 then 4 else minConnectionSize) + 3 := by
    split <;> omega
  unfold initPool at *
  dsimp only at *
  rw [sized] at started ⊢
  generalize (if minConnectionSize < 4 then 4 else minConnectionSize) = min at *
  generalize (if maxConnectionSize > 65535 then 65535 else maxConnectionSize) = max at *
  have room : 0 < max + 3 := by
    by_contra full
    rw [expandConnections_full _ _ (show (0 : Int) ≥ max + 3 by omega)] at started
    cases (show coError = coOk from started)
  have empty : PoolInv { fresh kernel serverControls upstreams with connectionPool :=
      { (fresh kernel serverControls upstreams).connectionPool with
        minConnectionSize := min, maxConnectionSize := max + 3 } } 0 [] := by
    refine ⟨⟨rfl, show (0 : Int) ≤ max + 3 by omega, rfl, rfl, ?_, ?_⟩, List.Perm.refl _,
      ⟨?_, ?_, ?_, ?_⟩, ?_⟩
    · exact fun k below => absurd below (by omega)
    · exact fun k below => absurd below (by omega)
    · exact fun k below => absurd below (by omega)
    · exact fun j below => absurd below (by omega)
    · exact fun connection mem => nomatch mem
    · exact fun socketFd => ⟨fun mem => absurd mem (Finset.notMem_empty _), fun ⟨_, mem, _⟩ => nomatch mem⟩
    · exact fun connection mem => nomatch mem
  obtain ⟨pairs, inv, grown⟩ := empty.expand positive
  exact ⟨pairs, inv, grown.le, grown.kernel, grown.servers, grown.upstreams, grown.delay, grown.old,
    grown.new⟩

/-- A descriptor that is not open is not held by a connection. -/
theorem PoolInv.unheld {cycle : CoCycle} {pairs : Nat} {inUse : List Nat}
    (inv : PoolInv cycle pairs inUse) {socketFd : Int} (unopened : socketFd ∉ cycle.kernel.descriptors)
    (k : Nat) (below : k < pairs) (held : 0 ≤ cycle.fd (2 * k)) : cycle.fd (2 * k) ≠ socketFd := by
  rintro rfl
  exact unopened (inv.sockets.opened k below held)

/-- Opening one more descriptor does not disturb the pool. -/
theorem PoolInv.open {cycle : CoCycle} {pairs : Nat} {inUse : List Nat}
    (inv : PoolInv cycle pairs inUse) (socketFd : Int) :
    PoolInv { cycle with kernel := cycle.kernel.open socketFd } pairs inUse where
  layout := ⟨inv.layout.size, inv.layout.bounded, inv.layout.allocated, inv.layout.connections,
    inv.layout.main, inv.layout.block⟩
  shared := inv.shared
  sockets := ⟨fun k below held => Finset.mem_insert_of_mem (inv.sockets.opened k below held),
    inv.sockets.apart, inv.sockets.used, inv.sockets.inner⟩
  unowned := inv.unowned

/-- `get_connection(socketFd)` on a descriptor that was opened for it. -/
theorem PoolInv.getConnectionNew {cycle : CoCycle} {pairs : Nat} {inUse : List Nat}
    (inv : PoolInv cycle pairs inUse) (calls : OpenCalls) (now : Nat) {socketFd : Int}
    (unopened : Unopened cycle.kernel socketFd) :
    HandsOut { cycle with kernel := cycle.kernel.open socketFd } inUse
      ({ cycle with kernel := cycle.kernel.open socketFd }.getConnectionFd calls now socketFd).1
      ({ cycle with kernel := cycle.kernel.open socketFd }.getConnectionFd calls now socketFd).2 :=
  (inv.open socketFd).getConnectionFd calls now unopened.1 (Finset.mem_insert_self _ _)
    (inv.unheld unopened.2)

theorem PoolRun.step_inv {self next : PoolRun} {event : PoolEvent}
    (inv : ∃ pairs, PoolInv self.cycle pairs self.inUse) (stepped : self.step event = some next) :
    ∃ pairs, PoolInv next.cycle pairs next.inUse := by
  obtain ⟨pairs, inv⟩ := inv
  cases event with
  | getConnectionIp calls now ip port listen =>
    obtain ⟨unopened, same⟩ := Option.ite_none_right_eq_some.1 stepped
    cases same
    exact (inv.getConnectionIp calls now ip port listen unopened).inv
  | getConnectionFd calls now socketFd =>
    obtain ⟨unopened, same⟩ := Option.ite_none_right_eq_some.1 stepped
    cases same
    exact (inv.getConnectionNew calls now unopened).inv
  | freeConnection connection =>
    obtain ⟨used, same⟩ := Option.ite_none_right_eq_some.1 stepped
    cases same
    exact ⟨pairs, (inv.freeConnection used).1⟩

/-- From `init` on, every run of the pool keeps it sound.  `run_server_thread`
    passes a quarter of the maximum as the minimum and gives up when `init` fails. -/
theorem pool_sound (kernel : Kernel) (serverControls : Nat → CoServerControl)
    (upstreams : Nat → CoUpstream) {minConnectionSize maxConnectionSize : Int}
    (small : minConnectionSize ≤ 2147483644)
    (started : ((fresh kernel serverControls upstreams).initPool minConnectionSize
      maxConnectionSize).1 = coOk)
    {events : List PoolEvent} {final : PoolRun}
    (ran : events.foldlM PoolRun.step ⟨((fresh kernel serverControls upstreams).initPool
      minConnectionSize maxConnectionSize).2, []⟩ = some final) :
    PoolSound final.cycle final.inUse := by
  obtain ⟨pairs, start, -⟩ := initPool_inv kernel serverControls upstreams small started
  obtain ⟨pairs, inv⟩ := Lib.run_keeps PoolRun.step
    (fun run => ∃ pairs, PoolInv run.cycle pairs run.inUse) (fun _ _ _ => PoolRun.step_inv)
    ⟨pairs, start⟩ ran
  exact inv.sound

/-- Two connections are handed out after `bind` failed for one, and one of them is
    given back. -/
def twoHandedOut : List PoolEvent := [
  .getConnectionIp { socket := 5, bind := -1 } 1 [] 80 true,
  .getConnectionIp { socket := -1 } 2 [] 80 false,
  .getConnectionFd { socket := -1 } 3 7,
  .freeConnection 0]

theorem pool_sound_two : ∃ final, twoHandedOut.foldlM PoolRun.step
      ⟨((fresh {} (fun _ => {}) fun _ => {}).initPool 1 8).2, []⟩ = some final ∧
    final.inUse = [2] ∧ PoolSound final.cycle final.inUse := by
  have defined : (twoHandedOut.foldlM PoolRun.step
      ⟨((fresh {} (fun _ => {}) fun _ => {}).initPool 1 8).2, []⟩).map PoolRun.inUse = some [2] := by
    decide +kernel
  have started : ((fresh {} (fun _ => {}) fun _ => {}).initPool 1 8).1 = coOk := by decide +kernel
  obtain ⟨final, ran, used⟩ := Option.map_eq_some_iff.1 defined
  exact ⟨final, ran, used, pool_sound {} (fun _ => {}) (fun _ => {}) (by decide) started ran⟩

end CoCycle

end CoServer
