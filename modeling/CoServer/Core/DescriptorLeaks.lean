import CoServer.Core.AcceptLimit

/-! # Descriptors of calls that fail

`get_connection` works on the front of the free list, and takes the connection off the
list when all calls have succeeded.  A call that fails behind `socket` or `accept` leaves
its descriptor open: in the free connection, or in nobody's hands where the pool is
exhausted. -/

namespace CoServer

/-- The descriptor that `socket` returns. -/
def OpenCalls.created (calls : OpenCalls) : Option Int :=
  if calls.socket = -1 then none else some calls.socket

namespace CoCycle

/-! ## What is left -/

/-- No free connection holds an open descriptor. -/
def NoneHeld (self : CoCycle) : Prop :=
  ∀ connection ∈ self.connectionPool.freeConnections,
    0 ≤ self.fd connection → self.fd connection ∉ self.kernel.descriptors

/-- What is left of a call of `get_connection` that a descriptor was opened for: a failed
    one has closed it, no free connection holds one, and the connection that is handed out
    works on the descriptor of this call. -/
structure LeavesNone (descriptor : Option Int) (result : Option Nat) (after : CoCycle) : Prop where
  closed : result = none → ∀ socketFd, descriptor = some socketFd →
    socketFd ∉ after.kernel.descriptors
  unheld : after.NoneHeld
  own : ∀ connection, result = some connection → descriptor = some (after.fd connection)

/-- `setsockopt` is not called, or fails: the time-outs are tested the wrong way round. -/
def TimeoutsPass (coTcp : CoTCP) (calls : OpenCalls) : Prop :=
  (coTcp.sndTimeoutMs > 0 → CoTCP.setTimeoutMs calls.setSndTimeout ≠ coOk) ∧
    (coTcp.rcvTimeoutMs > 0 → CoTCP.setTimeoutMs calls.setRcvTimeout ≠ coOk)

/-- Where there is a free connection and `socket` returns a descriptor, every later call of
    `get_connection(ip, port, listen)` succeeds. -/
def OpensIp (self : CoCycle) (calls : OpenCalls) (port : Nat) (listen : Bool) : Prop :=
  ∀ connection ∈ self.refill.connectionPool.freeConnections.head?, calls.socket ≠ -1 →
    TimeoutsPass (self.refill.objects connection).coTcp calls ∧ CoTCP.setNonblock calls = coOk ∧
      (listen = true → CoTCP.setReused calls = coOk ∧ port ≠ 0 ∧ calls.bind ≠ -1 ∧ 0 ≤ calls.listen)

/-- There is a free connection, and the descriptor can be made non-blocking. -/
def OpensFd (self : CoCycle) (calls : OpenCalls) : Prop :=
  self.refill.connectionPool.freeConnections ≠ [] ∧ CoTCP.setNonblock calls = coOk

instance (self : CoCycle) (calls : OpenCalls) (port : Nat) (listen : Bool) :
    Decidable (self.OpensIp calls port listen) :=
  inferInstanceAs (Decidable (∀ connection ∈ _, _ → (_ ∧ _) ∧ _ ∧ (_ → _ ∧ _ ∧ _ ∧ _)))

instance (self : CoCycle) (calls : OpenCalls) : Decidable (self.OpensFd calls) :=
  inferInstanceAs (Decidable (_ ∧ _))

section
variable {self after : CoCycle} {pairs : Nat} {inUse : List Nat}

theorem NoneHeld.fd_neg (none : self.NoneHeld) (inv : PoolInv self pairs inUse) {connection : Nat}
    (free : connection ∈ self.connectionPool.freeConnections) : self.fd connection < 0 := by
  obtain ⟨k, below, rfl⟩ := inv.free_main free
  by_contra held
  exact none _ free (Int.not_lt.1 held) (inv.sockets.opened k below (Int.not_lt.1 held))

theorem noneHeld_of_neg (neg : ∀ connection ∈ self.connectionPool.freeConnections, self.fd connection < 0) :
    self.NoneHeld :=
  fun connection free held => absurd held (Int.not_le.2 (neg connection free))

/-- New connections have no descriptor. -/
theorem NoneHeld.refill (none : self.NoneHeld) (inv : PoolInv self pairs inUse) :
    self.refill.NoneHeld := by
  obtain ⟨grown, refilledInv, more⟩ := inv.refill
  apply noneHeld_of_neg
  intro connection free
  obtain ⟨k, below, rfl⟩ := refilledInv.free_main free
  by_cases old : k < pairs
  · have notUsed := refilledInv.free_not_used free
    have wasFree : 2 * k ∈ self.connectionPool.freeConnections :=
      (List.mem_append.1 (inv.shared.mem_iff.2 (mem_mains.2 ⟨k, old, rfl⟩))).resolve_right notUsed
    rw [fd, more.old _ (by omega)]
    exact none.fd_neg inv wasFree
  · rw [more.new k (by omega) below]
    decide

/-! ## The calls -/

theorem initIpport_ok {coTcp : CoTCP} (kernel : Kernel) {calls : OpenCalls} (ip : Bytes) (port : Nat)
    (noSocket : ¬ coTcp.socketfd > 0) (created : calls.socket ≠ -1) :
    (coTcp.initIpport kernel calls ip port).1 = coOk ↔ TimeoutsPass coTcp calls := by
  simp only [CoTCP.initIpport, if_neg noSocket, if_neg created, TimeoutsPass]
  split
  · rename_i snd
    simp [snd, show coError ≠ coOk by decide]
  · rename_i snd
    split
    · rename_i rcv
      simp [rcv, show coError ≠ coOk by decide]
    · rename_i rcv
      exact iff_of_true rfl ⟨fun some ok => snd ⟨some, ok⟩, fun some ok => rcv ⟨some, ok⟩⟩

theorem initIpport_port (coTcp : CoTCP) (kernel : Kernel) (calls : OpenCalls) (ip : Bytes) (port : Nat) :
    (coTcp.initIpport kernel calls ip port).2.1.port = port := by
  simp only [CoTCP.initIpport]
  split
  · rfl
  · split
    · rfl
    · split
      · rfl
      · split <;> rfl

theorem listenReady_iff (calls : OpenCalls) (coTcp : CoTCP) :
    listenReady calls coTcp = true ↔
      CoTCP.setReused calls = coOk ∧ coTcp.port ≠ 0 ∧ calls.bind ≠ -1 ∧ 0 ≤ calls.listen := by
  have bound : coTcp.serverBind calls = coOk ↔ coTcp.port ≠ 0 ∧ calls.bind ≠ -1 := by
    simp only [CoTCP.serverBind, Nat.le_zero]
    split
    · rename_i zero
      simp [zero, show coError ≠ coOk by decide]
    · rename_i port
      split
      · rename_i failed
        simp [failed, show coError ≠ coOk by decide]
      · rename_i ok
        exact iff_of_true rfl ⟨port, ok⟩
  have listens : CoTCP.serverListen calls = coOk ↔ 0 ≤ calls.listen := by
    simp only [CoTCP.serverListen]
    split
    · rename_i negative
      exact iff_of_false (by decide) (Int.not_le.2 negative)
    · rename_i nonneg
      exact iff_of_true rfl (Int.not_lt.1 nonneg)
  rw [listenReady, Bool.and_eq_true, Bool.and_eq_true, beq_iff_eq, beq_iff_eq, beq_iff_eq, bound, listens,
    and_assoc, and_assoc]

/-- A call that fails with its descriptor open does not clean up. -/
theorem not_leavesNone {descriptor : Option Int} {socketFd : Int} (same : descriptor = some socketFd)
    (opened : socketFd ∈ after.kernel.descriptors) : ¬ LeavesNone descriptor none after :=
  fun leaves => leaves.closed rfl socketFd same opened

theorem popFree_fd (self : CoCycle) (connection : Nat) (socketFd : Int) (now other : Nat) :
    (self.popFree connection socketFd now).fd other = self.fd other := by
  by_cases same : other = connection
  · simp [fd, popFree, modifyObject, same]
  · simp [fd, popFree, modifyObject, same]

/-- The connection that is handed out takes its descriptor along. -/
theorem leavesNone_popFree (inv : PoolInv self pairs inUse) (none : self.NoneHeld) {connection : Nat}
    {rest : List Nat} (front : self.connectionPool.freeConnections = connection :: rest)
    (called : CoTCP × Kernel) (now : Nat) :
    LeavesNone (some called.1.socketfd) (some connection)
      ((self.setTcp connection called).popFree connection called.1.socketfd now) := by
  have nodup : (connection :: rest).Nodup := by
    rw [← front]
    exact (List.nodup_append.1 (inv.shared.nodup_iff.2 (nodup_mains pairs))).1
  refine ⟨nofun, noneHeld_of_neg fun other freeOther => ?_, fun other same => ?_⟩
  · have inRest : other ∈ rest := by
      have tail : ((self.setTcp connection called).popFree connection called.1.socketfd
          now).connectionPool.freeConnections = self.connectionPool.freeConnections.tail := rfl
      rwa [tail, front] at freeOther
    have apart : other ≠ connection := fun same => (List.nodup_cons.1 nodup).1 (same ▸ inRest)
    rw [popFree_fd, setTcp_fd, if_neg apart]
    exact none.fd_neg inv (by rw [front]; exact List.mem_cons_of_mem _ inRest)
  · cases same
    rw [popFree_fd, setTcp_fd, if_pos rfl]

/-- `get_connection(ip, port, listen)` leaves nothing exactly if it does not fail behind `socket`. -/
theorem getConnectionIp_leavesNone (inv : PoolInv self pairs inUse) (none : self.NoneHeld)
    (calls : OpenCalls) (now : Nat) (ip : Bytes) (port : Nat) (listen : Bool)
    (unopened : calls.socket = -1 ∨ Unopened self.kernel calls.socket) :
    LeavesNone calls.created (self.getConnectionIp calls now ip port listen).2
        (self.getConnectionIp calls now ip port listen).1 ↔ self.OpensIp calls port listen := by
  obtain ⟨grown, refilledInv, more⟩ := inv.refill
  have refilledNone := none.refill inv
  unfold CoCycle.getConnectionIp OpensIp
  dsimp only
  cases front : self.refill.connectionPool.freeConnections with
  | nil =>
    -- no connection is left, and the descriptor was never created
    refine iff_of_true ⟨fun _ socketFd same => ?_, refilledNone, fun _ got => by cases got⟩ fun _ got => by cases got
    simp only [OpenCalls.created] at same
    split at same
    · cases same
    · rename_i created
      cases same
      rw [more.kernel]
      exact (unopened.resolve_left created).2
  | cons connection rest =>
    have free : connection ∈ self.refill.connectionPool.freeConnections := by simp [front]
    have noSocket : ¬ (self.refill.objects connection).coTcp.socketfd > 0 := by
      have := refilledNone.fd_neg refilledInv free
      rw [fd] at this
      omega
    have others : ∀ other ∈ self.refill.connectionPool.freeConnections, self.refill.fd other < 0 :=
      fun other => refilledNone.fd_neg refilledInv
    have ready := listenReady_iff calls
      ((self.refill.objects connection).coTcp.initIpport self.refill.kernel calls ip port).2.1
    rw [initIpport_port] at ready
    simp only [List.head?_cons, Option.mem_def, Option.some.injEq, forall_eq']
    rcases (self.refill.objects connection).coTcp.initIpport_cases self.refill.kernel calls ip port with
      ⟨held, -⟩ | ⟨-, missing, failed, noFd, sameKernel⟩ | ⟨-, created, newFd, newKernel⟩
    · exact absurd held noSocket
    · -- `socket` failed, and there is nothing to close
      rw [if_pos (by rw [failed]; decide)]
      refine iff_of_true ⟨?_, noneHeld_of_neg fun other freeOther => ?_, fun _ got => by cases got⟩ fun created =>
        absurd missing created
      · simp [OpenCalls.created, missing]
      · rw [setTcp_fd, noFd]
        split
        · decide
        · exact others other freeOther
    · -- from here on the descriptor exists, and every early return leaves it open
      have ok := initIpport_ok self.refill.kernel ip port noSocket created
      have same : calls.created = some calls.socket := if_neg created
      have opened : calls.socket ∈
          (((self.refill.objects connection).coTcp.initIpport self.refill.kernel calls ip port).2.2).descriptors := by
        rw [newKernel]
        exact Finset.mem_insert_self _ _
      split
      · rename_i failed
        exact iff_of_false (not_leavesNone same opened) fun opens => failed (ok.2 (opens created).1)
      · split
        · rename_i blocking
          exact iff_of_false (not_leavesNone same opened) fun opens => blocking (opens created).2.1
        · split
          · rename_i listening
            rw [Bool.and_eq_true, Bool.not_eq_true', ← Bool.not_eq_true, ready] at listening
            exact iff_of_false (not_leavesNone same opened) fun opens =>
              listening.2 ((opens created).2.2 listening.1)
          · rename_i ran nonblocking listening
            refine iff_of_true ?_ fun _ =>
              ⟨ok.1 (not_not.1 ran), not_not.1 nonblocking, fun listens => ?_⟩
            · rw [same, ← newFd]
              exact leavesNone_popFree refilledInv refilledNone front _ now
            · by_contra unready
              rw [← ready] at unready
              exact listening (by simp [listens, unready])

/-- `get_connection(socketFd)` on a descriptor that was opened for it leaves nothing exactly if
    it does not fail. -/
theorem getConnectionFd_leavesNone (inv : PoolInv self pairs inUse) (none : self.NoneHeld)
    (calls : OpenCalls) (now : Nat) {socketFd : Int} (opened : socketFd ∈ self.kernel.descriptors) :
    LeavesNone (some socketFd) (self.getConnectionFd calls now socketFd).2
        (self.getConnectionFd calls now socketFd).1 ↔ self.OpensFd calls := by
  obtain ⟨grown, refilledInv, more⟩ := inv.refill
  have refilledNone := none.refill inv
  rw [← more.kernel] at opened
  unfold CoCycle.getConnectionFd OpensFd
  dsimp only
  cases front : self.refill.connectionPool.freeConnections with
  | nil => exact iff_of_false (not_leavesNone rfl opened) fun opens => opens.1 rfl
  | cons connection rest =>
    have free : connection ∈ self.refill.connectionPool.freeConnections := by simp [front]
    have noSocket : ¬ (self.refill.objects connection).coTcp.socketfd > 0 := by
      have := refilledNone.fd_neg refilledInv free
      rw [fd] at this
      omega
    have ok : ((self.refill.objects connection).coTcp.initClientSocketfd self.refill.kernel calls
        socketFd).1 = coOk := by
      unfold CoTCP.initClientSocketfd
      dsimp only
      split <;> rfl
    have kept : socketFd ∈ ((self.refill.objects connection).coTcp.initClientSocketfd self.refill.kernel
        calls socketFd).2.2.descriptors := by
      rw [CoTCP.initClientSocketfd_descriptors, if_neg noSocket]
      exact opened
    simp only [ok, ne_eq, not_true_eq_false, if_false]
    split
    · rename_i blocking
      exact iff_of_false (not_leavesNone rfl kept) fun opens => blocking opens.2
    · rename_i nonblocking
      refine iff_of_true ?_ ⟨List.cons_ne_nil _ _, not_not.1 nonblocking⟩
      have leaves := leavesNone_popFree refilledInv refilledNone front
        ((self.refill.objects connection).coTcp.initClientSocketfd self.refill.kernel calls socketFd).2 now
      rwa [CoTCP.initClientSocketfd_socketfd] at leaves

theorem fd_keep (inv : PoolInv self pairs inUse) (keeps : KeepsPool inUse self after) {connection : Nat}
    (mem : connection ∈ self.connectionPool.freeConnections ∨ connection ∈ inUse) :
    after.fd connection = self.fd connection := by
  obtain ⟨k, below, rfl⟩ := mem_mains.1 (inv.shared.mem_iff.1 (List.mem_append.2 mem))
  exact inv.layout.fds keeps below

theorem noneHeld_keep (inv : PoolInv self pairs inUse) (keeps : KeepsPool inUse self after) :
    after.NoneHeld ↔ self.NoneHeld := by
  unfold NoneHeld
  rw [keeps.pool, keeps.descriptors]
  exact forall₂_congr fun connection free => by rw [fd_keep inv keeps (.inl free)]

/-- What happens to the pool's owners and registrations does not matter. -/
theorem leavesNone_keep (inv : PoolInv self pairs inUse) (keeps : KeepsPool inUse self after)
    {descriptor : Option Int} {result : Option Nat} (used : ∀ connection, result = some connection →
      connection ∈ inUse) : LeavesNone descriptor result after ↔ LeavesNone descriptor result self := by
  constructor
  · rintro ⟨closed, none, own⟩
    refine ⟨by rwa [← keeps.descriptors], (noneHeld_keep inv keeps).1 none, fun connection same => ?_⟩
    rw [← fd_keep inv keeps (.inr (used connection same))]
    exact own connection same
  · rintro ⟨closed, none, own⟩
    refine ⟨by rwa [keeps.descriptors], (noneHeld_keep inv keeps).2 none, fun connection same => ?_⟩
    rw [fd_keep inv keeps (.inr (used connection same))]
    exact own connection same

/-- `free_connection` closes positive descriptors only. -/
theorem freeConnection_noneHeld (inv : PoolInv self pairs inUse) (none : self.NoneHeld) {connection : Nat}
    (used : connection ∈ inUse) : (self.freeConnection connection).NoneHeld ↔ self.fd connection ≠ 0 := by
  obtain ⟨k, below, rfl⟩ := inv.used_main used
  obtain ⟨freedInv, released⟩ := inv.freeConnection used
  have closed := released.closed
  have held := inv.sockets.used _ used
  constructor
  · intro freedNone zero
    have neg := @NoneHeld.fd_neg _ _ _ freedNone freedInv (2 * k) (by simp [released.free])
    rw [closed, zero] at neg
    exact absurd neg (by decide)
  · intro positive
    apply noneHeld_of_neg
    intro other free
    rw [released.free, List.mem_cons] at free
    rcases free with rfl | free
    · rw [closed, if_pos (by omega)]
      decide
    · obtain ⟨j, -, rfl⟩ := inv.free_main free
      have differ : j ≠ k := fun same => inv.free_not_used free (same ▸ used)
      rw [released.fd_other differ]
      exact none.fd_neg inv free

end

/-! ## Runs -/

/-- The descriptor that was opened for a call of `get_connection`. -/
def AcceptEvent.descriptor : AcceptEvent → Option Int
  | .initServer _ calls _ | .getConnection calls _ _ _ => calls.created
  | .accept _ (.client _ _ socketFd) => some socketFd
  | _ => none

/-- What a call of `get_connection` in this step returns. -/
def AcceptRun.asks (self : AcceptRun) : AcceptEvent → Option (Option Nat)
  | .initServer server calls now => some (self.cycle.initServer server calls now).2
  | .accept server (.client calls now socketFd) =>
    let cycle := { self.cycle with kernel := self.cycle.kernel.open socketFd }
    some (cycle.initConnection server calls now socketFd).2
  | .getConnection calls now ip port => some (self.cycle.getConnectionIp calls now ip port).2
  | _ => none

/-- The step leaves no descriptor behind. -/
def Clean (self : AcceptRun) (event : AcceptEvent) (next : AcceptRun) : Prop :=
  match self.asks event with
  | some result => LeavesNone event.descriptor result next.cycle
  | none => next.cycle.NoneHeld

/-- No call of the step fails behind the one that opened a descriptor, and no connection
    that is freed has descriptor 0. -/
def Unfailed (self : AcceptRun) : AcceptEvent → Prop
  | .initServer server calls _ =>
    self.cycle.OpensIp calls (self.cycle.serverControls server).confServer.listenPort true
  | .accept _ (.client calls _ socketFd) =>
    { self.cycle with kernel := self.cycle.kernel.open socketFd }.OpensFd calls
  | .getConnection calls _ _ port => self.cycle.OpensIp calls port false
  | .freeConnection connection => self.cycle.fd connection ≠ 0
  | .freeRequestConnection connection retCode => retCode ≠ coOk → self.cycle.fd connection ≠ 0
  | _ => True

instance decidableUnfailed (self : AcceptRun) : ∀ event, Decidable (Unfailed self event)
  | .initServer server calls _ => inferInstanceAs (Decidable (self.cycle.OpensIp calls
      (self.cycle.serverControls server).confServer.listenPort true))
  | .accept _ (.client calls _ socketFd) => inferInstanceAs (Decidable
      (CoCycle.OpensFd { self.cycle with kernel := self.cycle.kernel.open socketFd } calls))
  | .getConnection calls _ _ port => inferInstanceAs (Decidable (self.cycle.OpensIp calls port false))
  | .freeConnection connection => inferInstanceAs (Decidable (self.cycle.fd connection ≠ 0))
  | .freeRequestConnection connection retCode =>
    inferInstanceAs (Decidable (retCode ≠ coOk → self.cycle.fd connection ≠ 0))
  | .start _ | .limit _ | .suspend _ | .accept _ .failed => inferInstanceAs (Decidable True)

section
variable {self next : AcceptRun} {pairs : Nat}

theorem clean_initServer (inv : PoolInv self.cycle pairs self.inUse) (none : self.cycle.NoneHeld)
    {server : Nat} {calls : OpenCalls} {now : Nat}
    (stepped : self.step (.initServer server calls now) = some next) :
    Clean self (.initServer server calls now) next ↔ Unfailed self (.initServer server calls now) := by
  obtain ⟨⟨-, unopened⟩, stepped⟩ := Option.ite_none_right_eq_some.1 stepped
  have leaves := getConnectionIp_leavesNone inv none calls now
    (self.cycle.serverControls server).confServer.listenIP
    (self.cycle.serverControls server).confServer.listenPort true unopened
  obtain ⟨grown, outInv⟩ := (inv.getConnectionIp calls now
    (self.cycle.serverControls server).confServer.listenIP
    (self.cycle.serverControls server).confServer.listenPort true unopened).inv
  simp only [Clean, AcceptRun.asks, Unfailed, ← leaves]
  unfold CoCycle.initServer at stepped ⊢
  dsimp only at stepped ⊢
  generalize self.cycle.getConnectionIp calls now _ _ true = outcome at outInv stepped ⊢
  obtain ⟨cycle, result⟩ := outcome
  cases result with
  | none =>
    cases stepped
    exact Iff.rfl
  | some connection =>
    cases stepped
    exact leavesNone_keep outInv (keepsPool_listenOn cycle server (by simp)) (by simp)

theorem clean_accept (inv : PoolInv self.cycle pairs self.inUse) (none : self.cycle.NoneHeld)
    {server : Nat} {i maxAcceptSize : Int} {result : AcceptResult}
    (stepped : self.acceptTurn server i maxAcceptSize result = some next) :
    Clean self (.accept server result) next ↔ Unfailed self (.accept server result) := by
  cases result with
  | failed =>
    cases stepped
    exact iff_of_true none trivial
  | client calls now socketFd =>
    obtain ⟨unopened, stepped⟩ := Option.ite_none_right_eq_some.1 stepped
    have openedNone : { self.cycle with kernel := self.cycle.kernel.open socketFd }.NoneHeld :=
      noneHeld_of_neg fun connection free => none.fd_neg inv free
    have leaves := getConnectionFd_leavesNone (inv.open socketFd) openedNone calls now
      (Finset.mem_insert_self socketFd _)
    obtain ⟨grown, outInv⟩ := (inv.getConnectionNew calls now unopened).inv
    simp only [Clean, AcceptRun.asks, Unfailed, ← leaves]
    unfold CoCycle.initConnection at stepped ⊢
    dsimp only at stepped ⊢
    generalize CoCycle.getConnectionFd _ calls now socketFd = outcome at outInv stepped ⊢
    obtain ⟨cycle, result⟩ := outcome
    cases result with
    | none =>
      cases stepped
      exact Iff.rfl
    | some connection =>
      cases stepped
      exact leavesNone_keep outInv (keepsPool_acceptClient cycle server (by simp)) (by simp)

/-- A step keeps the free connections without descriptors exactly if it is unfailed. -/
theorem clean_iff (inv : PoolInv self.cycle pairs self.inUse) (none : self.cycle.NoneHeld)
    {event : AcceptEvent} (stepped : self.step event = some next) :
    Clean self event next ↔ Unfailed self event := by
  have keeps {cycle : CoCycle} (same : KeepsPool self.inUse self.cycle cycle) : cycle.NoneHeld :=
    (noneHeld_keep inv same).2 none
  cases event with
  | initServer server calls now => exact clean_initServer inv none stepped
  | start server =>
    obtain ⟨-, same⟩ := Option.ite_none_right_eq_some.1 stepped
    cases same
    exact iff_of_true none trivial
  | limit server =>
    obtain ⟨-, same⟩ := Option.ite_none_right_eq_some.1 stepped
    split at same
    · cases same
      exact iff_of_true none trivial
    · cases same
      exact iff_of_true (keeps (keepsPool_modifyListening _ _ server)) trivial
  | suspend server =>
    unfold AcceptRun.step at stepped
    dsimp only at stepped
    split at stepped
    · cases stepped
      exact iff_of_true none trivial
    · cases stepped
  | accept server result =>
    unfold AcceptRun.step at stepped
    dsimp only at stepped
    split at stepped
    · exact clean_accept inv none stepped
    · exact clean_accept inv none stepped
    · cases stepped
  | freeConnection connection =>
    obtain ⟨used, same⟩ := Option.ite_none_right_eq_some.1 stepped
    cases same
    exact freeConnection_noneHeld inv none used
  | freeRequestConnection connection retCode =>
    obtain ⟨used, same⟩ := Option.ite_none_right_eq_some.1 stepped
    unfold freeRequestConnection at same
    split at same
    · rename_i error
      cases same
      have deleted := (delConnection_reregistered self.cycle connection).keepsPool self.inUse
      have freed := freeConnection_noneHeld (inv.keep deleted) (keeps deleted) used
      rw [fd_keep inv deleted (.inr used)] at freed
      exact freed.trans ⟨fun positive _ => positive, fun positive => positive error⟩
    · rename_i ok
      cases same
      exact iff_of_true (keeps (inv.keepsPool_keepalive used)) fun error => absurd error ok
  | getConnection calls now ip port =>
    obtain ⟨unopened, same⟩ := Option.ite_none_right_eq_some.1 stepped
    cases same
    exact getConnectionIp_leavesNone inv none calls now ip port false unopened

end

/-- The pool after `init`. -/
theorem initPool_noneHeld (kernel : Kernel) (serverControls : Nat → CoServerControl)
    (upstreams : Nat → CoUpstream) {minConnectionSize maxConnectionSize : Int}
    (small : minConnectionSize ≤ 2147483644)
    (started : ((fresh kernel serverControls upstreams).initPool minConnectionSize
      maxConnectionSize).1 = coOk) :
    ((fresh kernel serverControls upstreams).initPool minConnectionSize maxConnectionSize).2.NoneHeld := by
  obtain ⟨pairs, inv, grown⟩ := initPool_inv kernel serverControls upstreams small started
  apply noneHeld_of_neg
  intro connection free
  obtain ⟨k, below, rfl⟩ := inv.free_main free
  rw [grown.new k (Nat.zero_le _) below]
  decide

/-- The servers of a configuration before their `init`. -/
def configured (conf : Nat → CoConfServer) : Nat → CoServerControl := fun server => { confServer := conf server }

/-- In a run of a thread no call leaves a descriptor behind exactly if none fails behind the
    call that opened one, and no connection that is freed has descriptor 0. -/
theorem leaks_iff (kernel : Kernel) (conf : Nat → CoConfServer) (upstreams : Nat → CoUpstream)
    {minConnectionSize maxConnectionSize : Int} (small : minConnectionSize ≤ 2147483644)
    (started : ((fresh kernel (configured conf) upstreams).initPool minConnectionSize
      maxConnectionSize).1 = coOk)
    {events : List AcceptEvent} {final : AcceptRun}
    (ran : events.foldlM AcceptRun.step (.start ((fresh kernel (configured conf) upstreams).initPool
      minConnectionSize maxConnectionSize).2) = some final) :
    Lib.Along AcceptRun.step (fun run event => ∀ next, run.step event = some next → Clean run event next)
        (.start ((fresh kernel (configured conf) upstreams).initPool minConnectionSize
          maxConnectionSize).2) events ↔
      Lib.Along AcceptRun.step Unfailed (.start ((fresh kernel (configured conf) upstreams).initPool
        minConnectionSize maxConnectionSize).2) events := by
  obtain ⟨pairs, pool, grown⟩ := initPool_inv kernel (configured conf) upstreams small started
  have start := acceptInv_start pool grown.servers fun _ => ⟨rfl, rfl⟩
  refine @Lib.run_law_iff _ _ AcceptRun.step Unfailed Clean _ (fun run => run.cycle.NoneHeld)
    (fun _ _ _ (inv : AcceptInv _ _) stepped => inv.step stepped) ?_ ?_ _ _ _ start
    (initPool_noneHeld kernel (configured conf) upstreams small started) ran
  · intro run event next clean
    unfold Clean at clean
    split at clean
    · exact clean.unheld
    · exact clean
  · intro run event next inv none stepped
    obtain ⟨pairs, pool⟩ := inv.pool
    exact clean_iff pool none stepped

/-- A client comes and goes, and `socket` fails once in between. -/
def clientLeaves : List AcceptEvent := [
  .initServer 0 { socket := 3 } 1,
  .start 0, .limit 0,
  .accept 0 (.client { socket := -1 } 2 7),
  .getConnection { socket := -1 } 3 [] 80,
  .freeRequestConnection 2 coError]

theorem leaks_none : Lib.Along AcceptRun.step
    (fun run event => ∀ next, run.step event = some next → Clean run event next)
    (.start ((fresh {} (configured fun _ => {}) fun _ => {}).initPool 1 8).2) clientLeaves := by
  have defined : (clientLeaves.foldlM AcceptRun.step
      (.start ((fresh {} (configured fun _ => {}) fun _ => {}).initPool 1 8).2)).isSome := by
    decide +kernel
  obtain ⟨final, ran⟩ := Option.isSome_iff_exists.1 defined
  exact (leaks_iff {} (fun _ => {}) (fun _ => {}) (by decide) (by decide +kernel) ran).2
    (by decide +kernel)

/-- `bind` fails for the listening socket 5, then another connection is asked for. -/
def failedBind : List AcceptEvent := [
  .initServer 0 { socket := 5, bind := -1 } 1,
  .getConnection { socket := 6 } 2 [] 80]

/-- The listening socket stays open, and the next connection works on it. -/
theorem failedBind_leaks : (failedBind.foldlM AcceptRun.step
      (.start ((fresh {} (configured fun _ => {}) fun _ => {}).initPool 1 8).2)).map
        (fun final => (final.inUse, final.cycle.fd 0)) = some ([0], 5) ∧
    ¬ Lib.Along AcceptRun.step
      (fun run event => ∀ next, run.step event = some next → Clean run event next)
      (.start ((fresh {} (configured fun _ => {}) fun _ => {}).initPool 1 8).2) failedBind := by
  refine ⟨by decide +kernel, fun along => ?_⟩
  have stepped : ((AcceptRun.start ((fresh {} (configured fun _ => {}) fun _ => {}).initPool 1 8).2).step
      (.initServer 0 { socket := 5, bind := -1 } 1)).map
        (fun next => decide (5 ∈ next.cycle.kernel.descriptors)) = some true := by decide +kernel
  obtain ⟨next, stepped, opened⟩ := Option.map_eq_some_iff.1 stepped
  have clean := along.1 next stepped
  have asked : (AcceptRun.start ((fresh {} (configured fun _ => {}) fun _ => {}).initPool 1 8).2).asks
      (.initServer 0 { socket := 5, bind := -1 } 1) = some none := by decide +kernel
  simp only [Clean, asked] at clean
  exact clean.closed rfl 5 rfl (of_decide_eq_true opened)

end CoCycle

end CoServer
