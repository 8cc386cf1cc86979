import CoServer.Core.ServerControl

/-! # A server never has more clients than it may, and listens while it has room

`limit` is computed once and used over several suspensions, in which clients
leave.  What stays true is that the turns still allowed fit in the room there
is: the room only grows while the coroutine is suspended. -/

namespace CoServer

namespace CoCycle

/-! ## The invariant -/

/-- What holds of a server while its coroutine stands at `state`. -/
def Standing (control : CoServerControl) : ListenState → Prop
  | .created => control.curConnectionSize = 0 ∧ control.listening = false
  | .finished => control.curConnectionSize ≤ control.confServer.maxConnections ∧
    control.listening = hasRoom control
  | .looping => control.curConnectionSize ≤ control.confServer.maxConnections ∧
    (control.curConnectionSize < control.confServer.maxConnections → control.listening = true)
  | .accepting i maxAcceptSize | .suspended i maxAcceptSize => i < maxAcceptSize ∧
    control.curConnectionSize + (maxAcceptSize - i) ≤ control.confServer.maxConnections ∧
    control.listening = true

structure AcceptInv (conf : Nat → CoConfServer) (run : AcceptRun) : Prop where
  configured : ∀ server, (run.cycle.serverControls server).confServer = conf server
  pool : ∃ pairs, PoolInv run.cycle pairs run.inUse
  client : ∀ server, ∀ connection ∈ run.clients server, connection ∈ run.inUse ∧
    (run.cycle.objects connection).serverControl = some server ∧
    (run.cycle.objects connection).handlerCleanups = [.funcCleanup]
  other : ∀ connection ∈ run.inUse, (∀ server, connection ∉ run.clients server) →
    (run.cycle.objects connection).serverControl = none ∧
    (run.cycle.objects connection).handlerCleanups = []
  nodup : ∀ server, (run.clients server).Nodup
  counted : ∀ server, (run.cycle.serverControls server).curConnectionSize =
    (run.clients server).length
  standing : ∀ server, 1 ≤ (run.cycle.serverControls server).confServer.maxConnections →
    Standing (run.cycle.serverControls server) (run.coroutine server)

/-! ## One server -/

section
variable {control : CoServerControl} {i maxAcceptSize : Int}

theorem hasRoom_iff : hasRoom control = true ↔
    control.curConnectionSize < control.confServer.maxConnections := by
  simp [hasRoom]

/-- The allowance fits in the room there is. -/
theorem limit_of_room (room : control.curConnectionSize < control.confServer.maxConnections) :
    0 < limit control ∧
      control.curConnectionSize + limit control ≤ control.confServer.maxConnections := by
  have notFull : ¬ control.curConnectionSize ≥ control.confServer.maxConnections := by omega
  simp only [limit, if_neg notFull]
  split <;> omega

theorem limit_eq_zero (full : ¬ control.curConnectionSize < control.confServer.maxConnections) :
    limit control = 0 := by
  simp only [limit, if_pos (not_lt.1 full)]

/-- A turn without a new client. -/
theorem Standing.failedTurn
    (standing : Standing control (.accepting i maxAcceptSize)) :
    Standing control (.nextTurn i maxAcceptSize) := by
  obtain ⟨inside, fits, hears⟩ := standing
  unfold ListenState.nextTurn
  split
  · exact ⟨by omega, by omega, hears⟩
  · exact ⟨by omega, fun _ => hears⟩

/-- A turn with a new client. -/
theorem Standing.clientTurn
    (standing : Standing control (.accepting i maxAcceptSize)) :
    Standing { control with curConnectionSize := control.curConnectionSize + 1 }
      (.nextTurn i maxAcceptSize) := by
  obtain ⟨inside, fits, hears⟩ := standing
  unfold ListenState.nextTurn
  split
  · refine ⟨by omega, ?_, hears⟩
    show control.curConnectionSize + 1 + (maxAcceptSize - (i + 1)) ≤ control.confServer.maxConnections
    omega
  · refine ⟨?_, fun _ => hears⟩
    show control.curConnectionSize + 1 ≤ control.confServer.maxConnections
    omega

/-- `init_connection` failed and `accept` returned to the loop. -/
theorem Standing.backToLoop
    (standing : Standing control (.accepting i maxAcceptSize)) : Standing control .looping := by
  obtain ⟨inside, fits, hears⟩ := standing
  exact ⟨by omega, fun _ => hears⟩

/-- A client left: the room only grows, and the server listens. -/
theorem Standing.leave {state : ListenState} (some : control.curConnectionSize ≠ 0)
    (standing : Standing control state) : Standing (leave control) state := by
  have fewer : (CoCycle.leave control).curConnectionSize = control.curConnectionSize - 1 := rfl
  have same : (CoCycle.leave control).confServer = control.confServer := rfl
  have hears : (CoCycle.leave control).listening = hasRoom (CoCycle.leave control) := rfl
  cases state with
  | created => exact absurd standing.1 some
  | finished =>
    refine ⟨?_, hears⟩
    rw [fewer, same]
    have := standing.1
    omega
  | looping =>
    refine ⟨?_, fun room => hears.trans (hasRoom_iff.2 room)⟩
    rw [fewer, same]
    have := standing.1
    omega
  | accepting i maxAcceptSize =>
    obtain ⟨inside, fits, -⟩ := standing
    refine ⟨inside, ?_, hears.trans (hasRoom_iff.2 ?_)⟩
    · rw [fewer, same]
      omega
    · rw [fewer, same]
      omega
  | suspended i maxAcceptSize =>
    obtain ⟨inside, fits, -⟩ := standing
    refine ⟨inside, ?_, hears.trans (hasRoom_iff.2 ?_)⟩
    · rw [fewer, same]
      omega
    · rw [fewer, same]
      omega

/-- What `Standing` looks at. -/
structure SameRoom (a b : CoServerControl) : Prop where
  confServer : b.confServer = a.confServer
  curConnectionSize : b.curConnectionSize = a.curConnectionSize
  listening : b.listening = a.listening

theorem Standing.same {other : CoServerControl} {state : ListenState} (same : SameRoom control other)
    (standing : Standing control state) : Standing other state := by
  obtain ⟨conf, cur, hears⟩ := same
  cases state <;> simpa only [Standing, hasRoom, conf, cur, hears] using standing

end

/-! ## The steps -/

theorem keepsPool_listenOn (self : CoCycle) {inUse : List Nat} (server : Nat) {connection : Nat}
    (used : connection ∈ inUse) : KeepsPool inUse self (self.listenOn server connection) :=
  ((keepsPool_modifyServer inUse self server _).trans
    (keepsPool_modifyObject inUse _ connection _ ⟨rfl, rfl, rfl, rfl⟩ (fun _ => rfl)
      fun notUsed => absurd used notUsed)).trans (keepsPool_modifyListening inUse _ server)

theorem keepsPool_acceptClient (self : CoCycle) {inUse : List Nat} (server : Nat) {connection : Nat}
    (used : connection ∈ inUse) : KeepsPool inUse self (self.acceptClient server connection) :=
  ((keepsPool_modifyObject inUse self connection _ ⟨rfl, rfl, rfl, rfl⟩ (fun _ => rfl)
    fun notUsed => absurd used notUsed).trans (keepsPool_modifyServer _ _ server _)).trans
    (keepsPool_pushDelay _ _ connection)

section
variable {conf : Nat → CoConfServer} {run : AcceptRun} {server : Nat}

/-- Only the place of one coroutine changes. -/
theorem AcceptInv.moveTo (inv : AcceptInv conf run) (state : ListenState)
    (standing : 1 ≤ (run.cycle.serverControls server).confServer.maxConnections →
      Standing (run.cycle.serverControls server) state) : AcceptInv conf (run.moveTo server state) where
  configured := inv.configured
  pool := inv.pool
  client := inv.client
  other := inv.other
  nodup := inv.nodup
  counted := inv.counted
  standing other some := by
    by_cases same : other = server
    · subst same
      simpa [AcceptRun.moveTo] using standing some
    · simpa [AcceptRun.moveTo, same] using inv.standing other some

/-- Everything `AcceptInv` says of the connections survives a call of
    `get_connection`; a new connection belongs to no server. -/
theorem AcceptInv.handOut (inv : AcceptInv conf run) {cycle : CoCycle} {result : Option Nat}
    (out : HandsOut run.cycle run.inUse cycle result) :
    AcceptInv conf { run with cycle, inUse := result.toList ++ run.inUse } where
  configured := by
    show ∀ server, (cycle.serverControls server).confServer = _
    rw [out.servers]
    exact inv.configured
  pool := out.inv
  client server connection mem := by
    obtain ⟨used, owner, cleanups⟩ := inv.client server connection mem
    show connection ∈ result.toList ++ run.inUse ∧ _
    rw [out.used connection used]
    exact ⟨List.mem_append_right _ used, owner, cleanups⟩
  other connection mem noClient := by
    show (cycle.objects connection).serverControl = none ∧ _
    rcases List.mem_append.1 mem with new | used
    · have unowned := (out.new connection (by simpa using new)).2
      exact ⟨unowned.serverControl, unowned.handlerCleanups⟩
    · rw [out.used connection used]
      exact inv.other connection used noClient
  nodup := inv.nodup
  counted := by
    show ∀ server, (cycle.serverControls server).curConnectionSize = _
    rw [out.servers]
    exact inv.counted
  standing := by
    show ∀ server, 1 ≤ (cycle.serverControls server).confServer.maxConnections → Standing
      (cycle.serverControls server) _
    rw [out.servers]
    exact inv.standing

/-- The same for a change of what connections are registered for. -/
theorem AcceptInv.modifyListening (inv : AcceptInv conf run) (server : Nat) (state : ListenState)
    (standing : 1 ≤ (run.cycle.serverControls server).confServer.maxConnections →
      Standing { run.cycle.serverControls server with
        listening := hasRoom (run.cycle.serverControls server) } state) :
    AcceptInv conf ({ run with cycle := run.cycle.modifyListening server }.moveTo server state) := by
  have cleaned := cleaned_modifyListening run.cycle server
  have servers := run.cycle.modifyListening_servers server
  have kept : ∀ connection,
      ((run.cycle.modifyListening server).objects connection).serverControl =
        (run.cycle.objects connection).serverControl ∧
      ((run.cycle.modifyListening server).objects connection).handlerCleanups =
        (run.cycle.objects connection).handlerCleanups := by
    intro connection
    obtain ⟨_, _, _, _, same⟩ := cleaned.objects connection
    rw [same]
    exact ⟨rfl, rfl⟩
  obtain ⟨pairs, pool⟩ := inv.pool
  refine ⟨?_, ⟨pairs, pool.keep (keepsPool_modifyListening _ _ server)⟩, ?_, ?_, inv.nodup, ?_, ?_⟩
  · intro other
    show ((run.cycle.modifyListening server).serverControls other).confServer = _
    rw [servers]
    by_cases same : other = server
    · subst same
      rw [modifyServer_same]
      exact inv.configured other
    · rw [modifyServer_other _ _ _ _ same]
      exact inv.configured other
  · intro other connection mem
    obtain ⟨used, owner, cleanups⟩ := inv.client other connection mem
    exact ⟨used, (kept connection).1.trans owner, (kept connection).2.trans cleanups⟩
  · intro connection used noClient
    obtain ⟨owner, cleanups⟩ := inv.other connection used noClient
    exact ⟨(kept connection).1.trans owner, (kept connection).2.trans cleanups⟩
  · intro other
    show ((run.cycle.modifyListening server).serverControls other).curConnectionSize = _
    rw [servers]
    by_cases same : other = server
    · subst same
      rw [modifyServer_same]
      exact inv.counted other
    · rw [modifyServer_other _ _ _ _ same]
      exact inv.counted other
  · intro other
    show 1 ≤ ((run.cycle.modifyListening server).serverControls other).confServer.maxConnections →
      Standing ((run.cycle.modifyListening server).serverControls other)
        (Function.update run.coroutine server state other)
    rw [servers]
    by_cases same : other = server
    · subst same
      rw [modifyServer_same, Function.update_self]
      exact standing
    · rw [modifyServer_other _ _ _ _ same, Function.update_of_ne same]
      exact inv.standing other

/-- A step that changes neither an owner nor the room of a server. -/
theorem AcceptInv.keep (inv : AcceptInv conf run) {cycle : CoCycle}
    (pool : ∃ pairs, PoolInv cycle pairs run.inUse)
    (owners : ∀ connection, SameOwner (run.cycle.objects connection) (cycle.objects connection))
    (servers : ∀ server, SameRoom (run.cycle.serverControls server) (cycle.serverControls server)) :
    AcceptInv conf { run with cycle } where
  configured server := (servers server).confServer.trans (inv.configured server)
  pool := pool
  client server connection mem := by
    obtain ⟨used, owned, cleaned⟩ := inv.client server connection mem
    exact ⟨used, (owners connection).serverControl.trans owned,
      (owners connection).handlerCleanups.trans cleaned⟩
  other connection used noClient := by
    obtain ⟨owned, cleaned⟩ := inv.other connection used noClient
    exact ⟨(owners connection).serverControl.trans owned,
      (owners connection).handlerCleanups.trans cleaned⟩
  nodup := inv.nodup
  counted server := (servers server).curConnectionSize.trans (inv.counted server)
  standing server some := by
    rw [(servers server).confServer] at some
    exact (inv.standing server some).same (servers server)

/-- The assignments of `init` to its listening connection. -/
theorem AcceptInv.listenConnection (inv : AcceptInv conf run) {connection : Nat}
    (used : connection ∈ run.inUse) : AcceptInv conf { run with
      cycle := (run.cycle.modifyServer server fun control =>
        { control with listenConnection := connection }).modifyObject connection fun object =>
          { object with handler := some .listen, handlerException := .listen } } := by
  obtain ⟨pairs, pool⟩ := inv.pool
  have owners := keepsOwners_modifyObject (run.cycle.modifyServer server fun control =>
    { control with listenConnection := connection }) connection
    (fun object => { object with handler := some .listen, handlerException := .listen })
    ⟨rfl, rfl, rfl, rfl, rfl⟩
  have keeps := (keepsPool_modifyServer run.inUse run.cycle server fun control =>
    { control with listenConnection := connection }).trans
    (keepsPool_modifyObject run.inUse _ connection
      (fun object => { object with handler := some .listen, handlerException := .listen })
      ⟨rfl, rfl, rfl, rfl⟩ (fun _ => rfl) fun notUsed => absurd used notUsed)
  refine inv.keep ⟨pairs, pool.keep keeps⟩  owners.objects ?_
  intro other
  rw [modifyObject_servers]
  by_cases same : other = server
  · subst same
    rw [modifyServer_same]
    exact ⟨rfl, rfl, rfl⟩
  · rw [modifyServer_other _ _ _ _ same]
    exact ⟨rfl, rfl, rfl⟩

/-- `init` of a server: its listening connection belongs to no client. -/
theorem AcceptInv.initServer (inv : AcceptInv conf run) (calls : OpenCalls) (now : Nat) {next : AcceptRun}
    (stepped : run.step (.initServer server calls now) = some next) : AcceptInv conf next := by
  obtain ⟨⟨created, unopened⟩, stepped⟩ := Option.ite_none_right_eq_some.1 stepped
  obtain ⟨pairs, pool⟩ := inv.pool
  have out := pool.getConnectionIp calls now (run.cycle.serverControls server).confServer.listenIP
    (run.cycle.serverControls server).confServer.listenPort true unopened
  have standing := inv.standing server
  rw [created, ← out.servers] at standing
  unfold CoCycle.initServer at stepped
  dsimp only at stepped
  generalize run.cycle.getConnectionIp calls now _ _ true = outcome at out standing stepped
  obtain ⟨cycle, result⟩ := outcome
  have handed := inv.handOut out
  cases result with
  | none =>
    cases stepped
    exact handed
  | some connection =>
    cases stepped
    refine (@AcceptInv.listenConnection _ _ server handed connection List.mem_cons_self).modifyListening server .finished ?_
    rw [modifyObject_servers, modifyServer_same]
    intro some
    dsimp only at some standing
    obtain ⟨noClient, -⟩ := standing some
    have bounded : (cycle.serverControls server).curConnectionSize ≤
      (cycle.serverControls server).confServer.maxConnections := by omega
    exact ⟨bounded, rfl⟩

theorem mem_update_cons {clients : Nat → List Nat} {server connection other client : Nat} :
    client ∈ Function.update clients server (connection :: clients server) other ↔
      client ∈ clients other ∨ other = server ∧ client = connection := by
  by_cases same : other = server
  · subst same
    rw [Function.update_self, List.mem_cons, or_comm]
    exact or_congr_right (and_iff_right rfl).symm
  · rw [Function.update_of_ne same]
    exact (or_iff_left fun new => same new.1).symm

/-- A connection in use becomes a client of the server. -/
theorem AcceptInv.acceptClient (inv : AcceptInv conf run) {connection : Nat} {state : ListenState}
    (used : connection ∈ run.inUse) (noClient : ∀ other, connection ∉ run.clients other)
    (standing : 1 ≤ (run.cycle.serverControls server).confServer.maxConnections →
      Standing { run.cycle.serverControls server with
        curConnectionSize := (run.cycle.serverControls server).curConnectionSize + 1 } state) :
    AcceptInv conf { run with
      cycle := run.cycle.acceptClient server connection
      coroutine := Function.update run.coroutine server state
      clients := Function.update run.clients server (connection :: run.clients server) } := by
  obtain ⟨pairs, pool⟩ := inv.pool
  obtain ⟨-, noCleanup⟩ := inv.other connection used noClient
  have objects : ∀ other, other ≠ connection →
      (run.cycle.acceptClient server connection).objects other = run.cycle.objects other := by
    intro other apart
    unfold CoCycle.acceptClient
    dsimp only
    rw [pushDelay_objects, modifyServer_objects, modifyObject_other _ _ _ _ apart]
  -- the new client belongs to the server, and its cleanup leaves it
  have owned : ((run.cycle.acceptClient server connection).objects connection).serverControl =
      some server ∧
      ((run.cycle.acceptClient server connection).objects connection).handlerCleanups =
        [.funcCleanup] := by
    unfold CoCycle.acceptClient
    dsimp only
    rw [pushDelay_objects, modifyServer_objects, modifyObject_same, noCleanup]
    exact ⟨rfl, rfl⟩
  have servers : (run.cycle.acceptClient server connection).serverControls =
      (run.cycle.modifyServer server fun control =>
        { control with curConnectionSize := control.curConnectionSize + 1 }).serverControls := rfl
  refine ⟨?_, ⟨pairs, pool.keep (keepsPool_acceptClient _ server used)⟩, ?_, ?_, ?_, ?_, ?_⟩
  · intro other
    dsimp only
    rw [servers]
    by_cases same : other = server
    · subst same
      rw [modifyServer_same]
      exact inv.configured other
    · rw [modifyServer_other _ _ _ _ same]
      exact inv.configured other
  · intro other client mem
    dsimp only at mem ⊢
    obtain old | ⟨rfl, rfl⟩ := mem_update_cons.1 mem
    · have apart : client ≠ connection := fun same => noClient other (same ▸ old)
      rw [objects client apart]
      exact inv.client other client old
    · exact ⟨used, owned⟩
  · intro client usedClient noClient'
    dsimp only at noClient' ⊢
    have apart : client ≠ connection := by
      rintro rfl
      exact noClient' server (mem_update_cons.2 (.inr ⟨rfl, rfl⟩))
    rw [objects client apart]
    exact inv.other client usedClient fun other mem => noClient' other (mem_update_cons.2 (.inl mem))
  · intro other
    dsimp only
    by_cases same : other = server
    · subst same
      rw [Function.update_self]
      exact List.nodup_cons.2 ⟨noClient other, inv.nodup other⟩
    · rw [Function.update_of_ne same]
      exact inv.nodup other
  · intro other
    dsimp only
    rw [servers]
    by_cases same : other = server
    · subst same
      rw [Function.update_self, modifyServer_same]
      dsimp only
      rw [inv.counted, List.length_cons]
      omega
    · rw [Function.update_of_ne same, modifyServer_other _ _ _ _ same]
      exact inv.counted other
  · intro other
    dsimp only
    rw [servers]
    by_cases same : other = server
    · subst same
      rw [Function.update_self, modifyServer_same]
      exact standing
    · rw [Function.update_of_ne same, modifyServer_other _ _ _ _ same]
      exact inv.standing other

/-- `init_connection` on a new client. -/
theorem AcceptInv.acceptTurn (inv : AcceptInv conf run) {i maxAcceptSize : Int}
    (turn : 1 ≤ (run.cycle.serverControls server).confServer.maxConnections →
      Standing (run.cycle.serverControls server) (.accepting i maxAcceptSize))
    (result : AcceptResult) {next : AcceptRun}
    (stepped : run.acceptTurn server i maxAcceptSize result = some next) : AcceptInv conf next := by
  cases result with
  | failed =>
    cases stepped
    exact inv.moveTo _ fun some => (turn some).failedTurn
  | client calls now socketFd =>
    obtain ⟨unopened, stepped⟩ := Option.ite_none_right_eq_some.1 stepped
    obtain ⟨pairs, pool⟩ := inv.pool
    have opened : AcceptInv conf { run with
        cycle := { run.cycle with kernel := run.cycle.kernel.open socketFd } } :=
      inv.keep ⟨pairs, pool.open socketFd⟩ (fun _ => .refl _) fun _ => ⟨rfl, rfl, rfl⟩
    have out := pool.getConnectionNew calls now unopened
    unfold CoCycle.initConnection at stepped
    dsimp only at stepped
    generalize CoCycle.getConnectionFd _ calls now socketFd = outcome at out stepped
    obtain ⟨cycle, result⟩ := outcome
    have handed := opened.handOut out
    rw [← (show cycle.serverControls = run.cycle.serverControls from out.servers)] at turn
    cases result with
    | none =>
      cases stepped
      exact handed.moveTo .looping fun some => (turn some).backToLoop
    | some connection =>
      cases stepped
      obtain ⟨unused, -⟩ := out.new connection rfl
      exact handed.acceptClient List.mem_cons_self
        (fun other mem => unused (inv.client other connection mem).1)
        fun some => (turn some).clientTurn

/-- The server controls after a connection was freed. -/
theorem AcceptInv.freed_servers (inv : AcceptInv conf run) {connection blockConn : Nat} {cycle : CoCycle}
    (used : connection ∈ run.inUse) (released : Released run.cycle cycle connection blockConn)
    (server : Nat) : cycle.serverControls server = if connection ∈ run.clients server then
      leave (run.cycle.serverControls server) else run.cycle.serverControls server := by
  by_cases someone : ∃ owner, connection ∈ run.clients owner
  · obtain ⟨owner, mem⟩ := someone
    obtain ⟨-, owned, cleanups⟩ := inv.client owner connection mem
    rw [released.cleanup owner cleanups owned]
    by_cases same : server = owner
    · subst same
      rw [if_pos mem, modifyServer_same]
    · have apart : connection ∉ run.clients server := by
        intro other
        have := (inv.client server connection other).2.1.symm.trans owned
        exact same (Option.some.inj this)
      rw [if_neg apart, modifyServer_other _ _ _ _ same]
  · have noClient : ∀ owner, connection ∉ run.clients owner := not_exists.1 someone
    rw [released.noCleanup (inv.other connection used noClient).2, if_neg (noClient server)]

theorem AcceptInv.freeConnection (inv : AcceptInv conf run) {connection : Nat}
    (used : connection ∈ run.inUse) :
    AcceptInv conf ({ run with cycle := run.cycle.freeConnection connection }.drop connection) := by
  obtain ⟨pairs, pool⟩ := inv.pool
  obtain ⟨poolAfter, released⟩ := pool.freeConnection used
  have nodup : run.inUse.Nodup :=
    (List.nodup_append.1 (pool.shared.nodup_iff.2 (nodup_mains pairs))).2.1
  have kept : ∀ other ∈ run.inUse, other ≠ connection →
      ((run.cycle.freeConnection connection).objects other).serverControl =
        (run.cycle.objects other).serverControl ∧
      ((run.cycle.freeConnection connection).objects other).handlerCleanups =
        (run.cycle.objects other).handlerCleanups := by
    intro other usedOther apart
    obtain ⟨j, -, rfl⟩ := pool.used_main used
    obtain ⟨k, -, rfl⟩ := pool.used_main usedOther
    obtain ⟨_, _, _, _, same⟩ := released.others (2 * k) apart (by omega)
    rw [same]
    exact ⟨rfl, rfl⟩
  refine ⟨?_, ⟨pairs, poolAfter⟩, ?_, ?_, ?_, ?_, ?_⟩
  · intro server
    show ((run.cycle.freeConnection connection).serverControls server).confServer = _
    rw [inv.freed_servers used released]
    split
    · exact inv.configured server
    · exact inv.configured server
  · intro server client mem
    obtain ⟨apart, mem⟩ := (inv.nodup server).mem_erase_iff.1 mem
    obtain ⟨usedClient, owned, cleanups⟩ := inv.client server client mem
    obtain ⟨keptOwner, keptCleanups⟩ := kept client usedClient apart
    exact ⟨nodup.mem_erase_iff.2 ⟨apart, usedClient⟩, keptOwner.trans owned,
      keptCleanups.trans cleanups⟩
  · intro client mem noClient
    obtain ⟨apart, usedClient⟩ := nodup.mem_erase_iff.1 mem
    obtain ⟨keptOwner, keptCleanups⟩ := kept client usedClient apart
    obtain ⟨owned, cleanups⟩ := inv.other client usedClient fun server mem =>
      noClient server ((List.mem_erase_of_ne apart).2 mem)
    exact ⟨keptOwner.trans owned, keptCleanups.trans cleanups⟩
  · exact fun server => (inv.nodup server).erase connection
  · intro server
    show ((run.cycle.freeConnection connection).serverControls server).curConnectionSize =
      ((run.clients server).erase connection).length
    rw [inv.freed_servers used released]
    split
    · rename_i mem
      have left : (CoCycle.leave (run.cycle.serverControls server)).curConnectionSize =
        (run.cycle.serverControls server).curConnectionSize - 1 := rfl
      have positive := List.length_pos_of_mem mem
      rw [left, inv.counted, List.length_erase_of_mem mem]
      omega
    · rename_i notMem
      rw [List.erase_of_not_mem notMem]
      exact inv.counted server
  · intro server
    show 1 ≤ ((run.cycle.freeConnection connection).serverControls server).confServer.maxConnections →
      Standing ((run.cycle.freeConnection connection).serverControls server) _
    rw [inv.freed_servers used released]
    split
    · rename_i mem
      intro some
      refine (inv.standing server some).leave ?_
      have positive := List.length_pos_of_mem mem
      rw [inv.counted]
      omega
    · exact inv.standing server

/-- What one step of the thread keeps. -/
theorem AcceptInv.step (inv : AcceptInv conf run) {event : AcceptEvent} {next : AcceptRun}
    (stepped : run.step event = some next) : AcceptInv conf next := by
  cases event with
  | initServer server calls now => exact inv.initServer calls now stepped
  | start server =>
    obtain ⟨finished, same⟩ := Option.ite_none_right_eq_some.1 stepped
    cases same
    refine inv.moveTo .looping fun some => ?_
    have standing := inv.standing server some
    rw [finished] at standing
    exact ⟨standing.1, fun room => standing.2.trans (hasRoom_iff.2 room)⟩
  | limit server =>
    obtain ⟨looping, same⟩ := Option.ite_none_right_eq_some.1 stepped
    have standing := inv.standing server
    rw [looping] at standing
    split at same
    · rename_i allowed
      cases same
      refine inv.moveTo _ fun some => ?_
      have room : (run.cycle.serverControls server).curConnectionSize <
          (run.cycle.serverControls server).confServer.maxConnections := by
        by_contra full
        exact allowed (limit_eq_zero full)
      obtain ⟨positive, fits⟩ := limit_of_room room
      exact ⟨positive, by rw [Int.sub_zero]; exact fits, (standing some).2 room⟩
    · cases same
      exact inv.modifyListening server .finished fun some => ⟨(standing some).1, rfl⟩
  | suspend server =>
    unfold AcceptRun.step at stepped
    dsimp only at stepped
    split at stepped
    · rename_i i maxAcceptSize accepting
      cases stepped
      refine inv.moveTo _ fun some => ?_
      have standing := inv.standing server some
      rw [accepting] at standing
      exact standing
    · cases stepped
  | accept server result =>
    unfold AcceptRun.step at stepped
    dsimp only at stepped
    split at stepped
    · rename_i i maxAcceptSize accepting
      have standing := inv.standing server
      rw [accepting] at standing
      exact inv.acceptTurn standing result stepped
    · rename_i i maxAcceptSize suspended
      have standing := inv.standing server
      rw [suspended] at standing
      exact inv.acceptTurn standing result stepped
    · cases stepped
  | freeConnection connection =>
    obtain ⟨used, same⟩ := Option.ite_none_right_eq_some.1 stepped
    cases same
    exact inv.freeConnection used
  | freeRequestConnection connection retCode =>
    obtain ⟨used, same⟩ := Option.ite_none_right_eq_some.1 stepped
    obtain ⟨pairs, pool⟩ := inv.pool
    unfold freeRequestConnection at same
    split at same
    · cases same
      have deleted := delConnection_reregistered run.cycle connection
      have owners := deleted.keepsOwners
      have kept : AcceptInv conf { run with cycle := (run.cycle.delConnection connection).2 } :=
        inv.keep ⟨pairs, pool.keep (deleted.keepsPool _)⟩  owners.objects
          fun server => by rw [owners.servers]; exact ⟨rfl, rfl, rfl⟩
      exact kept.freeConnection used
    · cases same
      have owners := keepsOwners_keepalive run.cycle connection
      exact inv.keep ⟨pairs, pool.keepalive used⟩  owners.objects
        fun server => by rw [owners.servers]; exact ⟨rfl, rfl, rfl⟩
  | getConnection calls now ip port =>
    obtain ⟨unopened, same⟩ := Option.ite_none_right_eq_some.1 stepped
    cases same
    obtain ⟨pairs, pool⟩ := inv.pool
    exact inv.handOut (pool.getConnectionIp calls now ip port false unopened)

end

/-! ## Every run -/

/-- What holds of a server after any number of steps. -/
structure AcceptSound (run : AcceptRun) (server : Nat) : Prop where
  live : ∀ connection, connection ∈ run.clients server ↔
    connection ∈ run.inUse ∧ (run.cycle.objects connection).serverControl = some server
  nodup : (run.clients server).Nodup
  counted : (run.cycle.serverControls server).curConnectionSize = (run.clients server).length
  bounded : (run.cycle.serverControls server).curConnectionSize ≤
    (run.cycle.serverControls server).confServer.maxConnections
  /-- The cleanup of a client runs when it is freed, and is gone afterwards. -/
  cleanup : ∀ connection ∈ run.inUse,
    ((run.cycle.freeConnection connection).serverControls server).curConnectionSize =
      (run.cycle.serverControls server).curConnectionSize -
        (if connection ∈ run.clients server then 1 else 0) ∧
    ((run.cycle.freeConnection connection).objects connection).handlerCleanups = []
  listening : (run.coroutine server = .finished ∨
      ∃ i maxAcceptSize, run.coroutine server = .suspended i maxAcceptSize) →
    ((run.cycle.serverControls server).listening = true ↔
      (run.cycle.serverControls server).curConnectionSize <
        (run.cycle.serverControls server).confServer.maxConnections)

theorem AcceptInv.sound {conf : Nat → CoConfServer} {run : AcceptRun} (inv : AcceptInv conf run)
    {server : Nat} (some : 1 ≤ (run.cycle.serverControls server).confServer.maxConnections) :
    AcceptSound run server where
  live connection := by
    constructor
    · intro mem
      obtain ⟨used, owned, -⟩ := inv.client server connection mem
      exact ⟨used, owned⟩
    · rintro ⟨used, owned⟩
      by_contra notMem
      have noClient : ∀ other, connection ∉ run.clients other := by
        intro other mem
        obtain ⟨-, owner, -⟩ := inv.client other connection mem
        cases owned.symm.trans owner
        exact notMem mem
      cases (inv.other connection used noClient).1.symm.trans owned
  nodup := inv.nodup server
  counted := inv.counted server
  bounded := by
    have standing := inv.standing server some
    revert standing
    cases run.coroutine server with
    | created =>
      rintro ⟨noClient, -⟩
      omega
    | finished => exact fun standing => standing.1
    | looping => exact fun standing => standing.1
    | accepting i maxAcceptSize =>
      rintro ⟨inside, fits, -⟩
      omega
    | suspended i maxAcceptSize =>
      rintro ⟨inside, fits, -⟩
      omega
  cleanup connection used := by
    obtain ⟨pairs, pool⟩ := inv.pool
    obtain ⟨-, released⟩ := pool.freeConnection used
    refine ⟨?_, released.unowned.handlerCleanups⟩
    rw [inv.freed_servers used released]
    split
    · rfl
    · exact (Int.sub_zero _).symm
  listening stopped := by
    have standing := inv.standing server some
    rcases stopped with finished | ⟨i, maxAcceptSize, suspended⟩
    · rw [finished] at standing
      rw [standing.2, hasRoom_iff]
    · rw [suspended] at standing
      obtain ⟨inside, fits, hears⟩ := standing
      exact ⟨fun _ => by omega, fun _ => hears⟩

/-- A thread whose servers are not initialised yet. -/
def AcceptRun.start (cycle : CoCycle) : AcceptRun :=
  { cycle, inUse := [], coroutine := fun _ => .created, clients := fun _ => [] }

/-- Before the first step no server has a client. -/
theorem acceptInv_start {cycle : CoCycle} {pairs : Nat} {serverControls : Nat → CoServerControl}
    (pool : PoolInv cycle pairs []) (servers : cycle.serverControls = serverControls)
    (created : ∀ server, (serverControls server).curConnectionSize = 0 ∧
      (serverControls server).listening = false) :
    AcceptInv (fun server => (serverControls server).confServer) (.start cycle) := by
  refine ⟨?_, ⟨pairs, pool⟩, ?_, ?_, ?_, ?_, ?_⟩
  · intro other
    exact congrArg (fun controls => (controls other).confServer) servers
  · exact fun _ _ mem => nomatch mem
  · exact fun _ mem => nomatch mem
  · exact fun _ => List.nodup_nil
  · intro other
    rw [AcceptRun.start, servers]
    exact (created other).1
  · intro other _
    rw [AcceptRun.start, servers]
    exact created other

/-- In every run of a thread, every server has as many clients as it counts, never
    more than it may have, and listens when it waits with room for more. -/
theorem accept_sound (kernel : Kernel) (serverControls : Nat → CoServerControl)
    (upstreams : Nat → CoUpstream) {minConnectionSize maxConnectionSize : Int}
    (created : ∀ server, (serverControls server).curConnectionSize = 0 ∧
      (serverControls server).listening = false)
    (small : minConnectionSize ≤ 2147483644)
    (started : ((fresh kernel serverControls upstreams).initPool minConnectionSize
      maxConnectionSize).1 = coOk)
    {events : List AcceptEvent} {final : AcceptRun}
    (ran : events.foldlM AcceptRun.step (.start ((fresh kernel serverControls upstreams).initPool
      minConnectionSize maxConnectionSize).2) = some final)
    (server : Nat) (positive : 1 ≤ (serverControls server).confServer.maxConnections) :
    AcceptSound final server := by
  obtain ⟨pairs, pool, grown⟩ := initPool_inv kernel serverControls upstreams small started
  have start := acceptInv_start pool grown.servers created
  have inv := Lib.run_keeps AcceptRun.step _ (fun _ _ _ inv stepped => inv.step stepped) start ran
  refine inv.sound ?_
  rw [inv.configured]
  exact positive

/-- A server for one client: `accept` blocks once, its client frees the place for
    a second one, which ends its request and stays. -/
def oneClient : List AcceptEvent := [
  .initServer 0 { socket := 3 } 1,
  .start 0, .limit 0, .suspend 0,
  .accept 0 (.client { socket := -1 } 2 7),
  .limit 0,
  .freeRequestConnection 2 coError,
  .start 0, .limit 0,
  .accept 0 .failed,
  .limit 0,
  .accept 0 (.client { socket := -1 } 3 8),
  .freeRequestConnection 2 coOk,
  .limit 0]

def oneClientServer : Nat → CoServerControl := fun _ => { confServer := { maxConnections := 1 } }

theorem accept_sound_one : ∃ final, oneClient.foldlM AcceptRun.step
      (.start ((fresh {} oneClientServer fun _ => {}).initPool 1 8).2) = some final ∧
    (final.clients 0, (final.cycle.serverControls 0).listening) = ([2], false) ∧
    AcceptSound final 0 := by
  have defined : (oneClient.foldlM AcceptRun.step
      (.start ((fresh {} oneClientServer fun _ => {}).initPool 1 8).2)).map
        (fun final => (final.clients 0, (final.cycle.serverControls 0).listening)) =
      some ([2], false) := by
    decide +kernel
  have started : ((fresh {} oneClientServer fun _ => {}).initPool 1 8).1 = coOk := by decide +kernel
  obtain ⟨final, ran, seen⟩ := Option.map_eq_some_iff.1 defined
  exact ⟨final, ran, seen, accept_sound {} oneClientServer (fun _ => {}) (fun _ => ⟨rfl, rfl⟩)
    (by decide) started ran 0 (by decide)⟩

end CoCycle

end CoServer
