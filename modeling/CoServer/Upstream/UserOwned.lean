import CoServer.Upstream.UserCode

/-! # Whose connection user code runs on

A connection is assigned to one request at a time, and a request that has not
ended has one.  The only call of user code behind the point where the connection
is given back is that of `m_userDestroy` after a retry that got no connection. -/

namespace CoServer

open UpstreamAttempt (upstreamInit)

/-- The request has a connection. -/
def Stage.Owning : Stage → Prop
  | .waiting | .userProcess | .userDestroy _ => True
  | .released | .ended => False

/-- A function of the user has been called and has not returned. -/
def Stage.UserCode : Stage → Prop
  | .userProcess | .userDestroy _ | .released => True
  | .waiting | .ended => False

/-- The connection has no request. -/
def ConnPlace.Idle : ConnPlace → Prop
  | .held _ => False
  | .pool | .client | .reuse => True

/-- How often `m_userDestroy` has been called. -/
def UserRequest.Counted (record : UserRequest) : Prop :=
  match record.stage with
  | .waiting | .userProcess => record.destroyCalls = 0
  | .userDestroy _ | .released => record.userDestroy = true ∧ record.destroyCalls = 1
  | .ended => record.destroyCalls = if record.userDestroy then 1 else 0

/-- A connection that is assigned has its request, and the other way round. -/
structure Paired (run : UserRun) : Prop where
  assigned : ∀ connection request, run.place connection = .held request →
    (run.requests request).connection = connection ∧ (run.requests request).stage.Owning
  held : ∀ request, (run.requests request).stage.Owning →
    run.place (run.requests request).connection = .held request

structure UserInv (run : UserRun) : Prop where
  paired : Paired run
  counted : ∀ request, (run.requests request).Counted
  fresh : ∀ request, run.allocated ≤ request → run.requests request = {}

/-- Every function of the user that is running has been called on a connection that its request
    still has, and `m_userDestroy` is called once. -/
structure UserOwned (run : UserRun) : Prop where
  owned : ∀ request, (run.requests request).stage.UserCode →
    run.place (run.requests request).connection = .held request
  once : ∀ request, (run.requests request).destroyCalls ≤ 1
  called : ∀ request, (run.requests request).stage = .ended →
    (run.requests request).userDestroy = true → (run.requests request).destroyCalls = 1

/-! ## What a step can do -/

/-- The connection of a request that is to be retried goes back, and the request has none. -/
def UserRun.givenBack (self : UserRun) (request : Nat) (record : UserRequest) (object : CoConnection)
    (retCode : Int) (calls : FreeCalls) : UserRun :=
  self.change request record.connection
    { record with retryTimes := record.retryTimes + 1, stage := .ended }
    (object.freeUpstream calls retCode).1 (object.freeUpstream calls retCode).2

/-- Every way a step can go, with the calls that made it go this way. -/
inductive UserStep (run : UserRun) : UserEvent → UserRun → Prop where
  | accept {connection : Nat} (isPool : run.place connection = .pool) :
      UserStep run (.accept connection) (run.changeIdle connection (run.objects connection) .client)
  | processes {connection : Nat} {userDestroy : Bool} {calls : RequestCalls} {object : CoConnection}
      (isClient : run.place connection = .client)
      (reads : (run.objects connection).requestRead calls = some (coOk, object)) :
      UserStep run (.clientRequest connection userDestroy calls)
        ({ run with allocated := run.allocated + 1 }.change run.allocated connection
          { userDestroy, connection, stage := .userProcess } object (.held run.allocated))
  | readFails {connection : Nat} {userDestroy : Bool} {calls : RequestCalls} {ret retCode : Int}
      {object after : CoConnection} (isClient : run.place connection = .client)
      (reads : (run.objects connection).requestRead calls = some (ret, object))
      (writes : object.requestWrite calls coError = some (retCode, after)) :
      UserStep run (.clientRequest connection userDestroy calls)
        ({ run with allocated := run.allocated + 1 }.finalize run.allocated
          { userDestroy, connection, stage := .userProcess } after retCode calls.free)
  | processReturns {request : Nat} {retCode ret : Int} {calls : RequestCalls} {after : CoConnection}
      (processing : (run.requests request).stage = .userProcess)
      (writes : (run.objects (run.requests request).connection).requestWrite calls retCode =
        some (ret, after)) :
      UserStep run (.processReturns request retCode calls)
        (run.finalize request (run.requests request) after ret calls.free)
  | destroyReturns {request : Nat} {retCode : Int} {calls : FreeCalls}
      (staged : (run.requests request).stage = .userDestroy retCode) :
      UserStep run (.destroyReturns request calls)
        (run.freeConnection request (run.requests request)
          (run.objects (run.requests request).connection) retCode calls)
  | releasedReturns {request : Nat} {calls : FreeCalls}
      (staged : (run.requests request).stage = .released) :
      UserStep run (.destroyReturns request calls)
        { run with
          requests := Function.update run.requests request { run.requests request with stage := .ended } }
  | addUpstream {connection : Nat} {userDestroy : Bool}
      (free : run.place connection = .pool ∨ run.place connection = .reuse) :
      UserStep run (.addUpstream connection userDestroy)
        ({ run with allocated := run.allocated + 1 }.change run.allocated connection
          { upstream := true, userDestroy, connection, stage := .waiting } (run.objects connection)
          (.held run.allocated))
  | attemptEnds {request : Nat} {calls : AttemptCalls} {parentDying : Bool} {retryMaxnum retCode : Int}
      {retried : Option Nat} {free : FreeCalls} (waits : (run.requests request).stage = .waiting)
      (finalized : (upstreamInit calls
        { connection := run.objects (run.requests request).connection }).finalizedWith = some retCode)
      (last : ¬UserRun.needRetry (run.requests request) retCode parentDying retryMaxnum = true) :
      UserStep run (.attempt request calls parentDying retryMaxnum retried free)
        (run.finalize request (run.requests request) (upstreamInit calls
          { connection := run.objects (run.requests request).connection }).connection retCode free)
  | retryFails {request : Nat} {calls : AttemptCalls} {parentDying : Bool} {retryMaxnum retCode : Int}
      {free : FreeCalls} {stage : Stage} {destroyCalls : Nat}
      (waits : (run.requests request).stage = .waiting)
      (finalized : (upstreamInit calls
        { connection := run.objects (run.requests request).connection }).finalizedWith = some retCode)
      (again : UserRun.needRetry (run.requests request) retCode parentDying retryMaxnum = true)
      (destroys : if (run.requests request).userDestroy = true then
        stage = .released ∧ destroyCalls = (run.requests request).destroyCalls + 1
        else stage = .ended ∧ destroyCalls = (run.requests request).destroyCalls) :
      UserStep run (.attempt request calls parentDying retryMaxnum none free)
        (run.change request (run.requests request).connection
          { run.requests request with
            retryTimes := (run.requests request).retryTimes + 1
            stage
            destroyCalls }
          ((upstreamInit calls
            { connection := run.objects (run.requests request).connection }).connection.freeUpstream free
              retCode).1
          ((upstreamInit calls
            { connection := run.objects (run.requests request).connection }).connection.freeUpstream free
              retCode).2)
  | retries {request connection : Nat} {calls : AttemptCalls} {parentDying : Bool}
      {retryMaxnum retCode : Int} {free : FreeCalls} {left : UserRun}
      (waits : (run.requests request).stage = .waiting)
      (finalized : (upstreamInit calls
        { connection := run.objects (run.requests request).connection }).finalizedWith = some retCode)
      (again : UserRun.needRetry (run.requests request) retCode parentDying retryMaxnum = true)
      (between : left = run.givenBack request (run.requests request) (upstreamInit calls
        { connection := run.objects (run.requests request).connection }).connection retCode free)
      (found : left.place connection = .pool ∨ left.place connection = .reuse) :
      UserStep run (.attempt request calls parentDying retryMaxnum (some connection) free)
        (left.change request connection
          { run.requests request with
            retryTimes := (run.requests request).retryTimes + 1
            connection
            stage := .waiting }
          (left.objects connection) (.held request))
  | idleClosed {connection : Nat} {calls : FreeCalls}
      (idle : run.place connection = .client ∨ run.place connection = .reuse) :
      UserStep run (.idleClosed connection calls)
        (run.changeIdle connection ((run.objects connection).close calls).1
          ((run.objects connection).close calls).2)

theorem UserRun.step_cases {run next : UserRun} {event : UserEvent} (stepped : run.step event = some next) :
    UserStep run event next := by
  cases event with
  | accept connection =>
    obtain ⟨isPool, same⟩ := Option.ite_none_right_eq_some.1 stepped
    cases same
    exact .accept isPool
  | clientRequest connection userDestroy calls =>
    obtain ⟨isClient, goesOn⟩ := Option.ite_none_right_eq_some.1 stepped
    cases reads : (run.objects connection).requestRead calls with
    | none => simp [reads] at goesOn
    | some result =>
      simp only [reads] at goesOn
      by_cases done : result.1 = coOk
      · rw [if_pos done] at goesOn
        cases goesOn
        apply UserStep.processes isClient
        rw [reads, ← done]
      · rw [if_neg done] at goesOn
        obtain ⟨written, writes, same⟩ := Option.map_eq_some_iff.1 goesOn
        cases same
        exact .readFails isClient reads writes
  | processReturns request retCode calls =>
    obtain ⟨processing, wrote⟩ := Option.ite_none_right_eq_some.1 stepped
    obtain ⟨written, writes, same⟩ := Option.map_eq_some_iff.1 wrote
    cases same
    exact .processReturns processing writes
  | destroyReturns request calls =>
    simp only [UserRun.step] at stepped
    cases staged : (run.requests request).stage with
    | waiting | userProcess | ended => simp [staged] at stepped
    | userDestroy retCode =>
      simp only [staged] at stepped
      cases stepped
      exact .destroyReturns staged
    | released =>
      simp only [staged] at stepped
      cases stepped
      exact .releasedReturns staged
  | addUpstream connection userDestroy =>
    obtain ⟨free, same⟩ := Option.ite_none_right_eq_some.1 stepped
    cases same
    exact .addUpstream free
  | attempt request calls parentDying retryMaxnum retried free =>
    obtain ⟨⟨waits, -⟩, bound⟩ := Option.ite_none_right_eq_some.1 stepped
    obtain ⟨retCode, finalized, goesOn⟩ := Option.bind_eq_some_iff.1 bound
    by_cases again : UserRun.needRetry (run.requests request) retCode parentDying retryMaxnum = true
    · rw [if_pos again] at goesOn
      cases retried with
      | none =>
        cases goesOn
        by_cases isSet : (run.requests request).userDestroy = true
        · rw [if_pos isSet]
          exact .retryFails waits finalized again (by simp [isSet])
        · rw [if_neg isSet]
          exact .retryFails waits finalized again (by simp [isSet])
      | some connection =>
        simp only [UserRun.retry] at goesOn
        obtain ⟨found, same⟩ := Option.ite_none_right_eq_some.1 goesOn
        cases same
        exact .retries waits finalized again rfl found
    · rw [if_neg again] at goesOn
      cases goesOn
      exact .attemptEnds waits finalized again
  | idleClosed connection calls =>
    obtain ⟨idle, same⟩ := Option.ite_none_right_eq_some.1 stepped
    cases same
    exact .idleClosed idle

/-! ## Steps of one request -/

theorem ConnPlace.Idle.apart {place : ConnPlace} (idle : place.Idle) (request : Nat) :
    place ≠ .held request := by
  intro held
  rw [held] at idle
  exact idle

theorem idle_of_free {place : ConnPlace} (free : place = .pool ∨ place = .reuse) : place.Idle := by
  cases free with
  | inl isPool => simp [isPool, ConnPlace.Idle]
  | inr isReuse => simp [isReuse, ConnPlace.Idle]

theorem idle_of_open {place : ConnPlace} (isOpen : place = .client ∨ place = .reuse) : place.Idle := by
  cases isOpen with
  | inl isClient => simp [isClient, ConnPlace.Idle]
  | inr isReuse => simp [isReuse, ConnPlace.Idle]

section
variable {run next : UserRun} {request connection : Nat} {record : UserRequest} {object : CoConnection}
  {place : ConnPlace}

theorem Paired.changeIdle (paired : Paired run) (was : (run.place connection).Idle) (now : place.Idle) :
    Paired (run.changeIdle connection object place) where
  assigned := by
    intro other request held
    by_cases same : other = connection
    · subst same
      simp only [UserRun.changeIdle, Function.update_self] at held
      exact absurd held (now.apart request)
    · simp only [UserRun.changeIdle, Function.update_of_ne same] at held
      exact paired.assigned other request held
  held := by
    intro request owning
    have held := paired.held request owning
    have apart : (run.requests request).connection ≠ connection := by
      intro same
      rw [same] at held
      exact was.apart request held
    exact (Function.update_of_ne apart _ _).trans held

theorem UserInv.changeIdle (inv : UserInv run) (was : (run.place connection).Idle) (now : place.Idle) :
    UserInv (run.changeIdle connection object place) :=
  ⟨inv.paired.changeIdle was now, inv.counted, inv.fresh⟩

theorem UserInv.allocate (inv : UserInv run) : UserInv { run with allocated := run.allocated + 1 } :=
  ⟨⟨inv.paired.assigned, inv.paired.held⟩, inv.counted,
    fun other above => inv.fresh other (Nat.le_of_succ_le above)⟩

/-- Before a step of a request: it has the connection, or neither of them is paired yet. -/
def Ready (run : UserRun) (request connection : Nat) : Prop :=
  run.place connection = .held request ∨
    (run.place connection).Idle ∧ ¬(run.requests request).stage.Owning

/-- After the step it is the same again. -/
def StillReady (request connection : Nat) (record : UserRequest) (place : ConnPlace) : Prop :=
  place = .held request ∧ record.connection = connection ∧ record.stage.Owning ∨
    place.Idle ∧ ¬record.stage.Owning

theorem Paired.ready (paired : Paired run) (owning : (run.requests request).stage.Owning) :
    Ready run request (run.requests request).connection :=
  .inl (paired.held request owning)

/-- Another connection is not that of the request. -/
theorem Paired.holder_apart (paired : Paired run) (was : Ready run request connection) {other holder : Nat}
    (held : run.place other = .held holder) (apart : other ≠ connection) : holder ≠ request := by
  intro same
  subst same
  have before := paired.assigned other holder held
  obtain was | ⟨-, unpaired⟩ := was
  · exact apart (before.1.symm.trans (paired.assigned connection holder was).1)
  · exact unpaired before.2

/-- And another request has another connection. -/
theorem Paired.connection_apart (paired : Paired run) (was : Ready run request connection) {holder : Nat}
    (owning : (run.requests holder).stage.Owning) (apart : holder ≠ request) :
    (run.requests holder).connection ≠ connection := by
  intro same
  have held := paired.held holder owning
  rw [same] at held
  obtain was | ⟨idle, -⟩ := was
  · exact apart (ConnPlace.held.inj (held.symm.trans was))
  · exact idle.apart holder held

theorem Paired.change (paired : Paired run) (was : Ready run request connection)
    (now : StillReady request connection record place) :
    Paired (run.change request connection record object place) where
  assigned := by
    intro other holder held
    by_cases same : other = connection
    · subst same
      simp only [UserRun.change, Function.update_self] at held ⊢
      obtain ⟨isHeld, connected, owning⟩ | ⟨idle, -⟩ := now
      · cases isHeld.symm.trans held
        rw [Function.update_self]
        exact ⟨connected, owning⟩
      · exact absurd held (idle.apart holder)
    · simp only [UserRun.change, Function.update_of_ne same] at held ⊢
      rw [Function.update_of_ne (paired.holder_apart was held same)]
      exact paired.assigned other holder held
  held := by
    intro holder owning
    by_cases same : holder = request
    · subst same
      simp only [UserRun.change, Function.update_self] at owning ⊢
      obtain ⟨isHeld, connected, -⟩ | ⟨-, unpaired⟩ := now
      · rw [connected, Function.update_self, isHeld]
      · exact absurd owning unpaired
    · simp only [UserRun.change, Function.update_of_ne same] at owning ⊢
      rw [Function.update_of_ne (paired.connection_apart was owning same)]
      exact paired.held holder owning

theorem UserInv.change (inv : UserInv run) (below : request < run.allocated)
    (was : Ready run request connection) (now : StillReady request connection record place)
    (counted : record.Counted) : UserInv (run.change request connection record object place) where
  paired := inv.paired.change was now
  counted := by
    intro other
    by_cases same : other = request
    · subst same
      simp only [UserRun.change, Function.update_self]
      exact counted
    · simp only [UserRun.change, Function.update_of_ne same]
      exact inv.counted other
  fresh := by
    intro other above
    have apart : other ≠ request := (Nat.lt_of_lt_of_le below above).ne'
    simp only [UserRun.change, Function.update_of_ne apart]
    exact inv.fresh other above

theorem freeRequest_idle (object : CoConnection) (calls : FreeCalls) (retCode : Int) :
    (object.freeRequest calls retCode).2.Idle := by
  unfold CoConnection.freeRequest
  split <;> trivial

theorem freeUpstream_idle (object : CoConnection) (calls : FreeCalls) (retCode : Int) :
    (object.freeUpstream calls retCode).2.Idle := by
  unfold CoConnection.freeUpstream
  split <;> trivial

theorem UserInv.freeConnection (inv : UserInv run) (below : request < run.allocated)
    (ready : Ready run request record.connection) {retCode : Int} {calls : FreeCalls}
    (counted : UserRequest.Counted { record with stage := .ended }) :
    UserInv (run.freeConnection request record object retCode calls) := by
  simp only [UserRun.freeConnection]
  apply inv.change below ready _ counted
  right
  split
  · exact ⟨freeUpstream_idle object calls retCode, id⟩
  · exact ⟨freeRequest_idle object calls retCode, id⟩

theorem UserInv.finalize (inv : UserInv run) (below : request < run.allocated)
    (ready : Ready run request record.connection) {retCode : Int} {calls : FreeCalls}
    (uncalled : record.destroyCalls = 0) :
    UserInv (run.finalize request record object retCode calls) := by
  unfold UserRun.finalize
  split
  · rename_i isSet
    apply inv.change below ready
    · exact .inl ⟨rfl, rfl, trivial⟩
    · exact ⟨isSet, by simp [uncalled]⟩
  · rename_i notSet
    apply inv.freeConnection below ready
    simp [UserRequest.Counted, notSet, uncalled]

theorem Paired.givenBack (paired : Paired run) (was : Ready run request record.connection)
    {retCode : Int} {calls : FreeCalls} : Paired (run.givenBack request record object retCode calls) :=
  paired.change was (.inr ⟨freeUpstream_idle object calls retCode, id⟩)

/-- What is given back can be assigned again, to whomever. -/
theorem ready_givenBack {retCode : Int} {calls : FreeCalls}
    (found : (run.givenBack request record object retCode calls).place connection = .pool ∨
      (run.givenBack request record object retCode calls).place connection = .reuse) :
    Ready (run.givenBack request record object retCode calls) request connection :=
  .inr ⟨idle_of_free found, by simp [UserRun.givenBack, UserRun.change, Stage.Owning]⟩

theorem UserInv.retries (inv : UserInv run) (below : request < run.allocated)
    (ready : Ready run request record.connection) {retCode : Int} {calls : FreeCalls}
    (found : (run.givenBack request record object retCode calls).place connection = .pool ∨
      (run.givenBack request record object retCode calls).place connection = .reuse)
    (uncalled : record.destroyCalls = 0) {other : CoConnection} :
    UserInv ((run.givenBack request record object retCode calls).change request connection
      { record with retryTimes := record.retryTimes + 1, connection, stage := .waiting } other
      (.held request)) where
  paired := by
    apply (inv.paired.givenBack ready).change (ready_givenBack found)
    exact .inl ⟨rfl, rfl, trivial⟩
  counted := by
    intro other
    by_cases same : other = request
    · subst same
      simp [UserRun.change, UserRequest.Counted, uncalled]
    · simp only [UserRun.givenBack, UserRun.change, Function.update_of_ne same]
      exact inv.counted other
  fresh := by
    intro other above
    have apart : other ≠ request := (Nat.lt_of_lt_of_le below above).ne'
    simp only [UserRun.givenBack, UserRun.change, Function.update_of_ne apart]
    exact inv.fresh other above

/-! ## Any step -/

/-- A request that has not ended was allocated. -/
theorem UserInv.below (inv : UserInv run) (lives : (run.requests request).stage ≠ .ended) :
    request < run.allocated := by
  by_contra above
  apply lives
  rw [inv.fresh request (Nat.le_of_not_lt above)]

/-- The next request to be allocated has no connection yet. -/
theorem UserInv.ready_allocated (inv : UserInv run) (idle : (run.place connection).Idle) :
    Ready { run with allocated := run.allocated + 1 } run.allocated connection := by
  right
  simp only [inv.fresh run.allocated (Nat.le_refl _)]
  exact ⟨idle, id⟩

theorem UserInv.released (inv : UserInv run) (isReleased : (run.requests request).stage = .released)
    {requests : Nat → UserRequest} (ended : requests =
      Function.update run.requests request { run.requests request with stage := .ended }) :
    UserInv { run with requests } := by
  subst ended
  constructor
  · constructor
    · intro connection holder held
      have before := inv.paired.assigned connection holder held
      have apart : holder ≠ request := by
        intro same
        rw [same, isReleased] at before
        exact before.2
      simp only [Function.update_of_ne apart]
      exact before
    · intro holder owning
      by_cases same : holder = request
      · subst same
        simp [Stage.Owning] at owning
      · simp only [Function.update_of_ne same] at owning ⊢
        exact inv.paired.held holder owning
  · intro other
    by_cases same : other = request
    · subst same
      have called := inv.counted other
      simp only [UserRequest.Counted, isReleased] at called
      simp [UserRequest.Counted, called]
    · simp only [Function.update_of_ne same]
      exact inv.counted other
  · intro other above
    have apart : other ≠ request := by
      intro same
      subst same
      exact absurd (inv.below (by simp [isReleased])) (Nat.not_lt.2 above)
    simp only [Function.update_of_ne apart]
    exact inv.fresh other above

theorem UserInv.step {event : UserEvent} (inv : UserInv run) (stepped : run.step event = some next) :
    UserInv next := by
  cases UserRun.step_cases stepped with
  | accept isPool => exact inv.changeIdle (by simp [isPool, ConnPlace.Idle]) trivial
  | processes isClient =>
    apply inv.allocate.change (Nat.lt_succ_self _)
    · exact inv.ready_allocated (by simp [isClient, ConnPlace.Idle])
    · exact .inl ⟨rfl, rfl, trivial⟩
    · rfl
  | readFails isClient =>
    apply inv.allocate.finalize (Nat.lt_succ_self _)
    · exact inv.ready_allocated (by simp [isClient, ConnPlace.Idle])
    · rfl
  | @processReturns request _ _ _ _ processing =>
    have uncalled := inv.counted request
    simp only [UserRequest.Counted, processing] at uncalled
    apply inv.finalize (inv.below (by simp [processing])) _ uncalled
    exact inv.paired.ready (by simp [processing, Stage.Owning])
  | @destroyReturns request _ _ staged =>
    have called := inv.counted request
    simp only [UserRequest.Counted, staged] at called
    apply inv.freeConnection (inv.below (by simp [staged]))
    · exact inv.paired.ready (by simp [staged, Stage.Owning])
    · simp [UserRequest.Counted, called]
  | releasedReturns staged => exact inv.released staged rfl
  | addUpstream free =>
    apply inv.allocate.change (Nat.lt_succ_self _)
    · exact inv.ready_allocated (idle_of_free free)
    · exact .inl ⟨rfl, rfl, trivial⟩
    · rfl
  | @attemptEnds request _ _ _ _ _ _ waits =>
    have uncalled := inv.counted request
    simp only [UserRequest.Counted, waits] at uncalled
    apply inv.finalize (inv.below (by simp [waits])) _ uncalled
    exact inv.paired.ready (by simp [waits, Stage.Owning])
  | @retryFails request _ _ _ _ _ stage _ waits _ _ destroys =>
    have uncalled := inv.counted request
    simp only [UserRequest.Counted, waits] at uncalled
    have unpaired : ¬stage.Owning := by
      split at destroys
      · simp [destroys.1, Stage.Owning]
      · simp [destroys.1, Stage.Owning]
    apply inv.change (inv.below (by simp [waits]))
    · exact inv.paired.ready (by simp [waits, Stage.Owning])
    · exact .inr ⟨freeUpstream_idle _ _ _, unpaired⟩
    · split at destroys
      · simp_all [UserRequest.Counted]
      · simp_all [UserRequest.Counted]
  | @retries request _ _ _ _ _ _ _ waits _ _ between found =>
    subst between
    have uncalled := inv.counted request
    simp only [UserRequest.Counted, waits] at uncalled
    apply inv.retries (inv.below (by simp [waits])) _ found uncalled
    exact inv.paired.ready (by simp [waits, Stage.Owning])
  | idleClosed idle => exact inv.changeIdle (idle_of_open idle) trivial

/-! ## Callbacks on a released connection -/

/-- No function of the user is running on a connection that was given back. -/
def NoneReleased (run : UserRun) : Prop := ∀ request, (run.requests request).stage ≠ .released

theorem userOwned_iff (inv : UserInv run) : UserOwned run ↔ NoneReleased run := by
  constructor
  · intro owned request isReleased
    have held := owned.owned request (by simp [isReleased, Stage.UserCode])
    have owning := (inv.paired.assigned _ request held).2
    rw [isReleased] at owning
    exact owning
  · intro none
    constructor
    · intro request calls
      apply inv.paired.held request
      cases staged : (run.requests request).stage with
      | waiting | userProcess | userDestroy _ => trivial
      | released => exact absurd staged (none request)
      | ended => simp [staged, Stage.UserCode] at calls
    · intro request
      have counted := inv.counted request
      unfold UserRequest.Counted at counted
      split at counted
      · simp [counted]
      · simp [counted]
      · simp [counted.2]
      · simp [counted.2]
      · rw [counted]
        split <;> simp
    · intro request ended isSet
      have counted := inv.counted request
      simpa [UserRequest.Counted, ended, isSet] using counted

/-- An attempt of a request with `m_userDestroy` that is to be retried gets a connection. -/
def RetryConnects (run : UserRun) : UserEvent → Prop
  | .attempt request calls parentDying retryMaxnum none _ =>
    let record := run.requests request
    record.userDestroy = true → ∀ retCode,
      (upstreamInit calls { connection := run.objects record.connection }).finalizedWith = some retCode →
        UserRun.needRetry record retCode parentDying retryMaxnum = false
  | _ => True

theorem NoneReleased.change (none : NoneReleased run) (other : record.stage ≠ .released) :
    NoneReleased (run.change request connection record object place) := by
  intro holder
  by_cases same : holder = request
  · subst same
    simpa [UserRun.change] using other
  · simpa only [UserRun.change, Function.update_of_ne same] using none holder

theorem NoneReleased.finalize (none : NoneReleased run) {retCode : Int} {calls : FreeCalls} :
    NoneReleased (run.finalize request record object retCode calls) := by
  unfold UserRun.finalize
  split
  · exact none.change nofun
  · exact none.change nofun

theorem NoneReleased.step {event : UserEvent} (none : NoneReleased run)
    (connects : RetryConnects run event) (stepped : run.step event = some next) : NoneReleased next := by
  have allocated : NoneReleased { run with allocated := run.allocated + 1 } := none
  cases UserRun.step_cases stepped with
  | accept | idleClosed => exact none
  | processes | addUpstream => exact allocated.change nofun
  | readFails => exact allocated.finalize
  | processReturns | attemptEnds => exact none.finalize
  | destroyReturns => exact none.change nofun
  | @releasedReturns request _ staged => exact absurd staged (none request)
  | @retryFails request _ _ _ retCode _ _ _ _ finalized again destroys =>
    -- then it is a request without `m_userDestroy`
    have notSet : ¬(run.requests request).userDestroy = true := by
      intro isSet
      rw [connects isSet retCode finalized] at again
      cases again
    rw [if_neg notSet] at destroys
    exact none.change (by simp [destroys.1])
  | retries _ _ _ between =>
    subst between
    exact NoneReleased.change (none.change nofun) nofun

/-- A retry that gets no connection calls `m_userDestroy` on the released one. -/
theorem retryConnects_of_none {event : UserEvent} (stepped : run.step event = some next)
    (none : NoneReleased next) : RetryConnects run event := by
  cases UserRun.step_cases stepped with
  | @retryFails request _ _ _ _ _ _ _ _ finalized again destroys =>
    intro isSet retCode finalizedToo
    rw [if_pos isSet] at destroys
    exact absurd (by simp [UserRun.change, destroys.1]) (none request)
  | @attemptEnds request _ _ _ _ retried _ _ finalized last =>
    cases retried with
    | some connection => trivial
    | none =>
      intro _ retCode finalizedToo
      cases finalized.symm.trans finalizedToo
      exact (Bool.not_eq_true _).mp last
  | accept | processes | readFails | processReturns | destroyReturns | releasedReturns | addUpstream
  | retries | idleClosed => trivial

end

/-! ## Runs -/

theorem userInv_start (objects : Nat → CoConnection) : UserInv { objects } where
  paired := ⟨nofun, fun _ owning => owning.elim⟩
  counted _ := rfl
  fresh _ _ := rfl

/-- In any run from its start: every function of the user runs on a connection that its request still
    has, and `m_userDestroy` is called once, if and only if no retry of a request with
    `m_userDestroy` is left without a connection. -/
theorem user_code_owned_iff (objects : Nat → CoConnection) {events : List UserEvent} {final : UserRun}
    (ran : events.foldlM UserRun.step { objects } = some final) :
    (∀ (first : List UserEvent) middle, first <+: events → first.foldlM UserRun.step { objects } = some middle →
      UserOwned middle) ↔ Lib.Along UserRun.step RetryConnects { objects } events := by
  have all : (∀ (first : List UserEvent) middle, first <+: events → first.foldlM UserRun.step { objects } = some middle →
      UserOwned middle) ↔
      ∀ (first : List UserEvent) middle, first <+: events → first.foldlM UserRun.step { objects } = some middle →
        NoneReleased middle := by
    have inv : ∀ (first : List UserEvent) middle, first.foldlM UserRun.step { objects } = some middle → UserInv middle := by
      intro first middle reached
      exact Lib.run_keeps UserRun.step UserInv (fun _ _ _ inv stepped => inv.step stepped)
        (userInv_start objects) reached
    constructor
    · intro owned first middle starts reached
      exact (userOwned_iff (inv first middle reached)).1 (owned first middle starts reached)
    · intro none first middle starts reached
      exact (userOwned_iff (inv first middle reached)).2 (none first middle starts reached)
  rw [all]
  exact Lib.run_along_iff UserRun.step (fun _ _ _ (inv : UserInv _) stepped => inv.step stepped)
    (fun _ _ _ _ none connects stepped => none.step connects stepped)
    (fun _ _ _ _ _ stepped none => retryConnects_of_none stepped none) (userInv_start objects) nofun ran

/-- A detached request whose attempt succeeds, and whose connection is kept. -/
def detachedRequest : List UserEvent :=
  [.addUpstream 0 true, .attempt 0 { turns := [{ tcpRead := some 1 }] } false 1 none {},
    .destroyReturns 0 {}]

theorem detachedRequest_owned :
    (∀ (first : List UserEvent) middle, first <+: detachedRequest →
      first.foldlM UserRun.step {} = some middle → UserOwned middle) ↔
        Lib.Along UserRun.step RetryConnects {} detachedRequest :=
  user_code_owned_iff (fun _ => {}) rfl

/-- The server of a detached request cannot be connected, and the retry gets no connection. -/
def retryFails : List UserEvent :=
  [.addUpstream 0 true, .attempt 0 { clientConnect := some coError } false 1 none {}]

/-- `m_userDestroy` runs on a connection that is in the pool. -/
theorem user_code_released : ¬∀ objects (events : List UserEvent) final,
    events.foldlM UserRun.step { objects } = some final → UserOwned final := by
  intro all
  have owned := all (fun _ => {}) retryFails _ rfl
  have held := owned.owned 0 trivial
  exact absurd held (by decide)

end CoServer
