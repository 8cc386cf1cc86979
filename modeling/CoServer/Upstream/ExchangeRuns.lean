import CoServer.Upstream.ExchangeSteps

/-! # The calls of a kept connection

What the steps of both ends keep, put together over whole runs: no response is
taken for another request, and where neither end fails every request is answered. -/

namespace CoServer

open Lib (Call CallEvent RemoteCalls)

theorem RequestEnd.Failed.writeTurn {server : RequestEnd CoProtocolTcp} {retCode : Int} (failed : server.Failed)
    (turn : server.turn = .write retCode) (accepts : Nat) : (server.writeTurn retCode accepts).2.Failed := by
  have notOk : retCode ≠ coOk := by
    rcases failed with closed | ⟨other, notOk, writes⟩
    · cases turn.symm.trans closed
    · cases turn.symm.trans writes
      exact notOk
  unfold RequestEnd.writeTurn
  split
  · dsimp only
    split
    · exact .inr ⟨retCode, notOk, turn⟩
    · exact .inl (by rw [RequestEnd.requestFinalize_failed (by decide)])
  · exact .inl (by rw [RequestEnd.requestFinalize_failed notOk])

/-- A socket that takes a byte lets a response go on. -/
theorem RequestEnd.writeTurn_alive {server : RequestEnd CoProtocolTcp} (usable : server.coBuffer.Usable)
    (small : server.coBuffer.region.length < 2 ^ 32) (turn : server.turn = .write coOk) :
    ¬(server.writeTurn coOk 1).2.Failed := by
  by_cases empty : server.coBuffer.region = []
  · rw [writeTurn_empty usable empty, requestFinalize_ok]
    simp [Failed]
  · have positive := usable.writeTurn_pos empty small (by decide : 0 < 1 ∧ 1 < 2 ^ 31)
    rcases writeTurn_more usable empty 1 with ⟨sent, coBuffer, -, -, -, turned⟩ | ⟨nothing, -⟩
    · rw [turned]
      simp [Failed, turn]
    · omega

theorem UpstreamEnd.writeTurn_alive {client : UpstreamEnd CoProtocolTcp} {protocol : CoProtocolTcp}
    (usable : client.coBuffer.Usable) (small : client.coBuffer.region.length < 2 ^ 32)
    (turn : client.turn = .write protocol) : (client.writeTurn protocol 1).2.turn ≠ .closed := by
  by_cases empty : client.coBuffer.region = []
  · rw [writeTurn_empty usable empty]
    exact nofun
  · have positive := usable.writeTurn_pos empty small (by decide : 0 < 1 ∧ 1 < 2 ^ 31)
    rcases writeTurn_more usable empty 1 with ⟨sent, coBuffer, -, -, -, turned⟩ | ⟨nothing, -⟩
    · rw [turned]
      simp [turn]
    · omega

theorem FramePart.more {body bytes : Bytes} (part : FramePart body bytes) (nonempty : body ≠ []) :
    bytes.length < (frame body).length := by
  have length := List.length_pos_iff.2 nonempty
  have whole := frame_length body
  rcases part with header | part <;> omega

namespace Exchange

variable {userProcess : Nat → CoProtocolTcp → Int × CoProtocolTcp}
  {exchange next final : Exchange CoProtocolTcp CoProtocolTcp} {calls : RemoteCalls Bytes Bytes}
  {event : ExchangeEvent CoProtocolTcp} {events : List (ExchangeEvent CoProtocolTcp)} {protocol : CoProtocolTcp}

/-! ## Ends that have failed -/

theorem client_stays (stepped : exchange.step tcpClient tcpServer userProcess event = some next)
    (closed : exchange.client.turn = .closed) : next.client.turn = .closed := by
  cases event with
  | upstreamWrite protocol memory => simp [step, closed] at stepped
  | upstreamSend accepts => simp [step, closed] at stepped
  | upstreamRecv count memory => simp [step, closed] at stepped
  | upstreamClose =>
    cases stepped
    rfl
  | requestRecv count memory response =>
    simp only [step] at stepped
    split at stepped
    · cases stepped
    · split at stepped
      · obtain ⟨server, -, rfl⟩ := Option.map_eq_some_iff.1 stepped
        exact closed
      · obtain ⟨server, -, rfl⟩ := Option.map_eq_some_iff.1 stepped
        exact closed
      · cases stepped
  | requestSend accepts =>
    simp only [step] at stepped
    split at stepped <;> cases stepped
    exact closed
  | requestClose =>
    simp only [step] at stepped
    split at stepped <;> cases stepped
    exact closed

theorem server_stays (stepped : exchange.step tcpClient tcpServer userProcess event = some next)
    (failed : exchange.server.Failed) : next.server.Failed := by
  cases event with
  | upstreamWrite protocol memory =>
    simp only [step] at stepped
    split at stepped
    · obtain ⟨client, -, rfl⟩ := Option.map_eq_some_iff.1 stepped
      exact failed
    · cases stepped
  | upstreamSend accepts =>
    simp only [step] at stepped
    split at stepped <;> cases stepped
    exact failed
  | upstreamRecv count memory =>
    simp only [step] at stepped
    split at stepped
    · cases stepped
    · split at stepped
      · obtain ⟨client, -, rfl⟩ := Option.map_eq_some_iff.1 stepped
        exact failed
      · cases stepped
  | upstreamClose =>
    cases stepped
    exact failed
  | requestRecv count memory response =>
    rcases failed with turn | ⟨retCode, -, turn⟩ <;> simp [step, turn] at stepped
  | requestSend accepts =>
    simp only [step] at stepped
    split at stepped
    · rename_i retCode turn
      cases stepped
      exact failed.writeTurn turn accepts
    · cases stepped
  | requestClose =>
    rcases failed with turn | ⟨retCode, -, turn⟩ <;> simp [step, turn] at stepped

/-- An end that has failed stays so. -/
theorem Alive.before (alive : next.Alive) (stepped : exchange.step tcpClient tcpServer userProcess event = some next) :
    exchange.Alive :=
  ⟨fun closed => alive.client (client_stays stepped closed), fun failed => alive.server (server_stays stepped failed)⟩

/-! ## Runs -/

theorem agrees_fresh : ({} : Exchange CoProtocolTcp CoProtocolTcp).Agrees userProcess {} where
  client := CoBuffer.usable_fresh
  server := CoBuffer.usable_fresh
  fresh _ := rfl
  answered := rfl
  handled := rfl
  carries := {
    client := .inl rfl
    server := nofun
    toServer := .inr rfl
    toClient := .nil }

/-- A run of the ends is one of the calls. -/
theorem Agrees.run (agrees : exchange.Agrees userProcess calls) (fits : ∀ event ∈ events, event.Fits userProcess)
    (kept : ∀ count protocol, (userProcess count protocol).2.type = protocol.type)
    (ran : events.foldlM (Exchange.step tcpClient tcpServer userProcess) exchange = some final) :
    ∃ (labels : List (CallEvent Bytes)) (after : RemoteCalls Bytes Bytes),
      labels.foldlM (RemoteCalls.step (tcpHandler userProcess)) calls = some after ∧
      after.asked = calls.asked ++ events.flatMap ExchangeEvent.asks ∧ final.Agrees userProcess after := by
  induction events generalizing exchange calls with
  | nil =>
    cases ran
    exact ⟨[], calls, rfl, by simp, agrees⟩
  | cons event rest ih =>
    obtain ⟨next, stepped, ran⟩ := Lib.run_cons.1 ran
    obtain ⟨labels, middle, ranCalls, asked, agrees, -⟩ := agrees.step (fits event List.mem_cons_self) kept stepped
    obtain ⟨others, after, goesOn, askedAll, agrees⟩ :=
      ih agrees (fun other mem => fits other (List.mem_cons_of_mem _ mem)) ran
    refine ⟨labels ++ others, after, ?_, ?_, agrees⟩
    · rw [List.foldlM_append, ranCalls]
      exact goesOn
    · rw [askedAll, asked, List.flatMap_cons, List.append_assoc]

/-- The turns that bring the calls forward are bounded. -/
theorem Agrees.run_bounded (agrees : exchange.Agrees userProcess calls)
    (kept : ∀ count protocol, (userProcess count protocol).2.type = protocol.type)
    (silent : ∀ event ∈ events, event.asks = []) (fits : ∀ event ∈ events, event.Fits userProcess)
    (ran : events.foldlM (Exchange.step tcpClient tcpServer userProcess) exchange = some final) (alive : final.Alive) :
    exchange.Alive ∧ events.length ≤ exchange.remaining userProcess calls := by
  induction events generalizing exchange calls with
  | nil =>
    cases ran
    exact ⟨alive, Nat.zero_le _⟩
  | cons event rest ih =>
    obtain ⟨next, stepped, ran⟩ := Lib.run_cons.1 ran
    obtain ⟨labels, middle, ranCalls, asked, agrees, less⟩ := agrees.step (fits event List.mem_cons_self) kept stepped
    obtain ⟨nextAlive, bound⟩ := ih agrees (fun other mem => silent other (List.mem_cons_of_mem _ mem))
      (fun other mem => fits other (List.mem_cons_of_mem _ mem)) ran
    have forward := less nextAlive (silent event List.mem_cons_self)
    exact ⟨nextAlive.before stepped, by rw [List.length_cons]; omega⟩

/-- Whatever the two ends, the sockets and the user's function do, and wherever an end
    fails: the responses that the upstream has taken are, in order, those that the server's
    function made of these requests; it was called for the requests in order, and at most
    the last one is without an answer. -/
theorem answered_in_turn (kept : ∀ count protocol, (userProcess count protocol).2.type = protocol.type)
    (fits : ∀ event ∈ events, event.Fits userProcess)
    (ran : events.foldlM (Exchange.step tcpClient tcpServer userProcess) {} = some final) :
    final.client.bodies <+: final.server.bodies ∧
      final.server.bodies <+:
        RemoteCalls.replies (tcpHandler userProcess) (events.flatMap ExchangeEvent.asks) ∧
      (events.flatMap ExchangeEvent.asks).length ≤ final.client.bodies.length + 1 := by
  obtain ⟨labels, after, ranCalls, asked, agrees⟩ := agrees_fresh.run fits kept ran
  have paired := (RemoteCalls.paired_run ranCalls).answers
  rw [asked, List.nil_append, ← agrees.answered, ← agrees.handled] at paired
  exact paired

/-- The server's function answers with the request and the number of its call. -/
def counting (count : Nat) (protocol : CoProtocolTcp) : Int × CoProtocolTcp :=
  (coOk, { protocol with respMsg := { body := protocol.reqMsg.body ++ [UInt8.ofNat count] } })

def asking (byte : UInt8) : ExchangeEvent CoProtocolTcp :=
  .upstreamWrite { type := protocolTcpClient, reqMsg := { body := [byte] } } fun _ => ⟨4096, []⟩

/-- Two calls in pieces; the second request is written before the server has left the loop of
    its first response. -/
def twoCalls : List (ExchangeEvent CoProtocolTcp) :=
  [asking 7, .upstreamSend 4, .requestRecv 4 ⟨4096, []⟩ fun _ => ⟨4096, []⟩, .upstreamSend 9, .upstreamSend 1,
    .requestRecv 5 ⟨4096, []⟩ fun _ => ⟨4096, []⟩, .requestSend 6, .upstreamRecv 6 ⟨4096, []⟩, .requestSend 9,
    .upstreamRecv 4 ⟨4096, []⟩, asking 8, .upstreamSend 9, .requestSend 1, .upstreamSend 1,
    .requestRecv 9 ⟨4096, []⟩ fun _ => ⟨4096, []⟩, .requestSend 99, .upstreamRecv 10 ⟨4096, []⟩]

theorem fits_asking (byte : UInt8) : (asking byte).Fits counting := by
  have length : ∀ count, (tcpHandler counting count [byte]).length = 2 := fun _ => rfl
  refine ⟨rfl, by simp [frame_length, coMsgTcpHeadLen], fun count => ?_⟩
  simp only [frame_length, length, coMsgTcpHeadLen]
  decide

theorem twoCalls_fit : ∀ event ∈ twoCalls, event.Fits counting := by
  intro event mem
  cases event with
  | upstreamWrite protocol memory =>
    simp only [twoCalls, asking, List.mem_cons, ExchangeEvent.upstreamWrite.injEq, reduceCtorEq, false_or,
      List.not_mem_nil, or_false] at mem
    rcases mem with ⟨rfl, rfl⟩ | ⟨rfl, rfl⟩
    · exact fits_asking 7
    · exact fits_asking 8
  | _ => trivial

theorem answered_in_turn_two : ∃ final,
    twoCalls.foldlM (Exchange.step tcpClient tcpServer counting) {} = some final ∧
    final.client.bodies = [([7], [7, 0]), ([8], [8, 1])] ∧ final.client.bodies <+: final.server.bodies := by
  have ends : (twoCalls.foldlM (Exchange.step tcpClient tcpServer counting) {}).map (fun final => final.client.bodies) =
      some [([7], [7, 0]), ([8], [8, 1])] := by
    decide +kernel
  obtain ⟨final, ran, bodies⟩ := Option.map_eq_some_iff.1 ends
  exact ⟨final, ran, bodies, (answered_in_turn (fun _ _ => rfl) twoCalls_fit ran).1⟩

/-! ## Progress -/

/-- Neither the request nor the response is empty. -/
def NonemptyCall (userProcess : Nat → CoProtocolTcp → Int × CoProtocolTcp) (body : Bytes) : Prop :=
  body ≠ [] ∧ ∀ count, tcpHandler userProcess count body ≠ []

/-- A turn that brings the call at hand forward. -/
def Advances (userProcess : Nat → CoProtocolTcp → Int × CoProtocolTcp)
    (exchange : Exchange CoProtocolTcp CoProtocolTcp) : Prop :=
  ∃ (event : ExchangeEvent CoProtocolTcp) (next : Exchange CoProtocolTcp CoProtocolTcp),
    event.asks = [] ∧ exchange.step tcpClient tcpServer userProcess event = some next ∧ next.Alive

theorem advances_upstreamSend (usable : exchange.client.coBuffer.Usable) (alive : exchange.Alive)
    (turn : exchange.client.turn = .write protocol) (small : exchange.client.coBuffer.region.length < 2 ^ 32) :
    exchange.Advances userProcess := by
  refine ⟨.upstreamSend 1, { exchange with
    client := (exchange.client.writeTurn protocol 1).2
    toServer := exchange.toServer ++ (exchange.client.writeTurn protocol 1).1 }, rfl, by simp [step, turn], ?_,
    alive.server⟩
  exact UpstreamEnd.writeTurn_alive usable small turn

theorem advances_requestSend (usable : exchange.server.coBuffer.Usable) (alive : exchange.Alive) {retCode : Int}
    (turn : exchange.server.turn = .write retCode) (small : exchange.server.coBuffer.region.length < 2 ^ 32) :
    exchange.Advances userProcess := by
  have ok : retCode = coOk := by
    by_contra failed
    exact alive.server (.inr ⟨retCode, failed, turn⟩)
  subst ok
  refine ⟨.requestSend 1, { exchange with
    server := (exchange.server.writeTurn coOk 1).2
    toClient := exchange.toClient ++ (exchange.server.writeTurn coOk 1).1 }, rfl, by simp [step, turn],
    alive.client, ?_⟩
  exact RequestEnd.writeTurn_alive usable small turn

theorem advances_upstreamRecv (agrees : exchange.Agrees userProcess calls) (alive : exchange.Alive)
    (turn : exchange.client.turn = .read protocol) (some : exchange.toClient ≠ []) :
    exchange.Advances userProcess := by
  have length := List.length_pos_iff.2 some
  have within : ¬(exchange.toClient.length < 1 ∨ bufferSize4096 < 1) := by
    unfold bufferSize4096
    omega
  obtain ⟨client, read, -, turned⟩ :=
    agrees.upstreamReceives turn (take_readable (by decide) within ⟨0, []⟩) (List.take_append_drop 1 _)
  refine ⟨.upstreamRecv 1 ⟨0, []⟩, { exchange with client, toClient := exchange.toClient.drop 1 }, rfl, ?_, ?_,
    alive.server⟩
  · simp only [step, turn]
    rw [if_neg within, read]
    rfl
  · rcases turned with turned | turned <;> simp [turned]

theorem advances_requestRecv (agrees : exchange.Agrees userProcess calls) (alive : exchange.Alive)
    (kept : ∀ count protocol, (userProcess count protocol).2.type = protocol.type)
    (ok : ∀ count protocol, (userProcess count protocol).1 = coOk)
    (reading : Reading exchange.server protocol) (some : exchange.toServer ≠ []) : exchange.Advances userProcess := by
  have length := List.length_pos_iff.2 some
  have within : ¬(exchange.toServer.length < 1 ∨ bufferSize4096 < 1) := by
    unfold bufferSize4096
    omega
  obtain ⟨server, read, -, turned⟩ := agrees.requestReceives kept reading
    (take_readable (by decide) within ⟨0, []⟩) (List.take_append_drop 1 _) fun _ => ⟨0, []⟩
  refine ⟨.requestRecv 1 ⟨0, []⟩ fun _ => ⟨0, []⟩,
    { exchange with server, toServer := exchange.toServer.drop 1 }, rfl, ?_, alive.client, ?_⟩
  · rcases reading with ⟨turn, rfl⟩ | turn
    · simp only [step, turn]
      rw [if_neg within, read]
      rfl
    · simp only [step, turn]
      rw [if_neg within, read]
      rfl
  · rcases turned with turned | ⟨count, decoded, turned⟩
    · simp [RequestEnd.Failed, turned]
    · simp [RequestEnd.Failed, turned, ok]

/-- The server reads the rest of the request, or is done with the response before it. -/
theorem Asks.advances {request : Bytes} (asks : exchange.Asks userProcess request)
    (agrees : exchange.Agrees userProcess calls) (alive : exchange.Alive)
    (kept : ∀ count protocol, (userProcess count protocol).2.type = protocol.type)
    (ok : ∀ count protocol, (userProcess count protocol).1 = coOk) (nonempty : request ≠ []) :
    exchange.Advances userProcess := by
  obtain ⟨protocol, turn, -⟩ := asks.client.resolve_left alive.client
  obtain ⟨part, lost, whole, sent⟩ := asks.toServer.resolve_left alive.server
  have rest := sent.resolve_left alive.client
  have total := congrArg List.length whole
  have small := asks.small
  simp only [List.length_append] at total
  rcases turn with turn | turn
  · have unsent : lost = exchange.client.coBuffer.region := by simp [rest, UpstreamEnd.unsent, turn]
    rw [unsent] at total
    exact advances_upstreamSend agrees.client alive turn (by omega)
  · have unsent : lost = [] := by simp [rest, UpstreamEnd.unsent, turn]
    have reads : ∀ {other}, Reading exchange.server other → exchange.Advances userProcess := fun reading => by
      refine advances_requestRecv agrees alive kept ok reading fun nothing => ?_
      have more := part.more nonempty
      rw [unsent, nothing, List.length_nil] at total
      omega
    cases server : exchange.server.turn with
    | init => exact reads (.inl ⟨server, rfl⟩)
    | read other => exact reads (.inr server)
    | write retCode =>
      have nothing := (List.append_eq_nil_iff.1 (asks.toClient.nothing alive.server)).2
      have region : exchange.server.coBuffer.region = [] := by simpa [RequestEnd.unsent, server] using nothing
      exact advances_requestSend agrees.server alive server (by rw [region]; decide)
    | closed => exact absurd (.inl server) alive.server

/-- The upstream reads the rest of the response. -/
theorem Answers.advances {request response : Bytes} (answers : exchange.Answers request response)
    (agrees : exchange.Agrees userProcess calls) (alive : exchange.Alive) (nonempty : response ≠ []) :
    exchange.Advances userProcess := by
  obtain ⟨protocol, turn, -⟩ := answers.client.resolve_left alive.client
  rcases turn with ⟨turn, empty⟩ | turn
  · exact advances_upstreamSend agrees.client alive turn (by rw [empty]; decide)
  · obtain ⟨part, lost, stray, whole, strays, closed⟩ := answers.toClient.resolve_left alive.client
    have gone : lost = [] := closed.resolve_right fun closed => alive.server (.inl closed)
    have total := congrArg List.length whole
    have small := answers.small
    rw [gone, strays.nothing alive.server] at total
    simp only [List.length_append, List.length_nil] at total
    cases server : exchange.server.turn with
    | init =>
      refine advances_upstreamRecv agrees alive turn fun nothing => ?_
      have more := part.more nonempty
      have unsent : exchange.server.unsent = [] := by simp [RequestEnd.unsent, server]
      rw [nothing, unsent, List.length_nil] at total
      omega
    | read other => exact absurd server (answers.server other)
    | write retCode =>
      have unsent : exchange.server.unsent = exchange.server.coBuffer.region := by simp [RequestEnd.unsent, server]
      rw [unsent] at total
      exact advances_requestSend agrees.server alive server (by omega)
    | closed => exact absurd (.inl server) alive.server

theorem Agrees.call_nonempty {labels : List (CallEvent Bytes)}
    (ran : labels.foldlM (RemoteCalls.step (tcpHandler userProcess)) {} = some calls)
    (nonempty : ∀ body ∈ calls.asked, NonemptyCall userProcess body) :
    (∀ request, calls.call = .asked request → request ≠ []) ∧
      ∀ request response, calls.call = .handled request response → response ≠ [] := by
  cases RemoteCalls.paired_run ran with
  | idle => exact ⟨nofun, nofun⟩
  | asked =>
    refine ⟨fun request same => ?_, nofun⟩
    cases same
    exact (nonempty _ (by simp)).1
  | handled =>
    refine ⟨nofun, fun request response same => ?_⟩
    cases same
    exact (nonempty _ (by simp)).2 _

/-- Where neither end fails, every request is answered: either nothing is under way and every
    request has the response that the server's function made of it, or some turn brings
    the call at hand forward; and there are only so many of these. -/
theorem calls_complete (kept : ∀ count protocol, (userProcess count protocol).2.type = protocol.type)
    (ok : ∀ count protocol, (userProcess count protocol).1 = coOk)
    (fits : ∀ event ∈ events, event.Fits userProcess)
    (nonempty : ∀ body ∈ events.flatMap ExchangeEvent.asks, NonemptyCall userProcess body)
    (ran : events.foldlM (Exchange.step tcpClient tcpServer userProcess) {} = some final) (alive : final.Alive) :
    (final.client.turn = .idle ∧ final.client.bodies =
        RemoteCalls.replies (tcpHandler userProcess) (events.flatMap ExchangeEvent.asks) ∨
      final.Advances userProcess) ∧
    ∃ bound, ∀ (more : List (ExchangeEvent CoProtocolTcp)) (last : Exchange CoProtocolTcp CoProtocolTcp),
      (∀ event ∈ more, event.asks = []) →
      more.foldlM (Exchange.step tcpClient tcpServer userProcess) final = some last → last.Alive →
        more.length ≤ bound := by
  obtain ⟨labels, calls, ranCalls, asked, agrees⟩ := agrees_fresh.run fits kept ran
  rw [List.nil_append] at asked
  obtain ⟨request, response⟩ := Agrees.call_nonempty ranCalls (asked ▸ nonempty)
  constructor
  · have carries := agrees.carries
    cases call : calls.call with
    | idle =>
      rw [call] at carries
      refine .inl ⟨carries.client.resolve_right alive.client, ?_⟩
      rw [agrees.answered, ← asked]
      exact (RemoteCalls.paired_run ranCalls).settled call
    | asked body =>
      rw [call] at carries
      exact .inr (Asks.advances carries agrees alive kept ok (request body call))
    | handled body answer =>
      rw [call] at carries
      exact .inr (Answers.advances carries agrees alive (response body answer call))
  · refine ⟨final.remaining userProcess calls, fun more last silent goesOn lastAlive => ?_⟩
    refine (agrees.run_bounded kept silent (fun event mem => ?_) goesOn lastAlive).2
    cases event with
    | upstreamWrite protocol memory => exact absurd (silent _ mem) (List.cons_ne_nil _ _)
    | _ => trivial

/-- The upstream writes, and the server has not seen the request. -/
def begun (exchange : Exchange CoProtocolTcp CoProtocolTcp) : Bool :=
  match exchange.client.turn, exchange.server.turn with
  | .write _, .init => true
  | _, _ => false

/-- Behind four bytes of the first request. -/
theorem calls_complete_begun : ∃ final,
    (twoCalls.take 2).foldlM (Exchange.step tcpClient tcpServer counting) {} = some final ∧ final.Alive ∧
    final.toServer.length = 4 ∧ final.Advances counting := by
  have ends : ((twoCalls.take 2).foldlM (Exchange.step tcpClient tcpServer counting) {}).map (fun final =>
      (final.toServer.length, final.begun)) = some (4, true) := by
    decide +kernel
  obtain ⟨final, ran, shown⟩ := Option.map_eq_some_iff.1 ends
  simp only [Prod.mk.injEq] at shown
  obtain ⟨length, turns⟩ := shown
  have busy : final.client.turn ≠ .idle ∧ final.Alive := by
    unfold begun at turns
    split at turns
    · rename_i protocol client server
      exact ⟨by simp [client], by simp [client], by simp [RequestEnd.Failed, server]⟩
    · cases turns
  have complete := calls_complete (fun _ _ => rfl) (fun _ _ => rfl) (fun event mem => twoCalls_fit event (List.mem_of_mem_take mem))
    (by simp [twoCalls, asking, ExchangeEvent.asks, NonemptyCall, tcpHandler, counting]) ran busy.2
  exact ⟨final, ran, busy.2, length, complete.1.resolve_left fun idle => busy.1 idle.1⟩

end Exchange

end CoServer
