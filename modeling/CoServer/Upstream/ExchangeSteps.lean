import CoServer.Upstream.ExchangeEnds

/-! # A kept connection answers in turn

However the two ends interleave, whatever pieces the bytes come in and wherever an
end fails, a connection carries one remote call after the other: the response that
an upstream takes is what the server's function made of the request it belongs to. -/

namespace CoServer

open Lib (Call CallEvent RemoteCalls)

/-! ## The calls -/

/-- What the server's function answers at its call `count`. -/
def tcpHandler (userProcess : Nat → CoProtocolTcp → Int × CoProtocolTcp) (count : Nat) (body : Bytes) : Bytes :=
  (userProcess count (tcpServer.createProtocol.setDecodedBody body)).2.respMsg.body

/-- The requests of a run. -/
def ExchangeEvent.asks : ExchangeEvent CoProtocolTcp → List Bytes
  | .upstreamWrite protocol _ => [protocol.reqMsg.body]
  | _ => []

/-- Request and response, as the upstream has them. -/
def UpstreamEnd.bodies (self : UpstreamEnd CoProtocolTcp) : List (Bytes × Bytes) :=
  self.answered.map fun protocol => (protocol.reqMsg.body, protocol.respMsg.body)

/-- Request and response, as the server had them. -/
def RequestEnd.bodies (self : RequestEnd CoProtocolTcp) : List (Bytes × Bytes) :=
  self.processed.map fun (decoded, processed) => (decoded.reqMsg.body, processed.respMsg.body)

/-- An upstream asks for what an `int32_t` can hold, and so do the answers, a header beyond
    them. -/
def ExchangeEvent.Fits (userProcess : Nat → CoProtocolTcp → Int × CoProtocolTcp) :
    ExchangeEvent CoProtocolTcp → Prop
  | .upstreamWrite protocol _ => protocol.type = protocolTcpClient ∧
      (frame protocol.reqMsg.body).length < 2 ^ 31 ∧
      ∀ count, (frame (tcpHandler userProcess count protocol.reqMsg.body)).length + coMsgTcpHeadLen < 2 ^ 31
  | _ => True

/-! ## What is under way -/

/-- What the upstream has yet to send. -/
def UpstreamEnd.unsent (self : UpstreamEnd CoProtocolTcp) : Bytes :=
  match self.turn with
  | .write _ => self.coBuffer.region
  | _ => []

/-- What it has of the response. -/
def UpstreamEnd.got (self : UpstreamEnd CoProtocolTcp) : Bytes :=
  match self.turn with
  | .read _ => self.coBuffer.region
  | _ => []

def RequestEnd.unsent (self : RequestEnd CoProtocolTcp) : Bytes :=
  match self.turn with
  | .write _ => self.coBuffer.region
  | _ => []

def RequestEnd.got (self : RequestEnd CoProtocolTcp) : Bytes :=
  match self.turn with
  | .read _ => self.coBuffer.region
  | _ => []

def UpstreamEnd.writing (self : UpstreamEnd CoProtocolTcp) : Nat :=
  match self.turn with
  | .write _ => 1
  | _ => 0

def RequestEnd.writing (self : RequestEnd CoProtocolTcp) : Nat :=
  match self.turn with
  | .write _ => 1
  | _ => 0

/-- The server takes no further request. -/
def RequestEnd.Failed (self : RequestEnd CoProtocolTcp) : Prop :=
  self.turn = .closed ∨ ∃ retCode, retCode ≠ coOk ∧ self.turn = .write retCode

/-- Bytes that answer nothing: the header that a server sends when it could not read. -/
structure Stray (server : RequestEnd CoProtocolTcp) (bytes : Bytes) : Prop where
  short : bytes.length ≤ coMsgTcpHeadLen
  failed : bytes ≠ [] → server.Failed

/-- A part of a frame that `decode` asks for more behind. -/
def FramePart (body bytes : Bytes) : Prop := bytes.length ≤ coMsgTcpHeadLen ∨ bytes.length < (frame body).length

namespace Exchange

variable (userProcess : Nat → CoProtocolTcp → Int × CoProtocolTcp) (exchange : Exchange CoProtocolTcp CoProtocolTcp)

/-- No call is under way. -/
structure Rests : Prop where
  client : exchange.client.turn = .idle ∨ exchange.client.turn = .closed
  server : ∀ protocol, exchange.server.turn ≠ .read protocol
  toServer : exchange.server.Failed ∨ exchange.toServer = []
  toClient : Stray exchange.server (exchange.toClient ++ exchange.server.unsent)

/-- The server waits for the rest of the request. -/
structure Asks (request : Bytes) : Prop where
  client : exchange.client.turn = .closed ∨ ∃ protocol,
    (exchange.client.turn = .write protocol ∨ exchange.client.turn = .read protocol) ∧
      protocol.type = protocolTcpClient ∧ protocol.reqMsg.body = request
  server : ∀ protocol, exchange.server.turn = .read protocol → protocol = tcpServer.createProtocol
  toServer : exchange.server.Failed ∨ FramePart request exchange.server.got ∧
    ∃ lost, exchange.server.got ++ exchange.toServer ++ lost = frame request ∧
      (exchange.client.turn = .closed ∨ lost = exchange.client.unsent)
  toClient : Stray exchange.server (exchange.client.got ++ exchange.toClient ++ exchange.server.unsent)
  small : (frame request).length < 2 ^ 31
  answers : ∀ count, (frame (tcpHandler userProcess count request)).length + coMsgTcpHeadLen < 2 ^ 31

/-- The upstream waits for the rest of the response. -/
structure Answers (request response : Bytes) : Prop where
  client : exchange.client.turn = .closed ∨ ∃ protocol,
    (exchange.client.turn = .write protocol ∧ exchange.client.coBuffer.region = [] ∨
      exchange.client.turn = .read protocol) ∧
      protocol.type = protocolTcpClient ∧ protocol.reqMsg.body = request
  server : ∀ protocol, exchange.server.turn ≠ .read protocol
  toServer : exchange.server.Failed ∨ exchange.toServer = []
  toClient : exchange.client.turn = .closed ∨ FramePart response exchange.client.got ∧
    ∃ lost stray, exchange.client.got ++ exchange.toClient ++ exchange.server.unsent ++ lost =
      frame response ++ stray ∧ Stray exchange.server stray ∧ (lost = [] ∨ exchange.server.turn = .closed)
  small : (frame response).length + coMsgTcpHeadLen < 2 ^ 31

/-- Where the bytes of the call at hand are. -/
def Carries : Call Bytes Bytes → Prop
  | .idle => exchange.Rests
  | .asked request => exchange.Asks userProcess request
  | .handled request response => exchange.Answers request response

/-- The ends agree with the calls. -/
structure Agrees (calls : RemoteCalls Bytes Bytes) : Prop where
  client : exchange.client.coBuffer.Usable
  server : exchange.server.coBuffer.Usable
  fresh : exchange.server.turn = .init → exchange.server.coBuffer.region = []
  answered : exchange.client.bodies = calls.answered
  handled : exchange.server.bodies = calls.handled
  carries : exchange.Carries userProcess calls.call

/-- Neither end has failed. -/
structure Alive : Prop where
  client : exchange.client.turn ≠ .closed
  server : ¬exchange.server.Failed

/-- How many turns the call at hand takes at most: a byte is sent and received, and each
    loop of a write is left. -/
def remaining (calls : RemoteCalls Bytes Bytes) : Nat :=
  2 * exchange.client.unsent.length + exchange.toServer.length + 2 * exchange.server.unsent.length +
    exchange.toClient.length + exchange.client.writing + exchange.server.writing +
    match calls.call with
    | .asked request => 2 * (frame (tcpHandler userProcess calls.handled.length request)).length + 1
    | _ => 0

end Exchange

/-! ## Bytes that answer nothing -/

section
variable {server next : RequestEnd CoProtocolTcp} {bytes rest : Bytes}

theorem Stray.nil : Stray server [] := ⟨Nat.zero_le _, fun some => absurd rfl some⟩

theorem Stray.nothing (stray : Stray server bytes) (alive : ¬server.Failed) : bytes = [] := by
  by_contra some
  exact alive (stray.failed some)

theorem Stray.fewer (stray : Stray server bytes) (stays : server.Failed → next.Failed)
    (shorter : rest.length ≤ bytes.length) : Stray next rest := by
  refine ⟨shorter.trans stray.short, fun some => stays (stray.failed fun nothing => some ?_)⟩
  rw [nothing] at shorter
  exact List.eq_nil_of_length_eq_zero (Nat.le_zero.1 shorter)

/-- The response of a server that could not read. -/
theorem Stray.header (failed : server.Failed) : Stray server (frame []) :=
  ⟨by simp [frame_length], fun _ => failed⟩

end

theorem tcpAnswer_processed {userProcess : Nat → CoProtocolTcp → Int × CoProtocolTcp} {count : Nat} {body : Bytes}
    {ret : Int} {processed : CoProtocolTcp}
    (kept : ∀ count protocol, (userProcess count protocol).2.type = protocol.type)
    (process : userProcess count (tcpServer.createProtocol.setDecodedBody body) = (ret, processed)) :
    tcpAnswer processed = frame (tcpHandler userProcess count body) := by
  have type : processed.type = protocolTcpServer := by
    have kept := kept count (tcpServer.createProtocol.setDecodedBody body)
    rw [process, CoProtocolTcp.type_setDecodedBody] at kept
    exact kept
  rw [tcpAnswer, CoProtocolTcp.encodedBody, type, if_pos rfl, tcpHandler, process]

namespace Exchange

section
variable {userProcess : Nat → CoProtocolTcp → Int × CoProtocolTcp}
  {exchange next : Exchange CoProtocolTcp CoProtocolTcp} {calls after : RemoteCalls Bytes Bytes}
  {event : ExchangeEvent CoProtocolTcp} {protocol : CoProtocolTcp}

/-- A step of the ends is matched by steps of the calls, which ask for these requests.  Unless
    it asks or an end fails, it brings the call at hand forward. -/
def Matched (userProcess : Nat → CoProtocolTcp → Int × CoProtocolTcp) (exchange : Exchange CoProtocolTcp CoProtocolTcp)
    (calls : RemoteCalls Bytes Bytes) (asks : List Bytes) (next : Exchange CoProtocolTcp CoProtocolTcp) : Prop :=
  ∃ (labels : List (CallEvent Bytes)) (after : RemoteCalls Bytes Bytes),
    labels.foldlM (RemoteCalls.step (tcpHandler userProcess)) calls = some after ∧
    after.asked = calls.asked ++ asks ∧ next.Agrees userProcess after ∧
    (next.Alive → asks = [] → next.remaining userProcess after < exchange.remaining userProcess calls)

theorem Agrees.stutters (agrees : next.Agrees userProcess calls)
    (less : next.Alive → next.remaining userProcess calls < exchange.remaining userProcess calls) :
    Matched userProcess exchange calls [] next :=
  ⟨[], calls, rfl, by rw [List.append_nil], agrees, fun alive _ => less alive⟩

theorem Agrees.call_idle (agrees : exchange.Agrees userProcess calls) (idle : exchange.client.turn = .idle) :
    calls.call = .idle := by
  have carries := agrees.carries
  cases same : calls.call with
  | idle => rfl
  | asked request =>
    rw [same] at carries
    obtain ⟨client, -⟩ := carries
    simp [idle] at client
  | handled request response =>
    rw [same] at carries
    obtain ⟨client, -⟩ := carries
    simp [idle] at client

/-! ### The end of the upstream -/

theorem Agrees.upstreamWrite {memory : Nat → Block} (agrees : exchange.Agrees userProcess calls)
    (fits : (ExchangeEvent.upstreamWrite protocol memory).Fits userProcess)
    (stepped : exchange.step tcpClient tcpServer userProcess (.upstreamWrite protocol memory) = some next) :
    Matched userProcess exchange calls [protocol.reqMsg.body] next := by
  obtain ⟨type, small, answers⟩ := fits
  have body : tcpAnswer protocol = frame protocol.reqMsg.body := by
    rw [tcpAnswer, CoProtocolTcp.encodedBody, type, if_neg (by decide)]
  unfold step at stepped
  dsimp only at stepped
  split at stepped
  · rename_i idle
    obtain ⟨coBuffer, usable, region, wrote⟩ :=
      UpstreamEnd.upstreamWrite_tcp agrees.client (by rw [body]; omega) memory
    rw [wrote] at stepped
    cases stepped
    have call := agrees.call_idle idle
    have rests : exchange.Rests := by
      have carries := agrees.carries
      rwa [call] at carries
    have unread : exchange.server.got = [] := by
      unfold RequestEnd.got
      split
      · rename_i turn
        exact absurd turn (rests.server _)
      · rfl
    refine ⟨[.ask protocol.reqMsg.body], _, by simp [RemoteCalls.step, call]; rfl, rfl, ?_, nofun⟩
    exact {
      client := usable
      server := agrees.server
      fresh := agrees.fresh
      answered := agrees.answered
      handled := agrees.handled
      carries := {
        client := .inr ⟨protocol, .inl rfl, type, rfl⟩
        server := fun other turn => absurd turn (rests.server other)
        toServer := rests.toServer.imp_right fun nothing =>
          ⟨.inl (by simp [unread]), frame protocol.reqMsg.body, by simp [unread, nothing],
            .inr (by rw [← body, ← region]; rfl)⟩
        toClient := rests.toClient
        small
        answers } }
  · cases stepped

/-- The last byte of the request is sent, and `upstream_read` begins. -/
theorem Agrees.upstreamReads (agrees : exchange.Agrees userProcess calls) (turn : exchange.client.turn = .write protocol)
    (empty : exchange.client.coBuffer.region = []) :
    ({ exchange with client := { exchange.client with turn := .read protocol } } : Exchange _ _).Agrees
      userProcess calls := by
  have carries := agrees.carries
  have unsent : exchange.client.unsent = [] := by simp [UpstreamEnd.unsent, turn, empty]
  have ungot : exchange.client.got = [] := by simp [UpstreamEnd.got, turn]
  refine ⟨agrees.client, agrees.server, agrees.fresh, agrees.answered, agrees.handled, ?_⟩
  cases same : calls.call with
  | idle =>
    rw [same] at carries
    obtain ⟨client, -⟩ := carries
    simp [turn] at client
  | asked request =>
    rw [same] at carries
    have asks : exchange.Asks userProcess request := carries
    have client := asks.client
    simp only [turn, UpstreamTurn.write.injEq, reduceCtorEq, false_or, or_false, exists_eq_left'] at client
    have toServer := asks.toServer
    have toClient := asks.toClient
    simp only [turn, unsent, reduceCtorEq, false_or] at toServer
    rw [ungot, ← empty] at toClient
    exact { asks with
      client := .inr ⟨protocol, .inr rfl, client⟩
      toServer := toServer.imp_right fun ⟨part, lost, whole, sent⟩ => ⟨part, lost, whole, .inr sent⟩
      toClient }
  | handled request response =>
    rw [same] at carries
    have answers : exchange.Answers request response := carries
    have client := answers.client
    have toClient := answers.toClient
    simp only [turn, ungot, UpstreamTurn.write.injEq, reduceCtorEq, false_or, or_false, and_assoc,
      exists_eq_left'] at client toClient
    exact { answers with
      client := .inr ⟨protocol, .inr rfl, client.2⟩
      toClient := .inr (by simpa [UpstreamEnd.got, empty] using toClient) }

theorem Agrees.upstreamSends {sent : Bytes} {coBuffer : CoBuffer} (agrees : exchange.Agrees userProcess calls)
    (turn : exchange.client.turn = .write protocol) (more : exchange.client.coBuffer.region ≠ [])
    (usable : coBuffer.Usable) (whole : sent ++ coBuffer.region = exchange.client.coBuffer.region) :
    ({ exchange with
      client := { exchange.client with coBuffer }, toServer := exchange.toServer ++ sent } : Exchange _ _).Agrees
      userProcess calls := by
  have carries := agrees.carries
  refine ⟨usable, agrees.server, agrees.fresh, agrees.answered, agrees.handled, ?_⟩
  cases same : calls.call with
  | idle =>
    rw [same] at carries
    obtain ⟨client, -⟩ := carries
    simp [turn] at client
  | asked request =>
    rw [same] at carries
    have asks : exchange.Asks userProcess request := carries
    have ungot : exchange.client.got = [] := by simp [UpstreamEnd.got, turn]
    have toClient := asks.toClient
    rw [ungot] at toClient
    refine { asks with toServer := asks.toServer.imp_right ?_, toClient := ?_ }
    · rintro ⟨part, lost, all, gone | rfl⟩
      · cases turn.symm.trans gone
      · refine ⟨part, coBuffer.region, ?_, .inr ?_⟩
        · rw [← all]
          simp [UpstreamEnd.unsent, turn, ← whole]
        · simp [UpstreamEnd.unsent, turn]
    · simpa [UpstreamEnd.got, turn] using toClient
  | handled request response =>
    rw [same] at carries
    obtain ⟨client, -⟩ := carries
    simp [turn, more] at client

/-- The connection is closed at the upstream's end. -/
theorem Agrees.upstreamCloses {coBuffer : CoBuffer} (agrees : exchange.Agrees userProcess calls) (usable : coBuffer.Usable) (toClient : Bytes)
    (left : toClient <:+ exchange.toClient) :
    ({ exchange with client := { exchange.client with coBuffer, turn := .closed }, toClient } : Exchange _ _).Agrees
      userProcess calls := by
  have carries := agrees.carries
  have fewer := left.length_le
  refine ⟨usable, agrees.server, agrees.fresh, agrees.answered, agrees.handled, ?_⟩
  cases same : calls.call with
  | idle =>
    rw [same] at carries
    have rests : exchange.Rests := carries
    exact { rests with
      client := .inr rfl
      toClient := rests.toClient.fewer id (by simpa using fewer) }
  | asked request =>
    rw [same] at carries
    have asks : exchange.Asks userProcess request := carries
    exact { asks with
      client := .inl rfl
      toServer := asks.toServer.imp_right fun ⟨part, lost, whole, _⟩ => ⟨part, lost, whole, .inl rfl⟩
      toClient := asks.toClient.fewer id (by simp [UpstreamEnd.got]; omega) }
  | handled request response =>
    rw [same] at carries
    have answers : exchange.Answers request response := carries
    exact { answers with
      client := .inl rfl
      toClient := .inl rfl }

/-- More of the response is asked for. -/
theorem Agrees.upstreamWaits {bytes left : Bytes} {coBuffer : CoBuffer} (agrees : exchange.Agrees userProcess calls)
    (turn : exchange.client.turn = .read protocol) (usable : coBuffer.Usable)
    (region : coBuffer.region = exchange.client.coBuffer.region ++ bytes) (split : bytes ++ left = exchange.toClient)
    (part : ∀ request response, calls.call = .handled request response → FramePart response coBuffer.region) :
    ({ exchange with
      client := { exchange.client with coBuffer, turn := .read protocol }, toClient := left } : Exchange _ _).Agrees
      userProcess calls := by
  have carries := agrees.carries
  have got : exchange.client.got = exchange.client.coBuffer.region := by simp [UpstreamEnd.got, turn]
  -- what was read has only moved
  have moved : coBuffer.region ++ left = exchange.client.got ++ exchange.toClient := by
    rw [region, got, ← split, List.append_assoc]
  have unsent : exchange.client.unsent = [] := by simp [UpstreamEnd.unsent, turn]
  refine ⟨usable, agrees.server, agrees.fresh, agrees.answered, agrees.handled, ?_⟩
  cases same : calls.call with
  | idle =>
    rw [same] at carries
    obtain ⟨client, -⟩ := carries
    simp [turn] at client
  | asked request =>
    rw [same] at carries
    have asks : exchange.Asks userProcess request := carries
    have client := asks.client
    have toServer := asks.toServer
    have toClient := asks.toClient
    simp only [turn, UpstreamTurn.read.injEq, reduceCtorEq, false_or, exists_eq_left'] at client
    simp only [turn, unsent, reduceCtorEq, false_or] at toServer
    rw [← moved] at toClient
    exact { asks with
      client := .inr ⟨protocol, .inr rfl, client⟩
      toServer := toServer.imp_right fun ⟨part, lost, whole, sent⟩ => ⟨part, lost, whole, .inr sent⟩
      toClient }
  | handled request response =>
    rw [same] at carries
    have answers : exchange.Answers request response := carries
    have client := answers.client
    have toClient := answers.toClient
    simp only [turn, UpstreamTurn.read.injEq, reduceCtorEq, false_or, false_and, exists_eq_left'] at client toClient
    rw [← moved] at toClient
    exact { answers with
      client := .inr ⟨protocol, .inr rfl, client⟩
      toClient := .inr ⟨part request response same, toClient.2⟩ }

theorem upstreamWaits_remaining {bytes left : Bytes} {coBuffer : CoBuffer}
    (turn : exchange.client.turn = .read protocol) (some : bytes ≠ []) (split : bytes ++ left = exchange.toClient) :
    ({ exchange with
      client := { exchange.client with coBuffer, turn := .read protocol }, toClient := left } : Exchange _ _).remaining
      userProcess calls < exchange.remaining userProcess calls := by
  have length := List.length_pos_iff.2 some
  simp [remaining, turn, ← split, UpstreamEnd.unsent, UpstreamEnd.writing]
  omega

/-- The response is there; what is behind it answers nothing. -/
theorem Agrees.upstreamAnswered {bytes left request response behind : Bytes} {coBuffer : CoBuffer}
    (agrees : exchange.Agrees userProcess calls) (turn : exchange.client.turn = .read protocol)
    (usable : coBuffer.Usable) (call : calls.call = .handled request response)
    (region : exchange.client.coBuffer.region ++ bytes = frame response ++ behind)
    (some : bytes ≠ []) (split : bytes ++ left = exchange.toClient) :
    Matched userProcess exchange calls [] { exchange with
      client := ⟨coBuffer, .idle, exchange.client.answered ++ [protocol.setDecodedBody response]⟩, toClient := left } := by
  have answers : exchange.Answers request response := by
    have carries := agrees.carries
    rwa [call] at carries
  have got : exchange.client.got = exchange.client.coBuffer.region := by simp [UpstreamEnd.got, turn]
  obtain ⟨type, body⟩ : protocol.type = protocolTcpClient ∧ protocol.reqMsg.body = request := by
    simpa [turn] using answers.client
  have toClient := answers.toClient
  simp only [turn, reduceCtorEq, false_or] at toClient
  obtain ⟨-, lost, stray, whole, strays, -⟩ := toClient
  have rest : behind ++ (left ++ exchange.server.unsent ++ lost) = stray := by
    rw [got, ← split, ← List.append_assoc, region] at whole
    simpa [List.append_assoc] using whole
  refine ⟨[.answer], _, by simp [RemoteCalls.step, call]; rfl, by simp, ?_, fun _ _ => ?_⟩
  · exact {
      client := usable
      server := agrees.server
      fresh := agrees.fresh
      answered := by
        have typed : ¬protocolTcpClient = protocolTcpServer := by decide
        simp [UpstreamEnd.bodies, ← agrees.answered, CoProtocolTcp.setDecodedBody, type, body, typed]
      handled := agrees.handled
      carries := {
        client := .inl rfl
        server := answers.server
        toServer := answers.toServer
        toClient := by
          refine strays.fewer id ?_
          simp only [← rest, List.length_append]
          omega } }
  · have length := List.length_pos_iff.2 some
    simp [remaining, call, turn, ← split, UpstreamEnd.unsent, UpstreamEnd.writing]
    omega

/-- A turn of the loop of `upstream_read` that was given some bytes. -/
theorem Agrees.upstreamReceives {arrival : Bytes × Block} {left : Bytes} (agrees : exchange.Agrees userProcess calls)
    (turn : exchange.client.turn = .read protocol) (readable : arrival.1 ≠ [] ∧ arrival.1.length ≤ 4096)
    (split : arrival.1 ++ left = exchange.toClient) :
    ∃ client : UpstreamEnd CoProtocolTcp, exchange.client.readTurn tcpClient protocol arrival = some client ∧
      Matched userProcess exchange calls [] { exchange with client, toClient := left } ∧
      (client.turn = .read protocol ∨ client.turn = .idle) := by
  have got : exchange.client.got = exchange.client.coBuffer.region := by simp [UpstreamEnd.got, turn]
  have carries := agrees.carries
  cases call : calls.call with
  | idle =>
    rw [call] at carries
    obtain ⟨client, -⟩ := carries
    simp [turn] at client
  | asked request =>
    rw [call] at carries
    have asks : exchange.Asks userProcess request := carries
    have short := asks.toClient.short
    rw [got, ← split] at short
    simp only [List.length_append] at short
    have header : (exchange.client.coBuffer.region ++ arrival.1).length ≤ coMsgTcpHeadLen := by
      rw [List.length_append]
      omega
    obtain ⟨coBuffer, usable, region, read⟩ := UpstreamEnd.readTurn_again agrees.client readable
      (by unfold coMsgTcpHeadLen at header; omega) (unframe_header header)
    refine ⟨_, read, (agrees.upstreamWaits turn usable region split fun _ _ other => ?_).stutters fun _ =>
      upstreamWaits_remaining turn readable.1 split, .inl rfl⟩
    cases call.symm.trans other
  | handled request response =>
    rw [call] at carries
    have answers : exchange.Answers request response := carries
    have toClient := answers.toClient
    simp only [turn, got, ← split, reduceCtorEq, false_or] at toClient
    obtain ⟨-, lost, stray, whole, strays, -⟩ := toClient
    have front : exchange.client.coBuffer.region ++ arrival.1 ++ (left ++ exchange.server.unsent ++ lost) =
        frame response ++ stray := by
      simpa [List.append_assoc] using whole
    have small := answers.small
    have fits : (exchange.client.coBuffer.region ++ arrival.1).length < 2 ^ 31 := by
      have bound := congrArg List.length front
      have short := strays.short
      simp only [List.length_append] at bound ⊢
      omega
    rcases unframe_front (by omega) front with ⟨part, incomplete⟩ | ⟨behind, region, found⟩
    · obtain ⟨coBuffer, usable, region, read⟩ :=
        UpstreamEnd.readTurn_again agrees.client readable fits incomplete
      refine ⟨_, read, (agrees.upstreamWaits turn usable region split fun _ _ other => ?_).stutters fun _ =>
        upstreamWaits_remaining turn readable.1 split, .inl rfl⟩
      cases call.symm.trans other
      rwa [region]
    · obtain ⟨coBuffer, usable, read⟩ := UpstreamEnd.readTurn_body agrees.client readable fits found
      exact ⟨_, read, agrees.upstreamAnswered turn usable call region readable.1 split, .inr rfl⟩

/-! ### The end of the server -/

theorem got_unread {server : RequestEnd CoProtocolTcp} (unread : ∀ protocol, server.turn ≠ .read protocol) :
    server.got = [] := by
  unfold RequestEnd.got
  split
  · rename_i turn
    exact absurd turn (unread _)
  · rfl

/-- A server that is not in `request_read` goes on sending, is done with it, or gives up. -/
structure Writes (before server : RequestEnd CoProtocolTcp) (sent lost : Bytes) : Prop where
  usable : server.coBuffer.Usable
  fresh : server.turn = .init → server.coBuffer.region = []
  processed : server.processed = before.processed
  unread (protocol : CoProtocolTcp) : server.turn ≠ .read protocol
  stays : before.Failed → server.Failed
  whole : sent ++ server.unsent ++ lost = before.unsent
  closes : lost = [] ∨ server.turn = .closed

theorem Agrees.requestWrites {server : RequestEnd CoProtocolTcp} {sent lost : Bytes}
    (agrees : exchange.Agrees userProcess calls) (unread : ∀ protocol, exchange.server.turn ≠ .read protocol)
    (opened : exchange.server.turn ≠ .closed) (writes : Writes exchange.server server sent lost) :
    ({ exchange with server, toClient := exchange.toClient ++ sent } : Exchange _ _).Agrees userProcess calls := by
  obtain ⟨usable, fresh, processed, unreads, stays, whole, closes⟩ := writes
  have carries := agrees.carries
  have bodies : server.bodies = exchange.server.bodies := by rw [RequestEnd.bodies, processed, RequestEnd.bodies]
  have got := got_unread unread
  have gots := got_unread unreads
  have length := congrArg List.length whole
  simp only [List.length_append] at length
  refine ⟨agrees.client, usable, fresh, agrees.answered, bodies.trans agrees.handled, ?_⟩
  cases same : calls.call with
  | idle =>
    rw [same] at carries
    have rests : exchange.Rests := carries
    exact {
      client := rests.client
      server := unreads
      toServer := rests.toServer.imp_left stays
      toClient := rests.toClient.fewer stays (by simp only [List.length_append]; omega) }
  | asked request =>
    rw [same] at carries
    have asks : exchange.Asks userProcess request := carries
    exact { asks with
      server := fun protocol turn => absurd turn (unreads protocol)
      toServer := by
        have toServer := asks.toServer
        rw [got] at toServer
        rw [gots]
        exact toServer.imp_left stays
      toClient := asks.toClient.fewer stays (by simp only [List.length_append]; omega) }
  | handled request response =>
    rw [same] at carries
    have answers : exchange.Answers request response := carries
    refine { answers with server := unreads, toServer := answers.toServer.imp_left stays, toClient := ?_ }
    refine answers.toClient.imp_right fun ⟨part, before, stray, all, strays, closed⟩ => ⟨part, lost, stray, ?_, ?_, closes⟩
    · rcases closed with rfl | closed
      · rw [← all, ← whole]
        simp [List.append_assoc]
      · exact absurd closed opened
    · exact strays.fewer stays (Nat.le_refl _)

/-- The coroutine is in `request_read`, or about to call `request_init`. -/
def Reading (server : RequestEnd CoProtocolTcp) (protocol : CoProtocolTcp) : Prop :=
  server.turn = .init ∧ protocol = tcpServer.createProtocol ∨ server.turn = .read protocol

section
variable {server : RequestEnd CoProtocolTcp}

theorem Reading.alive (reading : Reading server protocol) : ¬server.Failed := by
  rcases reading with ⟨turn, -⟩ | turn <;> simp [RequestEnd.Failed, turn]

theorem Reading.unsent (reading : Reading server protocol) : server.unsent = [] := by
  rcases reading with ⟨turn, -⟩ | turn <;> simp [RequestEnd.unsent, turn]

theorem Reading.opened (reading : Reading server protocol) : server.turn ≠ .closed := by
  rcases reading with ⟨turn, -⟩ | turn <;> simp [turn]

end

theorem Agrees.got (agrees : exchange.Agrees userProcess calls) (reading : Reading exchange.server protocol) :
    exchange.server.got = exchange.server.coBuffer.region := by
  rcases reading with ⟨turn, -⟩ | turn
  · simp [RequestEnd.got, turn, agrees.fresh turn]
  · simp [RequestEnd.got, turn]

/-- The server could not read: it sends a header, and will close. -/
theorem Agrees.requestFails {coBuffer : CoBuffer} (agrees : exchange.Agrees userProcess calls)
    (reading : Reading exchange.server protocol) (usable : coBuffer.Usable) (region : coBuffer.region = frame []) :
    ({ exchange with server := { exchange.server with coBuffer, turn := .write coError } } : Exchange _ _).Agrees
      userProcess calls := by
  have carries := agrees.carries
  have failed : ({ exchange.server with coBuffer, turn := .write coError } : RequestEnd CoProtocolTcp).Failed :=
    .inr ⟨coError, by decide, rfl⟩
  refine ⟨agrees.client, usable, nofun, agrees.answered, agrees.handled, ?_⟩
  cases same : calls.call with
  | idle =>
    rw [same] at carries
    have rests : exchange.Rests := carries
    have nothing := (List.append_eq_nil_iff.1 (rests.toClient.nothing reading.alive)).1
    exact {
      client := rests.client
      server := nofun
      toServer := .inl failed
      toClient := by
        simp only [nothing, RequestEnd.unsent, region, List.nil_append]
        exact .header failed }
  | asked request =>
    rw [same] at carries
    have asks : exchange.Asks userProcess request := carries
    have nothing := (List.append_eq_nil_iff.1 (asks.toClient.nothing reading.alive)).1
    exact { asks with
      server := nofun
      toServer := .inl failed
      toClient := by
        simp only [nothing, RequestEnd.unsent, region, List.nil_append]
        exact .header failed }
  | handled request response =>
    rw [same] at carries
    have answers : exchange.Answers request response := carries
    refine { answers with server := nofun, toServer := .inl failed, toClient := ?_ }
    refine answers.toClient.imp_right fun ⟨part, lost, stray, whole, strays, closed⟩ =>
      ⟨part, [], frame [], ?_, .header failed, .inl rfl⟩
    have gone : lost = [] := closed.resolve_right reading.opened
    rw [strays.nothing reading.alive, gone, reading.unsent] at whole
    simp only [List.append_nil] at whole
    simp [RequestEnd.unsent, region, whole]

/-- More of the request is asked for. -/
theorem Agrees.requestWaits {bytes left request : Bytes} {coBuffer : CoBuffer}
    (agrees : exchange.Agrees userProcess calls) (reading : Reading exchange.server protocol)
    (call : calls.call = .asked request) (usable : coBuffer.Usable)
    (region : coBuffer.region = exchange.server.coBuffer.region ++ bytes) (split : bytes ++ left = exchange.toServer)
    (part : FramePart request coBuffer.region) :
    ({ exchange with
      server := { exchange.server with coBuffer, turn := .read protocol }, toServer := left } : Exchange _ _).Agrees
      userProcess calls := by
  have asks : exchange.Asks userProcess request := by
    have carries := agrees.carries
    rwa [call] at carries
  obtain ⟨-, lost, whole, sent⟩ := asks.toServer.resolve_left reading.alive
  refine ⟨agrees.client, usable, nofun, agrees.answered, agrees.handled, ?_⟩
  rw [call]
  exact { asks with
    server := fun other turn => by
      cases turn
      exact reading.elim And.right (asks.server protocol)
    toServer := .inr ⟨part, lost, by
      rw [← whole, agrees.got reading, ← split]
      simp [RequestEnd.got, region, List.append_assoc], sent⟩
    toClient := by
      have toClient := asks.toClient
      rw [reading.unsent] at toClient
      exact toClient.fewer (fun failed => absurd failed reading.alive) (Nat.le_refl _) }

theorem requestWaits_remaining {bytes left : Bytes} {coBuffer : CoBuffer} (some : bytes ≠ []) (split : bytes ++ left = exchange.toServer) :
    ({ exchange with
      server := { exchange.server with coBuffer, turn := .read protocol }, toServer := left } : Exchange _ _).remaining
      userProcess calls < exchange.remaining userProcess calls := by
  have length := List.length_pos_iff.2 some
  simp [remaining, ← split, RequestEnd.unsent, RequestEnd.writing]
  omega

/-- The request is there, and the user's function has answered it. -/
theorem Agrees.requestHandled {bytes left request behind : Bytes} {coBuffer : CoBuffer} {ret : Int}
    {processed : CoProtocolTcp} (agrees : exchange.Agrees userProcess calls)
    (kept : ∀ count protocol, (userProcess count protocol).2.type = protocol.type)
    (reading : Reading exchange.server protocol) (call : calls.call = .asked request)
    (usable : coBuffer.Usable) (region : coBuffer.region = tcpAnswer processed)
    (process : userProcess exchange.server.processed.length (protocol.setDecodedBody request) = (ret, processed))
    (found : exchange.server.coBuffer.region ++ bytes = frame request ++ behind) (some : bytes ≠ [])
    (split : bytes ++ left = exchange.toServer) :
    Matched userProcess exchange calls [] { exchange with
      server := ⟨coBuffer, .write ret, exchange.server.processed ++ [(protocol.setDecodedBody request, processed)]⟩
      toServer := left } := by
  have asks : exchange.Asks userProcess request := by
    have carries := agrees.carries
    rwa [call] at carries
  have created : protocol = tcpServer.createProtocol := reading.elim And.right (asks.server protocol)
  subst created
  obtain ⟨-, lost, whole, sent⟩ := asks.toServer.resolve_left reading.alive
  -- the request is all there was on the way
  have rest : behind ++ (left ++ lost) = [] := by
    rw [agrees.got reading, ← split, ← List.append_assoc, found] at whole
    simpa [List.append_assoc] using whole
  obtain ⟨-, rest⟩ := List.append_eq_nil_iff.1 rest
  obtain ⟨rfl, rfl⟩ := List.append_eq_nil_iff.1 rest
  have counted : exchange.server.processed.length = calls.handled.length := by
    rw [← agrees.handled, RequestEnd.bodies, List.length_map]
  have response : tcpHandler userProcess calls.handled.length request = processed.respMsg.body := by
    rw [tcpHandler, ← counted, process]
  have answer := tcpAnswer_processed kept process
  rw [counted] at answer
  have nothing := List.append_eq_nil_iff.1 (asks.toClient.nothing reading.alive)
  refine ⟨[.handle], _, by simp [RemoteCalls.step, call]; rfl, by simp, ?_, fun _ _ => ?_⟩
  · exact {
      client := agrees.client
      server := usable
      fresh := nofun
      answered := agrees.answered
      handled := by
        rw [response, ← agrees.handled]
        simp [RequestEnd.bodies, tcpServer, CoProtocolTcp.setDecodedBody]
      carries := {
        client := by
          refine asks.client.imp_right fun ⟨other, turn, named⟩ => ⟨other, ?_, named⟩
          refine turn.imp_left fun (writes : exchange.client.turn = .write other) => ⟨writes, ?_⟩
          rcases sent with gone | unsent
          · cases writes.symm.trans gone
          · rw [UpstreamEnd.unsent, writes] at unsent
            exact unsent.symm
        server := nofun
        toServer := .inr rfl
        toClient := by
          have ungot := (List.append_eq_nil_iff.1 nothing.1)
          refine .inr ⟨.inl (by simp [ungot.1]), [], [], ?_, .nil, .inl rfl⟩
          simp [ungot.1, ungot.2, RequestEnd.unsent, region, answer]
        small := asks.answers _ } }
  · have length := List.length_pos_iff.2 some
    simp [remaining, call, ← split, RequestEnd.unsent, RequestEnd.writing, region, answer]
    omega

/-- Of a request that is under way the server knows. -/
theorem Agrees.reading_call (agrees : exchange.Agrees userProcess calls) (reading : Reading exchange.server protocol)
    (some : exchange.toServer ≠ []) : ∃ request, calls.call = .asked request := by
  have carries := agrees.carries
  cases call : calls.call with
  | idle =>
    rw [call] at carries
    exact absurd (carries.toServer.resolve_left reading.alive) some
  | asked request => exact ⟨request, rfl⟩
  | handled request response =>
    rw [call] at carries
    exact absurd (carries.toServer.resolve_left reading.alive) some

/-- A turn of the loop of `request_read` that was given some bytes. -/
theorem Agrees.requestReceives {arrival : Bytes × Block} {left : Bytes} (agrees : exchange.Agrees userProcess calls)
    (kept : ∀ count protocol, (userProcess count protocol).2.type = protocol.type)
    (reading : Reading exchange.server protocol) (readable : arrival.1 ≠ [] ∧ arrival.1.length ≤ 4096)
    (split : arrival.1 ++ left = exchange.toServer) (response : Nat → Block) :
    ∃ server : RequestEnd CoProtocolTcp,
      exchange.server.readTurn tcpServer userProcess protocol arrival response = some server ∧
      Matched userProcess exchange calls [] { exchange with server, toServer := left } ∧
      (server.turn = .read protocol ∨ ∃ count decoded, server.turn = .write (userProcess count decoded).1) := by
  obtain ⟨request, call⟩ := agrees.reading_call reading fun nothing => by
    rw [nothing] at split
    exact readable.1 (List.append_eq_nil_iff.1 split).1
  have asks : exchange.Asks userProcess request := by
    have carries := agrees.carries
    rwa [call] at carries
  obtain ⟨-, lost, whole, -⟩ := asks.toServer.resolve_left reading.alive
  have front : exchange.server.coBuffer.region ++ arrival.1 ++ (left ++ lost) = frame request ++ [] := by
    rw [List.append_nil, ← whole, agrees.got reading, ← split]
    simp [List.append_assoc]
  have fits : (exchange.server.coBuffer.region ++ arrival.1).length < 2 ^ 31 := by
    have small := asks.small
    have bound := congrArg List.length front
    simp only [List.length_append, List.length_nil] at bound ⊢
    omega
  rcases unframe_front asks.small front with ⟨part, incomplete⟩ | ⟨behind, region, found⟩
  · obtain ⟨coBuffer, usable, region, read⟩ :=
      RequestEnd.readTurn_again agrees.server readable fits incomplete response
    refine ⟨_, read, (agrees.requestWaits reading call usable region split ?_).stutters fun _ =>
      requestWaits_remaining readable.1 split, .inl rfl⟩
    rwa [region]
  · generalize process : userProcess exchange.server.processed.length (protocol.setDecodedBody request) = outcome
    obtain ⟨ret, processed⟩ := outcome
    have answer : (tcpAnswer processed).length < 2 ^ 62 := by
      have created : protocol = tcpServer.createProtocol := reading.elim And.right (asks.server protocol)
      have small := asks.answers exchange.server.processed.length
      rw [tcpAnswer_processed kept (created ▸ process)]
      omega
    obtain ⟨coBuffer, usable, answers, read⟩ :=
      RequestEnd.readTurn_body agrees.server readable fits found process answer response
    refine ⟨_, read, agrees.requestHandled kept reading call usable answers process region readable.1 split, .inr ?_⟩
    exact ⟨exchange.server.processed.length, protocol.setDecodedBody request, by rw [process]⟩

/-! ### Every step -/

theorem take_readable {bytes : Bytes} {count : Nat} (some : count ≠ 0)
    (within : ¬(bytes.length < count ∨ bufferSize4096 < count)) (memory : Block) :
    (bytes.take count, memory).1 ≠ [] ∧ (bytes.take count, memory).1.length ≤ 4096 := by
  have length : (bytes.take count).length = count := by
    rw [List.length_take]
    omega
  unfold bufferSize4096 at within
  refine ⟨fun nothing => some ?_, by dsimp only; omega⟩
  rw [← length]
  exact congrArg List.length nothing

theorem Agrees.room_client (agrees : exchange.Agrees userProcess calls) (turn : exchange.client.turn = .read protocol) :
    exchange.client.coBuffer.region.length < 2 ^ 61 := by
  have carries := agrees.carries
  have got : exchange.client.got = exchange.client.coBuffer.region := by simp [UpstreamEnd.got, turn]
  cases call : calls.call with
  | idle =>
    rw [call] at carries
    obtain ⟨client, -⟩ := carries
    simp [turn] at client
  | asked request =>
    rw [call] at carries
    have short := carries.toClient.short
    rw [got] at short
    unfold coMsgTcpHeadLen at short
    simp only [List.length_append] at short
    omega
  | handled request response =>
    rw [call] at carries
    obtain ⟨part, -⟩ := carries.toClient.resolve_left (by simp [turn])
    have small := carries.small
    rw [got] at part
    unfold FramePart coMsgTcpHeadLen at part
    omega

theorem Agrees.room_server (agrees : exchange.Agrees userProcess calls) (reading : Reading exchange.server protocol) :
    exchange.server.coBuffer.region.length < 2 ^ 61 := by
  rcases reading with ⟨turn, -⟩ | turn
  · rw [agrees.fresh turn]
    decide
  · have carries := agrees.carries
    have got := agrees.got (.inr turn)
    cases call : calls.call with
    | idle =>
      rw [call] at carries
      exact absurd turn (carries.server protocol)
    | asked request =>
      rw [call] at carries
      obtain ⟨part, -⟩ := carries.toServer.resolve_left (Reading.alive (.inr turn))
      have small := carries.small
      rw [got] at part
      unfold FramePart coMsgTcpHeadLen at part
      omega
    | handled request response =>
      rw [call] at carries
      exact absurd turn (carries.server protocol)

theorem Agrees.step_upstreamSend {accepts : Nat} (agrees : exchange.Agrees userProcess calls)
    (stepped : exchange.step tcpClient tcpServer userProcess (.upstreamSend accepts) = some next) :
    Matched userProcess exchange calls [] next := by
  simp only [step] at stepped
  split at stepped
  · rename_i protocol turn
    by_cases empty : exchange.client.coBuffer.region = []
    · rw [UpstreamEnd.writeTurn_empty agrees.client empty] at stepped
      cases stepped
      refine Agrees.stutters ?_ fun _ => ?_
      · simpa using agrees.upstreamReads turn empty
      · simp [remaining, turn, empty, UpstreamEnd.unsent, UpstreamEnd.writing]
    · rcases UpstreamEnd.writeTurn_more agrees.client empty accepts with
        ⟨sent, coBuffer, usable, whole, some, turned⟩ | ⟨-, turned⟩
      · rw [turned] at stepped
        cases stepped
        refine (agrees.upstreamSends turn empty usable whole).stutters fun _ => ?_
        have total := congrArg List.length whole
        have length := List.length_pos_iff.2 some
        simp only [List.length_append] at total
        simp [remaining, turn, UpstreamEnd.unsent, UpstreamEnd.writing]
        omega
      · rw [turned] at stepped
        cases stepped
        refine Agrees.stutters ?_ fun alive => absurd rfl alive.client
        simpa [UpstreamEnd.close] using agrees.upstreamCloses agrees.client exchange.toClient List.suffix_rfl
  · cases stepped

theorem Agrees.step_upstreamRecv {count : Nat} {memory : Block} (agrees : exchange.Agrees userProcess calls)
    (stepped : exchange.step tcpClient tcpServer userProcess (.upstreamRecv count memory) = some next) :
    Matched userProcess exchange calls [] next := by
  simp only [step] at stepped
  split at stepped
  · cases stepped
  · rename_i within
    split at stepped
    · rename_i protocol turn
      obtain ⟨client, read, rfl⟩ := Option.map_eq_some_iff.1 stepped
      by_cases some : count = 0
      · subst some
        obtain ⟨coBuffer, usable, failed⟩ :=
          UpstreamEnd.readTurn_nothing agrees.client (agrees.room_client turn) memory
        rw [List.take_zero, failed] at read
        cases read
        exact (agrees.upstreamCloses usable _ (List.drop_suffix _ _)).stutters fun alive => absurd rfl alive.client
      · obtain ⟨other, same, matched, -⟩ :=
          agrees.upstreamReceives turn (take_readable some within memory) (List.take_append_drop count _)
        cases read.symm.trans same
        exact matched
    · cases stepped

/-- A request has not been decoded while it is read. -/
theorem Agrees.created (agrees : exchange.Agrees userProcess calls) (reading : Reading exchange.server protocol) :
    protocol = tcpServer.createProtocol := by
  have carries := agrees.carries
  rcases reading with ⟨-, created⟩ | turn
  · exact created
  · cases call : calls.call with
    | idle =>
      rw [call] at carries
      exact absurd turn (carries.server protocol)
    | asked request =>
      rw [call] at carries
      exact carries.server protocol turn
    | handled request response =>
      rw [call] at carries
      exact absurd turn (carries.server protocol)

theorem Agrees.requestReads {count : Nat} {memory : Block} {response : Nat → Block} {server : RequestEnd CoProtocolTcp}
    (agrees : exchange.Agrees userProcess calls)
    (kept : ∀ count protocol, (userProcess count protocol).2.type = protocol.type)
    (reading : Reading exchange.server protocol)
    (within : ¬(exchange.toServer.length < count ∨ bufferSize4096 < count))
    (read : exchange.server.readTurn tcpServer userProcess protocol (exchange.toServer.take count, memory) response =
      some server) :
    Matched userProcess exchange calls [] { exchange with server, toServer := exchange.toServer.drop count } := by
  by_cases some : count = 0
  · subst some
    have created := congrArg tcpAnswer (agrees.created reading)
    obtain ⟨coBuffer, usable, region, failed⟩ := RequestEnd.readTurn_nothing agrees.server
      (agrees.room_server reading) (by rw [created]; decide) memory response
    rw [List.take_zero, failed] at read
    cases read
    refine (agrees.requestFails reading usable (region.trans created)).stutters fun alive => ?_
    exact absurd (.inr ⟨coError, by decide, rfl⟩) alive.server
  · obtain ⟨other, same, matched, -⟩ :=
      agrees.requestReceives kept reading (take_readable some within memory) (List.take_append_drop count _) response
    cases read.symm.trans same
    exact matched

/-- A server that is not reading has no more to send. -/
theorem Writes.nothing {server before : RequestEnd CoProtocolTcp} (usable : server.coBuffer.Usable)
    (unsent : before.unsent = []) (processed : server.processed = before.processed)
    (turn : server.turn = .init ∧ server.coBuffer.region = [] ∧ ¬before.Failed ∨ server.turn = .closed) :
    Writes before server [] [] where
  usable := usable
  fresh init := turn.elim (fun reset => reset.2.1) fun closed => by cases init.symm.trans closed
  processed := processed
  unread protocol read := by
    rcases turn with ⟨turn, -⟩ | turn <;> cases turn.symm.trans read
  stays failed := turn.elim (fun reset => absurd failed reset.2.2) .inl
  whole := by
    have nothing : server.unsent = [] := by
      rcases turn with ⟨turn, -⟩ | turn <;> simp [RequestEnd.unsent, turn]
    rw [nothing, unsent]
    rfl
  closes := .inl rfl

theorem Agrees.step_requestSend {accepts : Nat} (agrees : exchange.Agrees userProcess calls)
    (stepped : exchange.step tcpClient tcpServer userProcess (.requestSend accepts) = some next) :
    Matched userProcess exchange calls [] next := by
  simp only [step] at stepped
  split at stepped
  · rename_i retCode turn
    have unread : ∀ protocol, exchange.server.turn ≠ .read protocol := fun protocol read => by
      cases turn.symm.trans read
    have opened : exchange.server.turn ≠ .closed := fun closed => by cases turn.symm.trans closed
    have unsent : exchange.server.unsent = exchange.server.coBuffer.region := by simp [RequestEnd.unsent, turn]
    by_cases empty : exchange.server.coBuffer.region = []
    · rw [RequestEnd.writeTurn_empty agrees.server empty] at stepped
      cases stepped
      have nothing := unsent.trans empty
      by_cases ok : retCode = coOk
      · subst ok
        rw [RequestEnd.requestFinalize_ok]
        have alive : ¬exchange.server.Failed := by
          rintro (closed | ⟨other, failed, writes⟩)
          · exact opened closed
          · cases turn.symm.trans writes
            exact failed rfl
        have writes : Writes exchange.server
            { exchange.server with coBuffer := exchange.server.coBuffer.reset, turn := .init } [] [] :=
          .nothing agrees.server.reset nothing rfl (.inl ⟨rfl, CoBuffer.region_reset _, alive⟩)
        refine (agrees.requestWrites unread opened writes).stutters fun _ => ?_
        simp [remaining, turn, RequestEnd.unsent, RequestEnd.writing]
      · rw [RequestEnd.requestFinalize_failed ok]
        have writes : Writes exchange.server { exchange.server with turn := .closed } [] [] :=
          .nothing agrees.server nothing rfl (.inr rfl)
        exact (agrees.requestWrites unread opened writes).stutters fun alive => absurd (.inl rfl) alive.server
    · rcases RequestEnd.writeTurn_more agrees.server empty accepts with
        ⟨sent, coBuffer, usable, whole, some, turned⟩ | ⟨-, turned⟩
      · rw [turned] at stepped
        cases stepped
        have writes : Writes exchange.server { exchange.server with coBuffer } sent [] := {
          usable
          fresh := fun init => by cases turn.symm.trans init
          processed := rfl
          unread
          stays := id
          whole := by simp [RequestEnd.unsent, turn, whole]
          closes := .inl rfl }
        refine (agrees.requestWrites unread opened writes).stutters fun _ => ?_
        have total := congrArg List.length whole
        have length := List.length_pos_iff.2 some
        simp only [List.length_append] at total
        simp [remaining, turn, RequestEnd.unsent, RequestEnd.writing]
        omega
      · rw [turned] at stepped
        cases stepped
        have writes : Writes exchange.server { exchange.server with turn := .closed } [] exchange.server.unsent := {
          usable := agrees.server
          fresh := nofun
          processed := rfl
          unread := nofun
          stays := fun _ => .inl rfl
          whole := rfl
          closes := .inr rfl }
        exact (agrees.requestWrites unread opened writes).stutters fun alive => absurd (.inl rfl) alive.server
  · cases stepped

theorem Agrees.step (agrees : exchange.Agrees userProcess calls) (fits : event.Fits userProcess)
    (kept : ∀ count protocol, (userProcess count protocol).2.type = protocol.type)
    (stepped : exchange.step tcpClient tcpServer userProcess event = some next) :
    Matched userProcess exchange calls event.asks next := by
  cases event with
  | upstreamWrite protocol memory => exact agrees.upstreamWrite fits stepped
  | upstreamSend accepts => exact agrees.step_upstreamSend stepped
  | upstreamRecv count memory => exact agrees.step_upstreamRecv stepped
  | upstreamClose =>
    cases stepped
    refine Agrees.stutters ?_ fun alive => absurd rfl alive.client
    simpa [UpstreamEnd.close] using agrees.upstreamCloses agrees.client exchange.toClient List.suffix_rfl
  | requestRecv count memory response =>
    simp only [Exchange.step] at stepped
    split at stepped
    · cases stepped
    · rename_i within
      split at stepped
      · rename_i turn
        obtain ⟨server, read, rfl⟩ := Option.map_eq_some_iff.1 stepped
        exact agrees.requestReads kept (.inl ⟨turn, rfl⟩) within read
      · rename_i protocol turn
        obtain ⟨server, read, rfl⟩ := Option.map_eq_some_iff.1 stepped
        exact agrees.requestReads kept (.inr turn) within read
      · cases stepped
  | requestSend accepts => exact agrees.step_requestSend stepped
  | requestClose =>
    simp only [Exchange.step] at stepped
    split at stepped
    · rename_i turn
      cases stepped
      have reading : Reading exchange.server tcpServer.createProtocol := .inl ⟨turn, rfl⟩
      rw [RequestEnd.requestFinalize_failed (by decide)]
      refine Agrees.stutters ?_ fun alive => absurd (.inl rfl) alive.server
      have writes : Writes exchange.server { exchange.server with turn := .closed } [] [] :=
        .nothing agrees.server reading.unsent rfl (.inr rfl)
      simpa using agrees.requestWrites (fun protocol read => by cases turn.symm.trans read) reading.opened writes
    · cases stepped

end

end Exchange

end CoServer
