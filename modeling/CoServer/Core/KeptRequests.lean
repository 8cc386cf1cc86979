import CoServer.Core.KeepAlive
import CoServer.Protocol.HttpEncode
import CoServer.Protocol.HttpPieces
import CoServer.Protocol.TcpFraming

/-! # Kept alive connections of TCP and HTTP servers

For both protocols a group of reads is good if it is exactly one request and the
decoder understands that request in these pieces.  Wherever a read goes beyond the
end of a request, what it has of the next one is lost. -/

namespace CoServer

open ClientConnection
open Lib (ascii)

/-! ## TCP -/

/-- What a TCP server's connection uses. -/
def tcpServer : ServerProtocol CoProtocolTcp where
  createProtocol := { type := protocolTcpServer }
  decode := CoProtocolTcp.decode
  encode self coBuffer memory := self.encode coBuffer (some (memory 0), some (memory 1))

/-- A framed request. -/
def tcpRequest (body : Bytes) : Bytes × CoProtocolTcp :=
  (frame body, tcpServer.createProtocol.setDecodedBody body)

/-- A TCP response. -/
def tcpAnswer (protocol : CoProtocolTcp) : Bytes := frame protocol.encodedBody

namespace CoProtocolTcp

theorem decode_left {self after : CoProtocolTcp} {coBuffer left : CoBuffer} {ret : Int}
    (decoded : self.decode coBuffer = some (ret, after, left)) :
    (ret = coAgain ∧ after = self ∧ left = coBuffer) ∨ (ret = coError ∧ left = coBuffer.reset) ∨
      ret = coOk ∧ ∃ taken, left = (coBuffer.bufferErase taken).2 := by
  simp only [decode] at decoded
  split at decoded
  · cases decoded
    exact .inl ⟨rfl, rfl, rfl⟩
  · split at decoded
    · cases decoded
      exact .inr (.inl ⟨rfl, rfl⟩)
    · split at decoded
      · cases decoded
        exact .inl ⟨rfl, rfl, rfl⟩
      · split at decoded
        · cases decoded
        · cases decoded
          exact .inr (.inr ⟨rfl, _, rfl⟩)

end CoProtocolTcp

theorem tcpServer_lawful : tcpServer.Lawful tcpAnswer fun _ pending received => pending = received where
  decode valid decoded := by
    rcases CoProtocolTcp.decode_left decoded with ⟨-, -, rfl⟩ | ⟨-, rfl⟩ | ⟨-, taken, rfl⟩
    · exact ⟨valid, rfl⟩
    · exact ⟨valid.reset, rfl⟩
    · exact ⟨valid.bufferErase taken, CoBuffer.bufferErase_totalSize _ _⟩
  encode protocol memory valid total room := by
    rw [valid.region_length] at room
    obtain ⟨after, encoded, afterValid, region, afterTotal⟩ := protocol.encode_eq (memory 0, memory 1) valid total room
    exact ⟨coOk, after, encoded, afterValid, region, afterTotal⟩
  start := rfl
  again waiting _ _ region decoded := by
    rcases CoProtocolTcp.decode_left decoded with ⟨-, -, rfl⟩ | ⟨code, -⟩ | ⟨code, -⟩
    · rw [region, waiting]
    · exact absurd code (by decide)
    · exact absurd code (by decide)

section
variable {body : Bytes} {group : List (Bytes × Block)} {coBuffer left : CoBuffer} {protocol last : CoProtocolTcp}

/-- A part of a frame is appended to the buffer. -/
theorem receive_part {arrival : Bytes × Block} (valid : coBuffer.Valid) (total : coBuffer.totalSize < 2 ^ 63)
    (short : body.length < 2 ^ 32) (readable : arrival.1 ≠ [] ∧ arrival.1.length ≤ 4096)
    (whole : coBuffer.region ++ ((arrival :: group).map Prod.fst).flatten = frame body) :
    ∃ after, coBuffer.receive arrival = some (coOk, after) ∧ after.Valid ∧ after.totalSize < 2 ^ 63 ∧
      after.region ++ (group.map Prod.fst).flatten = frame body := by
  have size := congrArg List.length whole
  rw [List.length_append, frame_length, coMsgTcpHeadLen] at size
  obtain ⟨after, received, kept, region, afterTotal⟩ := valid.receive total (by omega) readable
  refine ⟨after, received, kept, afterTotal, ?_⟩
  rw [region, ← whole, List.map_cons, List.flatten_cons, List.append_assoc]

/-- A request is only taken whole if its size fits in an `int32_t` and something follows
    its header. -/
theorem tcp_fits (completes : Completes CoProtocolTcp.decode protocol coBuffer group last left) (recv : Recv group)
    (valid : coBuffer.Valid) (total : coBuffer.totalSize < 2 ^ 63) (short : body.length < 2 ^ 32)
    (whole : coBuffer.region ++ (group.map Prod.fst).flatten = frame body) (empty : left.region = []) :
    body ≠ [] ∧ (frame body).length < 2 ^ 31 := by
  -- on the reads; what waits and what is to come is the frame all along
  induction completes with
  | @last protocol last coBuffer received left arrival arrived decoded =>
    obtain ⟨after, same, kept, -, all⟩ := receive_part valid total short (recv _ List.mem_cons_self) whole
    cases arrived.symm.trans same
    rw [List.map_nil, List.flatten_nil, List.append_nil] at all
    -- a frame that is too large is not taken out of the buffer
    have small : (frame body).length < 2 ^ 31 := by
      by_contra huge
      have left := (protocol.decode_huge kept (by rw [all]; omega) (by decide) decoded).2
      rw [empty] at left
      exact absurd left (by decide)
    refine ⟨?_, small⟩
    rintro rfl
    -- eight bytes are only a header, so more is asked for
    have waits := protocol.decode_eq kept (by rw [all]; exact small)
    rw [all, unframe_header (by decide)] at waits
    cases waits.symm.trans decoded
  | @more protocol after last coBuffer received behind left arrival rest arrived decoded _ ih =>
    obtain ⟨appended, same, kept, appendedTotal, all⟩ := receive_part valid total short (recv _ List.mem_cons_self) whole
    cases arrived.symm.trans same
    rcases CoProtocolTcp.decode_left decoded with ⟨-, -, rfl⟩ | ⟨code, -⟩ | ⟨code, -⟩
    · exact ih (fun other mem => recv other (List.mem_cons_of_mem _ mem)) kept appendedTotal all empty
    · exact absurd code (by decide)
    · exact absurd code (by decide)

/-- Such a request is taken whole, however it is cut. -/
theorem tcp_completes (protocol : CoProtocolTcp) (recv : Recv group) (valid : coBuffer.Valid)
    (total : coBuffer.totalSize < 2 ^ 63) (some : group ≠ []) (nonempty : body ≠ [])
    (small : (frame body).length < 2 ^ 31)
    (whole : coBuffer.region ++ (group.map Prod.fst).flatten = frame body) :
    ∃ left, Completes CoProtocolTcp.decode protocol coBuffer group (protocol.setDecodedBody body) left ∧ left.region = [] := by
  have length := frame_length body
  unfold coMsgTcpHeadLen at length
  -- every read but the last leaves an incomplete frame
  induction group generalizing coBuffer with
  | nil => exact absurd rfl some
  | cons arrival rest ih =>
    obtain ⟨after, arrived, kept, afterTotal, all⟩ := receive_part valid total (by omega) (recv _ List.mem_cons_self) whole
    have within := congrArg List.length all
    rw [List.length_append] at within
    have decoded := protocol.decode_eq kept (by omega)
    cases rest with
    | nil =>
      -- the last read completes the frame
      rw [List.map_nil, List.flatten_nil, List.append_nil] at all
      have found : unframe (frame body) = .body body := by
        have found := @unframe_frame body [] (by omega) (by rwa [List.append_nil])
        rwa [List.append_nil] at found
      rw [all, found] at decoded
      refine ⟨_, .last arrived decoded, ?_⟩
      rw [kept.region_bufferErase, all, List.drop_eq_nil_of_le]
      rw [length, coMsgTcpHeadLen]
      omega
    | cons next rest =>
      have more : 0 < next.1.length :=
        List.length_pos_iff.2 (recv next (List.mem_cons_of_mem _ List.mem_cons_self)).1
      have part : unframe after.region = .incomplete := by
        refine unframe_part (by omega) (all.trans (List.append_nil _).symm) (.inr ?_)
        rw [List.map_cons, List.flatten_cons, List.length_append] at within
        unfold coMsgTcpHeadLen
        omega
      rw [part] at decoded
      obtain ⟨left, completes, empty⟩ := ih (fun other mem => recv other (List.mem_cons_of_mem _ mem)) kept afterTotal
        (List.cons_ne_nil _ _) all
      exact ⟨left, .more arrived decoded completes, empty⟩

end

/-- A group is good if its request is not empty and fits in an `int32_t`. -/
theorem tcpServer_decides {bodies : List Bytes} (short : ∀ body ∈ bodies, body.length < 2 ^ 32) :
    Decides tcpServer (fun _ pending received => pending = received) (bodies.map tcpRequest)
      fun _ request => coMsgTcpHeadLen < request.1.length ∧ request.1.length < 2 ^ 31 where
  room mem split waiting := by
    obtain ⟨body, member, rfl⟩ := List.mem_map.1 mem
    have length := congrArg List.length split
    have bound := short body member
    rw [List.length_append, tcpRequest, frame_length, coMsgTcpHeadLen] at length
    rw [waiting]
    omega
  completes := by
    intro request coBuffer group mem valid total empty recv whole
    obtain ⟨body, member, rfl⟩ := List.mem_map.1 mem
    have length := frame_length body
    have all : coBuffer.region ++ (group.map Prod.fst).flatten = frame body := by
      rw [empty, List.nil_append]
      exact whole
    simp only [tcpRequest]
    constructor
    · rintro ⟨left, completes, nothing⟩
      obtain ⟨nonempty, small⟩ := tcp_fits completes recv valid total (short body member) all nothing
      have := List.length_pos_iff.2 nonempty
      exact ⟨by omega, small⟩
    · rintro ⟨beyond, small⟩
      refine tcp_completes _ recv valid total ?_ (List.length_pos_iff.1 (by omega)) small all
      rintro rfl
      exact frame_ne_nil body (all ▸ by simp [empty])

/-! ## HTTP -/

/-- What an HTTP server's connection uses; `order` is how the iterator of a map goes through it. -/
def httpServer (order : StringMap → List (Bytes × Bytes)) : ServerProtocol CoProtocolHttpServer where
  createProtocol := {}
  decode := CoProtocolHttpServer.decode
  encode self coBuffer memory :=
    (self.encode coBuffer order fun call => some (memory call)).map fun (ret, _, coBuffer) => (ret, coBuffer)

/-- A complete request. -/
def httpRequest (raw : RawMessage) : Bytes × CoProtocolHttpServer := (raw.bytes, { reqMsg := raw.request })

/-- An HTTP response as it is printed. -/
def httpAnswer (order : StringMap → List (Bytes × Bytes)) (protocol : CoProtocolHttpServer) : Bytes :=
  let respMsg := { protocol.respMsg with
    toCoProtocolHttp := CoProtocolHttpServer.sentHeaders protocol.respMsg.toCoProtocolHttp }
  (CoProtocolHttpServer.encodeRows respMsg (order respMsg.headers)).flatten

/-- Little waits between two reads, and the message has not failed. -/
def HttpWaits (protocol : CoProtocolHttpServer) (pending _received : Bytes) : Prop :=
  pending.length ≤ 8192 ∧ protocol.reqMsg.parseStatus ≠ .eError

section
variable {order : StringMap → List (Bytes × Bytes)}

theorem httpServer_lawful : (httpServer order).Lawful (httpAnswer order) HttpWaits where
  decode valid decoded := by
    obtain ⟨⟨ret, message, left⟩, side, same⟩ := Option.map_eq_some_iff.1 decoded
    cases same
    obtain ⟨leftValid, total, -⟩ := (HttpSide.decode_leaves side).valid valid
    exact ⟨leftValid, total⟩
  encode protocol memory valid total room := by
    obtain ⟨out, appended, outValid, region, outTotal⟩ := appendAll_region memory 0 valid total room
    refine ⟨coOk, out, ?_, outValid, region, outTotal⟩
    simp only [httpServer, CoProtocolHttpServer.encode, appended, Option.map_some]
  start := ⟨Nat.zero_le _, nofun⟩
  again waiting short valid region decoded := by
    obtain ⟨⟨ret, message, left⟩, side, same⟩ := Option.map_eq_some_iff.1 decoded
    cases same
    have size := congrArg List.length region
    rw [List.length_append] at size
    have pending := waiting.1
    exact ⟨CoProtocolHttpServer.decode_again valid (by omega) waiting.2 side,
      HttpSide.decode_notError CoProtocolHttpServer.counts waiting.2 side⟩

theorem httpServer_decode_iff {protocol after : CoProtocolHttpServer} {coBuffer left : CoBuffer} {ret : Int} :
    (httpServer order).decode protocol coBuffer = some (ret, after, left) ↔
      ∃ message, CoProtocolHttpServer.side.decode protocol.reqMsg coBuffer = some (ret, message, left) ∧
        after = { protocol with reqMsg := message } := by
  constructor
  · intro decoded
    obtain ⟨⟨code, message, behind⟩, side, same⟩ := Option.map_eq_some_iff.1 decoded
    cases same
    exact ⟨message, side, rfl⟩
  · rintro ⟨message, side, rfl⟩
    exact Option.map_eq_some_iff.2 ⟨_, side, rfl⟩

section
variable {self : HttpReceiver CoHTTPRequest} {protocol : CoProtocolHttpServer} {coBuffer : CoBuffer}
  {arrival : Bytes × Block} {group : List (Bytes × Block)} {expected : CoHTTPRequest}

/-- A connection and a receiver that hold the same bytes. -/
structure SameBytes (receiver : HttpReceiver CoHTTPRequest) (protocol : CoProtocolHttpServer) (coBuffer : CoBuffer) :
    Prop where
  message : protocol.reqMsg = receiver.message
  valid : coBuffer.Valid
  total : coBuffer.totalSize < 2 ^ 63
  receiverValid : receiver.coBuffer.Valid
  receiverTotal : receiver.coBuffer.totalSize < 2 ^ 63
  region : receiver.coBuffer.region = coBuffer.region
  waiting : HttpWaits protocol coBuffer.region []

/-- One read does the same to both. -/
theorem SameBytes.read (same : SameBytes self protocol coBuffer)
    (readable : arrival.1 ≠ [] ∧ arrival.1.length ≤ 4096) :
    ∃ received, coBuffer.receive arrival = some (coOk, received) ∧
      (∀ ret message left, CoProtocolHttpServer.side.decode protocol.reqMsg received = some (ret, message, left) →
        ∃ next, self.receive CoProtocolHttpServer.side arrival = some next ∧ next.message = message ∧
          next.codes = self.codes ++ [ret] ∧ next.coBuffer.region = left.region ∧
          (ret = coAgain → SameBytes next { protocol with reqMsg := message } left)) ∧
      (∀ next, self.receive CoProtocolHttpServer.side arrival = some next → ∃ ret left,
        CoProtocolHttpServer.side.decode protocol.reqMsg received = some (ret, next.message, left) ∧
          next.codes = self.codes ++ [ret] ∧ next.coBuffer.region = left.region) := by
  have pending := same.waiting.1
  have size := same.receiverValid.region_length
  rw [same.region] at size
  obtain ⟨received, arrived, valid, region, total⟩ := same.valid.receive same.total (by omega) readable
  obtain ⟨appended, append, appendedValid, appendedRegion, appendedTotal⟩ :=
    same.receiverValid.bufferAppend_some arrival.2 same.receiverTotal (by omega : _ + arrival.1.length < 2 ^ 62)
  rw [same.region, ← region] at appendedRegion
  have shown : (CoProtocolHttpServer.side.decode self.message appended).map HttpSide.shown =
      (CoProtocolHttpServer.side.decode self.message received).map HttpSide.shown :=
    HttpSide.decode_shown valid appendedValid appendedRegion
  have step : self.receive CoProtocolHttpServer.side arrival =
      (CoProtocolHttpServer.side.decode self.message appended).map fun decoded =>
        { message := decoded.2.1, coBuffer := decoded.2.2, codes := self.codes ++ [decoded.1] } := by
    simp only [HttpReceiver.receive, append]
    rw [if_neg (not_not.2 rfl)]
  rw [same.message]
  refine ⟨received, arrived, fun ret message left decoded => ?_, fun next ran => ?_⟩
  · rw [decoded, Option.map_some, Option.map_eq_some_iff] at shown
    obtain ⟨⟨code, other, behind⟩, found, alike⟩ := shown
    simp only [HttpSide.shown, Prod.mk.injEq] at alike
    obtain ⟨rfl, rfl, bytes⟩ := alike
    refine ⟨_, by rw [step, found, Option.map_some], rfl, rfl, bytes, ?_⟩
    rintro rfl
    obtain ⟨leftValid, leftTotal, -⟩ := (HttpSide.decode_leaves decoded).valid valid
    obtain ⟨behindValid, behindTotal, -⟩ := (HttpSide.decode_leaves found).valid appendedValid
    refine ⟨rfl, leftValid, leftTotal ▸ total, behindValid, behindTotal ▸ appendedTotal, bytes, ?_⟩
    have length := congrArg List.length region
    rw [List.length_append] at length
    have opened := same.message ▸ same.waiting.2
    exact ⟨CoProtocolHttpServer.decode_again valid (by omega) opened decoded,
      HttpSide.decode_notError CoProtocolHttpServer.counts opened decoded⟩
  · rw [step] at ran
    obtain ⟨⟨code, other, behind⟩, found, rfl⟩ := Option.map_eq_some_iff.1 ran
    rw [found, Option.map_some, eq_comm, Option.map_eq_some_iff] at shown
    obtain ⟨⟨ret, message, left⟩, decoded, alike⟩ := shown
    simp only [HttpSide.shown, Prod.mk.injEq] at alike
    obtain ⟨rfl, rfl, bytes⟩ := alike
    exact ⟨_, _, decoded, rfl, bytes.symm⟩

/-- The reads of a request complete it exactly if a receiver is completed by them. -/
theorem SameBytes.completes_iff (same : SameBytes self protocol coBuffer) (recv : Recv group) :
    (∃ left, Completes (httpServer order).decode protocol coBuffer group { protocol with reqMsg := expected } left ∧
        left.region = []) ↔
      HttpReceiver.Completes CoProtocolHttpServer.side self group expected := by
  -- read by read, both hold the same bytes until the last
  induction group generalizing self protocol coBuffer with
  | nil =>
    constructor
    · rintro ⟨left, completes, -⟩
      cases completes
    · rintro ⟨final, ran, -, -, codes⟩
      cases ran
      simp at codes
  | cons arrival rest ih =>
    obtain ⟨received, arrived, forth, back⟩ := same.read (recv arrival List.mem_cons_self)
    have later : Recv rest := fun other mem => recv other (List.mem_cons_of_mem _ mem)
    -- the last read completes the request, the others ask for more
    by_cases more : rest = []
    · subst more
      rw [HttpReceiver.completes_one]
      constructor
      · rintro ⟨left, completes, empty⟩
        cases completes with
        | last also decoded =>
          cases arrived.symm.trans also
          obtain ⟨message, side, record⟩ := httpServer_decode_iff.1 decoded
          obtain ⟨next, ran, message, codes, bytes, -⟩ := forth _ _ _ side
          cases record
          exact ⟨next, ran, message, bytes.trans empty, codes⟩
        | more _ _ none => cases none
      · rintro ⟨next, ran, rfl, empty, codes⟩
        obtain ⟨ret, left, side, code, bytes⟩ := back next ran
        rw [codes, List.append_cancel_left_eq, List.singleton_inj] at code
        subst code
        exact ⟨left, .last arrived (httpServer_decode_iff.2 ⟨_, side, rfl⟩), bytes.symm.trans empty⟩
    · rw [HttpReceiver.completes_cons more]
      constructor
      · rintro ⟨left, completes, empty⟩
        cases completes with
        | last => exact absurd rfl more
        | more also decoded completes =>
          cases arrived.symm.trans also
          obtain ⟨message, side, rfl⟩ := httpServer_decode_iff.1 decoded
          obtain ⟨next, ran, -, codes, -, alike⟩ := forth _ _ _ side
          exact ⟨next, ran, codes, (ih (alike rfl) later).1 ⟨left, completes, empty⟩⟩
      · rintro ⟨next, ran, codes, completes⟩
        obtain ⟨ret, behind, side, code, bytes⟩ := back next ran
        rw [codes, List.append_cancel_left_eq, List.singleton_inj] at code
        subst code
        obtain ⟨other, alsoRan, -, -, -, alike⟩ := forth _ _ _ side
        cases ran.symm.trans alsoRan
        obtain ⟨left, completes, empty⟩ := (ih (alike rfl) later).2 completes
        exact ⟨left, .more arrived (httpServer_decode_iff.2 ⟨_, side, rfl⟩) completes, empty⟩

/-- A group is good if a receiver completes the request with it. -/
theorem httpServer_decides (raws : List RawMessage) :
    Decides (httpServer order) HttpWaits (raws.map httpRequest) fun group request =>
      HttpReceiver.Completes CoProtocolHttpServer.side { message := {} } group request.2.reqMsg where
  room _ _ waiting := lt_of_le_of_lt waiting.1 (by decide)
  completes := by
    intro request coBuffer group mem valid total empty recv _
    obtain ⟨raw, _, rfl⟩ := List.mem_map.1 mem
    have same : SameBytes { message := {} } (httpServer order).createProtocol coBuffer :=
      ⟨rfl, valid, total, CoBuffer.valid_fresh, by decide, empty.symm, by rw [empty]; exact Nat.zero_le _, nofun⟩
    exact same.completes_iff recv

end

end

/-! ## Both servers -/

/-- The reads of a TCP request that is served. -/
def TcpFits (group : List (Bytes × Block)) (body : Bytes) : Prop :=
  (group.map Prod.fst).flatten = frame body ∧ body ≠ [] ∧ (frame body).length < 2 ^ 31

/-- The reads of an HTTP request that is served. -/
def HttpFits (group : List (Bytes × Block)) (raw : RawMessage) : Prop :=
  (group.map Prod.fst).flatten = raw.bytes ∧ raw.Uncut group ∧ raw.body.length < 2 ^ 31 ∧
    ¬CoProtocolHttpServer.side.Overflows {} group

section
variable {connection : CoConnection} {arrivals : List (Bytes × Block)}

theorem tcp_serves_iff {around : Surroundings CoProtocolTcp} {bodies : List Bytes}
    (valid : connection.coBuffer.Valid) (total : connection.coBuffer.totalSize < 2 ^ 63)
    (empty : connection.coBuffer.region = []) (recv : Recv arrivals) (succeeds : around.Succeeds)
    (short : ∀ body ∈ bodies, body.length < 2 ^ 32) :
    Serves tcpServer around tcpAnswer connection arrivals (bodies.map tcpRequest) ↔
      Grouped TcpFits arrivals bodies ∧ Sendable around tcpAnswer 0 (bodies.map tcpRequest) := by
  rw [serves_iff tcpServer_lawful succeeds (tcpServer_decides short) valid total empty recv, grouped_map]
  refine and_congr_left fun _ => grouped_congr fun group body _ _ => ?_
  have length := frame_length body
  rw [Whole, TcpFits, tcpRequest]
  refine and_congr_right fun _ => and_congr_left fun _ => ?_
  rw [length, ← List.length_pos_iff]
  omega

theorem http_serves_iff {order : StringMap → List (Bytes × Bytes)} {around : Surroundings CoProtocolHttpServer}
    {raws : List RawMessage} (valid : connection.coBuffer.Valid) (total : connection.coBuffer.totalSize < 2 ^ 63)
    (empty : connection.coBuffer.region = []) (recv : Recv arrivals) (succeeds : around.Succeeds)
    (framed : ∀ raw ∈ raws, raw.Framed) :
    Serves (httpServer order) around (httpAnswer order) connection arrivals (raws.map httpRequest) ↔
      Grouped HttpFits arrivals raws ∧ Sendable around (httpAnswer order) 0 (raws.map httpRequest) := by
  rw [serves_iff httpServer_lawful succeeds (httpServer_decides raws) valid total empty recv, grouped_map]
  refine and_congr_left fun _ => grouped_congr fun group raw sub mem => ?_
  refine and_congr_right fun whole => ?_
  exact completes_request_iff (framed raw mem) whole fun arrival within => recv arrival (sub within)

/-- Requests that are sent back to back on one connection are all answered, and nothing
    between them is lost, if and only if the reads fall into one group for each of them
    that is good for its protocol, and the responses are shorter than 2³² bytes. -/
theorem requests_served_iff (valid : connection.coBuffer.Valid) (total : connection.coBuffer.totalSize < 2 ^ 63)
    (empty : connection.coBuffer.region = []) (recv : Recv arrivals) :
    (∀ (around : Surroundings CoProtocolTcp) (bodies : List Bytes), around.Succeeds →
      (∀ body ∈ bodies, body.length < 2 ^ 32) →
        (Serves tcpServer around tcpAnswer connection arrivals (bodies.map tcpRequest) ↔
          Grouped TcpFits arrivals bodies ∧ Sendable around tcpAnswer 0 (bodies.map tcpRequest))) ∧
    ∀ (order : StringMap → List (Bytes × Bytes)) (around : Surroundings CoProtocolHttpServer) (raws : List RawMessage),
      around.Succeeds → (∀ raw ∈ raws, raw.Framed) →
        (Serves (httpServer order) around (httpAnswer order) connection arrivals (raws.map httpRequest) ↔
          Grouped HttpFits arrivals raws ∧ Sendable around (httpAnswer order) 0 (raws.map httpRequest)) :=
  ⟨fun _ _ succeeds short => tcp_serves_iff valid total empty recv succeeds short,
    fun _ _ _ succeeds framed => http_serves_iff valid total empty recv succeeds framed⟩

end

/-- The user's function returns CO_OK and leaves the message alone. -/
def easySurroundings (Protocol : Type) : Surroundings Protocol where
  userProcess _ protocol := (coOk, protocol)
  memory _ _ := ⟨4096, []⟩
  accepts _ _ := 4096

theorem easySurroundings_succeeds (Protocol : Type) : (easySurroundings Protocol).Succeeds where
  userProcess _ _ := rfl
  accepts _ _ := by
    simp only [easySurroundings]
    decide

/-- The headers of a response without a body. -/
def plainOrder (_ : StringMap) : List (Bytes × Bytes) :=
  [(headerContentLength, ascii "0"), (headerServer, ascii "coserver/http")]

/-- Two requests whose reads end with them. -/
theorem requests_served_grouped :
    Serves tcpServer (easySurroundings CoProtocolTcp) tcpAnswer {} [(frame [7], ⟨4096, []⟩), (frame [8], ⟨4096, []⟩)]
      ([[7], [8]].map tcpRequest) ∧
    Serves (httpServer plainOrder) (easySurroundings CoProtocolHttpServer) (httpAnswer plainOrder) {}
      [(ascii "POST /a?b=c HTTP/1.1\r\nContent-Length: 2\r", ⟨4096, []⟩), (ascii "\n\r\nok", ⟨4096, []⟩),
        (postRequest.bytes, ⟨4096, []⟩)] ([postRequest, postRequest].map httpRequest) := by
  have tcpRecv : Recv [(frame [7], ⟨4096, []⟩), (frame [8], ⟨4096, []⟩)] := by
    unfold Recv
    decide
  have httpRecv : Recv [(ascii "POST /a?b=c HTTP/1.1\r\nContent-Length: 2\r", ⟨4096, []⟩),
      (ascii "\n\r\nok", ⟨4096, []⟩), (postRequest.bytes, ⟨4096, []⟩)] := by
    unfold Recv
    decide
  constructor
  · refine ((requests_served_iff CoBuffer.valid_fresh (by decide) rfl tcpRecv).1 _ _
      (easySurroundings_succeeds _) (by decide)).2 ⟨⟨[[_], [_]], rfl, ?_⟩, by decide, by decide, trivial⟩
    exact .cons ⟨by decide, by decide, by decide⟩ (.cons ⟨by decide, by decide, by decide⟩ .nil)
  · refine ((requests_served_iff CoBuffer.valid_fresh (by decide) rfl httpRecv).2 _ _ _
      (easySurroundings_succeeds _) ?_).2 ⟨⟨[[_, _], [_]], rfl, ?_⟩, by decide +kernel, by decide +kernel, trivial⟩
    · simp only [List.forall_mem_cons, List.not_mem_nil, false_imp_iff, implies_true, and_true]
      exact ⟨postRequest_framed, postRequest_framed⟩
    · exact .cons ⟨by decide, by decide, by decide, not_overflows_of_short (by decide)⟩
        (.cons ⟨by decide, by decide, by decide, not_overflows_of_short (by decide)⟩ .nil)

/-- Read together, the same two TCP requests are answered once: the second one is thrown
    away with the buffer. -/
theorem requests_read_together : ¬∀ (arrivals : List (Bytes × Block)) (bodies : List Bytes), Recv arrivals →
    (arrivals.map Prod.fst).flatten = (bodies.map frame).flatten →
      Serves tcpServer (easySurroundings CoProtocolTcp) tcpAnswer {} arrivals (bodies.map tcpRequest) := by
  intro served
  have recv : Recv [(frame [7] ++ frame [8], ⟨4096, []⟩)] := by
    unfold Recv
    decide
  -- one read takes both frames, and only the first one is decoded
  obtain ⟨final, ran, -, -, answers, -⟩ := served [(frame [7] ++ frame [8], ⟨4096, []⟩)] [[7], [8]] recv (by decide)
  have once : ([(frame [7] ++ frame [8], ⟨4096, []⟩)].foldlM (read tcpServer (easySurroundings CoProtocolTcp))
      { connection := {} }).map (fun final => final.answered.map fun answered => answered.left) =
        some [frame [8]] := by decide +kernel
  rw [ran, Option.map_some, Option.some.injEq] at once
  have count := congrArg List.length once
  rw [List.length_map, ← answers.length_eq] at count
  exact absurd count (by decide)

end CoServer
