import CoServer.Base.BufferQueue
import CoServer.Core.Connection
import CoServer.Lib.Run

/-! # The requests of a client connection

`CoCallbackRequest` takes a connection from `request_init` to `request_finalize`
and, kept alive, back to the next request.  All of it goes through the one
`m_coBuffer`: a request is read into it, the response is encoded into it, and it
is emptied before the response and behind it.

A step is one read: from the return of `recv` to the next wait for the client.
What epoll and the timers do meanwhile leaves the bytes alone. -/

namespace CoServer

/-- What the callbacks use of a server's protocol. -/
structure ServerProtocol (Protocol : Type) where
  createProtocol : Protocol
  decode : Protocol → CoBuffer → Option (Int × Protocol × CoBuffer)
  /-- The last argument is what the calls of `realloc` return. -/
  encode : Protocol → CoBuffer → (Nat → Block) → Option (Int × CoBuffer)

/-- What the callbacks do not decide, for the first request, the second and so on. -/
structure Surroundings (Protocol : Type) where
  userProcess : Nat → Protocol → Int × Protocol
  memory : Nat → Nat → Block
  /-- How many bytes a call of `send` takes at most. -/
  accepts : Nat → Nat → Nat

/-- A request that is being read.  `buffered` and `received` only record what lay
    in the buffer at `request_init` and what was read since. -/
structure ReadRequest (Protocol : Type) where
  protocol : Protocol
  buffered : Bytes
  received : Bytes := []

/-- The record of a request at `request_finalize`: what `decode` left in the buffer,
    what the user's function made of it, and what was sent. -/
structure AnsweredRequest (Protocol : Type) extends ReadRequest Protocol where
  left : Bytes
  processed : Protocol
  sent : Bytes

structure ClientConnection (Protocol : Type) where
  connection : CoConnection
  request : Option (ReadRequest Protocol) := none
  closed : Bool := false
  answered : List (AnsweredRequest Protocol) := []

/-! ## The callbacks -/

/-- A read into the space behind the valid bytes.  `recv` returns nothing where the
    peer has closed. -/
def CoBuffer.receive (self : CoBuffer) (arrival : Bytes × Block) : Option (Int × CoBuffer) :=
  match self.bufferExpand bufferSize4096 (some arrival.2) with
  | none => none
  | some (ret, self) =>
    if ret ≠ coOk then some (ret, self)
    else if arrival.1 = [] then some (coConnectionClose, self)
    else (self.writeSpace arrival.1).map fun self => self.bufferSizeExpand arrival.1.length

/-- `tcp_write` is given the size as a `uint32_t` and refuses to write nothing. -/
def CoBuffer.tcpWrite (self : CoBuffer) (accepts : Nat) : Int :=
  if uint32 self.bufferSize = 0 then coError else int32 (min accepts (uint32 self.bufferSize) : Nat)

/-- The loop of `request_write`, with the bytes that were sent so far. -/
def CoBuffer.writeLoop (accepts : Nat → Nat) : Nat → Nat → Bytes → CoBuffer → Option (Int × Bytes × CoBuffer)
  | 0, _, _, _ => none
  | turns + 1, call, sent, self =>
    if self.bufferSize > 0 then
      let ret := self.tcpWrite (accepts call)
      if ret > 0 then
        writeLoop accepts turns (call + 1) (sent ++ self.region.take ret.toNat) (self.bufferErase ret.toNat).2
      else some (coError, sent, self)
    else some (coOk, sent, self)

namespace ClientConnection

section
variable {Protocol : Type}

def coBuffer (self : ClientConnection Protocol) : CoBuffer := self.connection.coBuffer

def setBuffer (self : ClientConnection Protocol) (coBuffer : CoBuffer) : ClientConnection Protocol :=
  { self with connection := { self.connection with coBuffer } }

/-- `free_request_connection`: the connection is closed, or kept for the next request. -/
def freeRequestConnection (self : ClientConnection Protocol) (retCode : Int) : ClientConnection Protocol :=
  if retCode ≠ coOk then { self with closed := true }
  else { self with connection := { self.connection.resetRequest with handler := some .requestInit } }

def requestFinalize (self : ClientConnection Protocol) (request : AnsweredRequest Protocol) (retCode : Int) :
    ClientConnection Protocol :=
  { self with request := none, answered := self.answered ++ [request] }.freeRequestConnection retCode

variable (side : ServerProtocol Protocol) (around : Surroundings Protocol)

/-- The result of `encode` is not looked at. -/
def requestWrite (self : ClientConnection Protocol) (request : ReadRequest Protocol) (left : Bytes)
    (processed : Protocol) (retCode : Int) : Option (ClientConnection Protocol) :=
  let count := self.answered.length
  let coBuffer := if self.coBuffer.bufferSize > 0 then self.coBuffer.reset else self.coBuffer
  match side.encode processed coBuffer (around.memory count) with
  | none => none
  | some (_, coBuffer) =>
    (coBuffer.writeLoop (around.accepts count) (coBuffer.bufferSize + 1) 0 []).map fun (ret, sent, coBuffer) =>
      (self.setBuffer coBuffer).requestFinalize { request with left, processed, sent }
        (if ret = coOk then retCode else coError)

def requestProcess (self : ClientConnection Protocol) (request : ReadRequest Protocol) (left : Bytes) :
    Option (ClientConnection Protocol) :=
  let (ret, processed) := around.userProcess self.answered.length request.protocol
  self.requestWrite side around request left processed ret

/-- One turn of the loop of `request_read`. -/
def requestRead (self : ClientConnection Protocol) (request : ReadRequest Protocol) (arrival : Bytes × Block) :
    Option (ClientConnection Protocol) :=
  match self.coBuffer.receive arrival with
  | none => none
  | some (ret, coBuffer) =>
    if ret ≠ coOk then
      (self.setBuffer coBuffer).requestWrite side around request coBuffer.region request.protocol coError
    else
      match side.decode request.protocol coBuffer with
      | none => none
      | some (ret, protocol, coBuffer) =>
        let request := { request with protocol, received := request.received ++ arrival.1 }
        let self := self.setBuffer coBuffer
        if ret = coAgain then some { self with request := some request }
        else if ret = coOk then self.requestProcess side around request coBuffer.region
        else self.requestWrite side around request coBuffer.region protocol coError

/-- The request that the next read belongs to; `request_init` makes a new one. -/
def current (self : ClientConnection Protocol) : ReadRequest Protocol :=
  self.request.getD { protocol := side.createProtocol, buffered := self.coBuffer.region }

/-- A read from the client.  A closed connection is not read any more. -/
def read (self : ClientConnection Protocol) (arrival : Bytes × Block) : Option (ClientConnection Protocol) :=
  if self.closed then some self else self.requestRead side around (self.current side) arrival

end

end ClientConnection

/-! ## What a read and the writes do to the buffer -/

namespace CoBuffer

/-- What `recv` returned stands behind the valid bytes. -/
theorem Valid.receive {coBuffer : CoBuffer} {arrival : Bytes × Block} (valid : coBuffer.Valid)
    (total : coBuffer.totalSize < 2 ^ 63) (room : coBuffer.region.length < 2 ^ 61)
    (readable : arrival.1 ≠ [] ∧ arrival.1.length ≤ 4096) :
    ∃ after, coBuffer.receive arrival = some (coOk, after) ∧ after.Valid ∧
      after.region = coBuffer.region ++ arrival.1 ∧ after.totalSize < 2 ^ 63 := by
  have size := valid.region_length
  have need : coBuffer.bufferSize + bufferSize4096 < 2 ^ 62 := by
    unfold bufferSize4096
    omega
  -- 4096 bytes more are far from a wrapped size
  obtain ⟨ret, grown, expanded, grownTotal⟩ := valid.bufferExpand_total (some arrival.2) total need
  obtain ⟨kept, same, ⟨rfl, slack⟩ | rfl⟩ := valid.bufferExpand (by omega) expanded
  · unfold bufferSize4096 at slack
    obtain ⟨written, wrote, code, extended, region, totalSize⟩ :=
      kept.writeSpace (readable.2.trans slack)
    refine ⟨(written.bufferSizeExpand arrival.1.length).2, ?_, extended, by rw [region, same], by omega⟩
    simp only [CoBuffer.receive, expanded]
    rw [if_neg (not_not.2 rfl), if_neg readable.1, wrote, Option.map_some, ← code]
  · -- `realloc` has succeeded, so the call has not failed
    rcases valid.bufferExpand_inv expanded with ⟨failed, -⟩ | ⟨failed, -⟩ | ⟨size, -, result⟩
    · cases failed
    · cases failed
    · cases result

section
variable {accepts : Nat → Nat} {turns call limit : Nat} {sent out : Bytes} {self after : CoBuffer}

/-- No more is sent than the size says when it is cut to 32 bits. -/
theorem tcpWrite_le (positive : 0 < self.tcpWrite limit) :
    (self.tcpWrite limit).toNat ≤ uint32 self.bufferSize := by
  unfold tcpWrite at positive ⊢
  split at positive
  · cases positive
  · rename_i some
    rw [if_neg some]
    have cut : uint32 self.bufferSize < 2 ^ 32 := Nat.mod_lt _ (by decide)
    obtain ⟨turns, wrapped⟩ := int32_turns (min limit (uint32 self.bufferSize) : Nat)
    have bounds := int32_bounds (min limit (uint32 self.bufferSize) : Nat)
    omega

/-- A socket that takes some bytes takes some of a small response. -/
theorem tcpWrite_pos (some : 0 < self.bufferSize) (small : self.bufferSize < 2 ^ 32) (accepted : 0 < limit)
    (bounded : limit < 2 ^ 31) : 0 < self.tcpWrite limit := by
  unfold tcpWrite
  rw [uint32_of_lt small, if_neg (by omega), int32_of_bounds] <;> omega

/-- The loop sends the whole response if the socket takes some bytes each time. -/
theorem Valid.writeLoop (call : Nat) (sent : Bytes) (valid : self.Valid) (small : self.bufferSize < 2 ^ 32) (enough : self.bufferSize < turns)
    (accepted : ∀ call, 0 < accepts call ∧ accepts call < 2 ^ 31) :
    ∃ after, CoBuffer.writeLoop accepts turns call sent self = some (coOk, sent ++ self.region, after) ∧
      after.Valid ∧ after.totalSize = self.totalSize := by
  induction turns generalizing self sent call with
  | zero => exact absurd enough (Nat.not_lt_zero _)
  | succ turns ih =>
    rw [CoBuffer.writeLoop]
    -- each turn sends the front of what is left
    by_cases more : self.bufferSize > 0
    · have positive := tcpWrite_pos more small (accepted call).1 (accepted call).2
      have length := (valid.bufferErase (self.tcpWrite (accepts call)).toNat).region_length
      rw [valid.region_bufferErase, List.length_drop, valid.region_length] at length
      obtain ⟨after, ran, kept, total⟩ := ih (call + 1)
        (sent ++ self.region.take (self.tcpWrite (accepts call)).toNat) (valid.bufferErase (self.tcpWrite (accepts call)).toNat) (by omega) (by omega)
      refine ⟨after, ?_, kept, total.trans (bufferErase_totalSize _ _)⟩
      rw [if_pos more]
      simp only
      rw [if_pos positive, ran, valid.region_bufferErase, List.append_assoc, List.take_append_drop]
    · refine ⟨self, ?_, valid, rfl⟩
      have nothing : self.region = [] := by
        rw [List.eq_nil_iff_length_eq_zero, valid.region_length]
        omega
      rw [if_neg more, nothing, List.append_nil]

/-- A response that is sent whole is shorter than 2³² bytes: the bytes beyond that are
    never within a size that is cut to 32 bits. -/
theorem writeLoop_small (ran : writeLoop accepts turns call sent self = some (coOk, out, after)) :
    self.bufferSize < 2 ^ 32 ∧ out.length ≤ sent.length + self.bufferSize := by
  -- a cut size of zero ends the loop with an error, so the cut never takes anything away
  induction turns generalizing self sent call with
  | zero => cases ran
  | succ turns ih =>
    rw [writeLoop] at ran
    split at ran
    · rename_i more
      simp only at ran
      split at ran
      · rename_i positive
        have taken := tcpWrite_le positive
        obtain ⟨small, length⟩ := ih ran
        have erased : ((self.bufferErase (self.tcpWrite (accepts call)).toNat).2).bufferSize =
            self.bufferSize - (self.tcpWrite (accepts call)).toNat := by
          unfold bufferErase
          split
          · simp only
            omega
          · rfl
        have within : uint32 self.bufferSize ≤ self.bufferSize % 2 ^ 32 := Nat.le_refl _
        rw [List.length_append, List.length_take] at length
        rw [erased] at small length
        omega
      · cases ran
    · cases ran
      omega

end

end CoBuffer

/-! ## Runs -/

/-- What the callbacks rely on a protocol for: `decode` keeps the buffer in order, and
    `encode` appends `answer`.  `waits` is what holds between two reads of a request. -/
structure ServerProtocol.Lawful {Protocol : Type} (side : ServerProtocol Protocol) (answer : Protocol → Bytes)
    (waits : Protocol → Bytes → Bytes → Prop) : Prop where
  decode {protocol after : Protocol} {coBuffer left : CoBuffer} {ret : Int} : coBuffer.Valid →
    side.decode protocol coBuffer = some (ret, after, left) → left.Valid ∧ left.totalSize = coBuffer.totalSize
  encode {coBuffer : CoBuffer} (protocol : Protocol) (memory : Nat → Block) : coBuffer.Valid →
    coBuffer.totalSize < 2 ^ 63 → coBuffer.region.length + (answer protocol).length < 2 ^ 62 →
      ∃ ret out, side.encode protocol coBuffer memory = some (ret, out) ∧ out.Valid ∧
        out.region = coBuffer.region ++ answer protocol ∧ out.totalSize < 2 ^ 63
  start : waits side.createProtocol [] []
  again {protocol after : Protocol} {coBuffer left : CoBuffer} {pending received arrival : Bytes} :
    waits protocol pending received → arrival.length ≤ 4096 → coBuffer.Valid → coBuffer.region = pending ++ arrival →
      side.decode protocol coBuffer = some (coAgain, after, left) → waits after left.region (received ++ arrival)

/-- The user's function returns CO_OK, and the socket takes bytes. -/
structure Surroundings.Succeeds {Protocol : Type} (around : Surroundings Protocol) : Prop where
  userProcess (count : Nat) (protocol : Protocol) : (around.userProcess count protocol).1 = coOk
  accepts (count call : Nat) : 0 < around.accepts count call ∧ around.accepts count call < 2 ^ 31

/-- The reads of one message: `decode` asks for more after each of them, and returns
    CO_OK after the last. -/
inductive Completes {Protocol : Type} (decode : Protocol → CoBuffer → Option (Int × Protocol × CoBuffer)) :
    Protocol → CoBuffer → List (Bytes × Block) → Protocol → CoBuffer → Prop
  | last {protocol final : Protocol} {coBuffer received left : CoBuffer} {arrival : Bytes × Block} :
      coBuffer.receive arrival = some (coOk, received) → decode protocol received = some (coOk, final, left) →
        Completes decode protocol coBuffer [arrival] final left
  | more {protocol after final : Protocol} {coBuffer received behind left : CoBuffer} {arrival : Bytes × Block}
      {rest : List (Bytes × Block)} :
      coBuffer.receive arrival = some (coOk, received) → decode protocol received = some (coAgain, after, behind) →
        Completes decode after behind rest final left → Completes decode protocol coBuffer (arrival :: rest) final left

namespace ClientConnection

variable {Protocol : Type} {side : ServerProtocol Protocol} {around : Surroundings Protocol}
  {answer : Protocol → Bytes} {waits : Protocol → Bytes → Bytes → Prop}

/-- Between two requests. -/
structure Idle (connection : ClientConnection Protocol) : Prop where
  opened : connection.closed = false
  request : connection.request = none
  valid : connection.coBuffer.Valid
  total : connection.coBuffer.totalSize < 2 ^ 63
  region : connection.coBuffer.region = []

section
variable {self next final : ClientConnection Protocol} {request : ReadRequest Protocol} {left : Bytes}
  {processed : Protocol} {retCode : Int} {arrival : Bytes × Block} {arrivals rest : List (Bytes × Block)}

/-- The buffer that `request_write` encodes into. -/
theorem emptied (valid : self.coBuffer.Valid) (total : self.coBuffer.totalSize < 2 ^ 63) :
    (if self.coBuffer.bufferSize > 0 then self.coBuffer.reset else self.coBuffer).Valid ∧
      (if self.coBuffer.bufferSize > 0 then self.coBuffer.reset else self.coBuffer).totalSize < 2 ^ 63 ∧
      (if self.coBuffer.bufferSize > 0 then self.coBuffer.reset else self.coBuffer).region = [] := by
  split
  · exact ⟨valid.reset, total, CoBuffer.region_reset _⟩
  · refine ⟨valid, total, ?_⟩
    rw [List.eq_nil_iff_length_eq_zero, valid.region_length]
    omega

/-- A kept connection waits for the next request with an empty buffer. -/
theorem requestFinalize_ok (request : AnsweredRequest Protocol) (opened : self.closed = false)
    (valid : self.coBuffer.Valid) (total : self.coBuffer.totalSize < 2 ^ 63) :
    (self.requestFinalize request coOk).Idle :=
  ⟨opened, rfl, valid.reset, total, CoBuffer.region_reset _⟩

theorem requestFinalize_answered (request : AnsweredRequest Protocol) :
    (self.requestFinalize request retCode).answered = self.answered ++ [request] := by
  unfold requestFinalize freeRequestConnection
  split <;> rfl

theorem requestFinalize_request (request : AnsweredRequest Protocol) :
    (self.requestFinalize request retCode).request = none := by
  unfold requestFinalize freeRequestConnection
  split <;> rfl

theorem requestFinalize_closed (request : AnsweredRequest Protocol) (failed : retCode ≠ coOk) :
    (self.requestFinalize request retCode).closed = true := by
  unfold requestFinalize freeRequestConnection
  rw [if_pos failed]

/-- A request that is answered with CO_OK is recorded, and the connection is kept. -/
theorem requestWrite_answers (request : ReadRequest Protocol) (left : Bytes) (law : side.Lawful answer waits) (succeeds : around.Succeeds)
    (opened : self.closed = false) (valid : self.coBuffer.Valid) (total : self.coBuffer.totalSize < 2 ^ 63)
    (small : (answer processed).length < 2 ^ 32) :
    ∃ next, self.requestWrite side around request left processed coOk = some next ∧ next.Idle ∧
      next.answered = self.answered ++ [{ request with left, processed, sent := answer processed }] := by
  obtain ⟨clean, cleanTotal, empty⟩ := emptied valid total
  obtain ⟨ret, out, encoded, outValid, region, outTotal⟩ := law.encode processed
    (around.memory self.answered.length) clean cleanTotal (by rw [empty, List.length_nil]; omega)
  rw [empty, List.nil_append] at region
  have size := outValid.region_length
  rw [region] at size
  obtain ⟨after, wrote, kept, afterTotal⟩ := outValid.writeLoop 0 [] (by omega)
    (Nat.lt_succ_self _) (succeeds.accepts self.answered.length)
  rw [region, List.nil_append] at wrote
  refine ⟨(self.setBuffer after).requestFinalize { request with left, processed, sent := answer processed } coOk, ?_,
    requestFinalize_ok _ opened kept (afterTotal ▸ outTotal), requestFinalize_answered _⟩
  simp only [requestWrite, encoded, wrote, Option.map_some]
  rfl

/-- What `request_write` does, whatever it returns with. -/
theorem requestWrite_inv (ran : self.requestWrite side around request left processed retCode = some next) :
    ∃ sent, next.answered = self.answered ++ [{ request with left, processed, sent }] ∧ next.request = none ∧
      (next.closed = false → retCode = coOk ∧ sent.length < 2 ^ 32 ∧ next.coBuffer.region = []) := by
  simp only [requestWrite] at ran
  split at ran
  · cases ran
  · rename_i _ coBuffer _
    obtain ⟨⟨ret, sent, after⟩, wrote, rfl⟩ := Option.map_eq_some_iff.1 ran
    refine ⟨sent, requestFinalize_answered _, requestFinalize_request _, fun opened => ?_⟩
    -- the socket took everything, or the connection is closed
    by_cases whole : ret = coOk
    · subst whole
      rw [if_pos rfl] at opened ⊢
      obtain ⟨small, length⟩ := CoBuffer.writeLoop_small wrote
      have ok : retCode = coOk := by
        by_contra failed
        rw [requestFinalize_closed _ failed] at opened
        cases opened
      subst ok
      exact ⟨rfl, by rw [List.length_nil] at length; omega, CoBuffer.region_reset _⟩
    · rw [if_neg whole, requestFinalize_closed _ (by decide)] at opened
      cases opened

/-! ### One read -/

/-- A read with which `decode` asks for more. -/
theorem read_again {protocol : Protocol} {received behind : CoBuffer} (opened : self.closed = false)
    (arrived : self.coBuffer.receive arrival = some (coOk, received))
    (decoded : side.decode (self.current side).protocol received = some (coAgain, protocol, behind)) :
    self.read side around arrival = some { self.setBuffer behind with
      request := some { self.current side with
        protocol, received := (self.current side).received ++ arrival.1 } } := by
  simp only [read, opened, requestRead, arrived, decoded]
  rfl

/-- A read that completes the request. -/
theorem read_ok {protocol : Protocol} {received behind : CoBuffer} (opened : self.closed = false)
    (arrived : self.coBuffer.receive arrival = some (coOk, received))
    (decoded : side.decode (self.current side).protocol received = some (coOk, protocol, behind)) :
    self.read side around arrival = (self.setBuffer behind).requestProcess side around
      { self.current side with protocol, received := (self.current side).received ++ arrival.1 } behind.region := by
  simp only [read, opened, requestRead, arrived, decoded]
  rfl

/-- What a read of an open connection does: it asks for more, completes the request, or fails. -/
inductive ReadStep (side : ServerProtocol Protocol) (around : Surroundings Protocol) (self : ClientConnection Protocol)
    (arrival : Bytes × Block) : ClientConnection Protocol → Prop
  | again {received behind : CoBuffer} {protocol : Protocol} {next : ClientConnection Protocol}
      (arrived : self.coBuffer.receive arrival = some (coOk, received))
      (decoded : side.decode (self.current side).protocol received = some (coAgain, protocol, behind))
      (same : next = { self.setBuffer behind with request := some { self.current side with
        protocol, received := (self.current side).received ++ arrival.1 } }) : ReadStep side around self arrival next
  | completed {received behind : CoBuffer} {protocol : Protocol} {next : ClientConnection Protocol}
      (arrived : self.coBuffer.receive arrival = some (coOk, received))
      (decoded : side.decode (self.current side).protocol received = some (coOk, protocol, behind))
      (ran : (self.setBuffer behind).requestProcess side around
        { self.current side with protocol, received := (self.current side).received ++ arrival.1 } behind.region = some next) :
      ReadStep side around self arrival next
  | failed (base : ClientConnection Protocol) (request : ReadRequest Protocol) {next : ClientConnection Protocol}
      {left : Bytes} {processed : Protocol} (answered : base.answered = self.answered) (buffered : request.buffered = (self.current side).buffered)
      (ran : base.requestWrite side around request left processed coError = some next) :
      ReadStep side around self arrival next

theorem read_step (opened : self.closed = false) (ran : self.read side around arrival = some next) :
    ReadStep side around self arrival next := by
  simp only [read, opened, requestRead] at ran
  rw [if_neg Bool.false_ne_true] at ran
  split at ran
  · cases ran
  · rename_i ret received arrived
    split at ran
    · exact .failed (self.setBuffer received) (self.current side) rfl rfl ran
    · rename_i ok
      rw [not_not.1 ok] at arrived
      split at ran
      · cases ran
      · rename_i code protocol behind decoded
        split at ran
        · rename_i again
          rw [again] at decoded
          exact .again arrived decoded (Option.some.inj ran).symm
        · split at ran
          · rename_i done
            rw [done] at decoded
            exact .completed arrived decoded ran
          · exact .failed (self.setBuffer behind) { self.current side with
              protocol, received := (self.current side).received ++ arrival.1 } rfl rfl ran

theorem ReadStep.answered (step : ReadStep side around self arrival next) :
    ∃ more, next.answered = self.answered ++ more := by
  cases step with
  | again _ _ same => exact ⟨[], same ▸ (List.append_nil _).symm⟩
  | completed _ _ ran =>
    obtain ⟨sent, answered, -, -⟩ := requestWrite_inv ran
    exact ⟨_, answered⟩
  | failed _ _ same _ ran =>
    obtain ⟨sent, answered, -, -⟩ := requestWrite_inv ran
    exact ⟨_, same ▸ answered⟩

/-! ### Runs -/

theorem run_closed (closed : self.closed = true)
    (ran : arrivals.foldlM (read side around) self = some final) : final = self := by
  induction arrivals with
  | nil =>
    cases ran
    rfl
  | cons arrival rest ih =>
    obtain ⟨next, stepped, ran⟩ := Lib.run_cons.1 ran
    rw [read, if_pos closed] at stepped
    cases stepped
    exact ih ran

/-- What was answered stays recorded. -/
theorem run_answered (ran : arrivals.foldlM (read side around) self = some final) :
    ∃ more, final.answered = self.answered ++ more := by
  induction arrivals generalizing self with
  | nil =>
    cases ran
    exact ⟨[], (List.append_nil _).symm⟩
  | cons arrival rest ih =>
    obtain ⟨next, stepped, ran⟩ := Lib.run_cons.1 ran
    obtain ⟨later, final⟩ := ih ran
    -- a closed connection is not read, and records nothing
    by_cases opened : self.closed = false
    · obtain ⟨now, answered⟩ := (read_step opened stepped).answered
      exact ⟨now ++ later, by rw [final, answered, List.append_assoc]⟩
    · rw [read, if_pos (Bool.not_eq_false _ ▸ opened)] at stepped
      cases stepped
      exact ⟨later, final⟩

/-- The first request that a run answers: `front` is read for it, `base` is the
    connection when `decode` has returned CO_OK, and `mid` waits for the next request. -/
structure FirstAnswer (side : ServerProtocol Protocol) (around : Surroundings Protocol)
    (start final : ClientConnection Protocol) (arrivals front back : List (Bytes × Block))
    (request : ReadRequest Protocol) (base mid : ClientConnection Protocol) : Prop where
  split : arrivals = front ++ back
  completes : Completes side.decode (start.current side).protocol start.coBuffer front request.protocol base.coBuffer
  received : request.received = (start.current side).received ++ (front.map Prod.fst).flatten
  buffered : request.buffered = (start.current side).buffered
  opened : base.closed = false
  answered : base.answered = start.answered
  process : base.requestProcess side around request base.coBuffer.region = some mid
  rest : back.foldlM (read side around) mid = some final

/-- A run that ends between two requests has answered the request it began with. -/
theorem exists_firstAnswer (opened : self.closed = false) (ran : arrivals.foldlM (read side around) self = some final)
    (finalOpened : final.closed = false) (done : final.request = none) (begun : arrivals ≠ [] ∨ self.request ≠ none) :
    ∃ front back request base mid, FirstAnswer side around self final arrivals front back request base mid := by
  induction arrivals generalizing self with
  -- nothing was read, so no request was begun either
  | nil =>
    cases ran
    exact absurd done (begun.resolve_left (not_not.2 rfl))
  | cons arrival rest ih =>
    obtain ⟨next, stepped, ran⟩ := Lib.run_cons.1 ran
    cases read_step opened stepped with
    | again arrived decoded same =>
      have nextOpened : next.closed = false := by rw [same]; exact opened
      obtain ⟨front, back, request, base, mid, first⟩ := ih nextOpened ran (.inr (by rw [same]; exact nofun))
      rw [same] at first
      -- the read belongs to the request that the rest of the run completes
      refine ⟨arrival :: front, back, request, base, mid, by rw [first.split, List.cons_append],
        .more arrived decoded first.completes, ?_, first.buffered, first.opened, first.answered, first.process,
        first.rest⟩
      rw [first.received, List.map_cons, List.flatten_cons, ← List.append_assoc]
      rfl
    | @completed received behind protocol _ arrived decoded processed =>
      refine ⟨[arrival], rest, { self.current side with
        protocol, received := (self.current side).received ++ arrival.1 }, self.setBuffer behind, next, rfl, .last arrived decoded, ?_, rfl, opened, rfl,
        processed, ran⟩
      rw [List.map_singleton, List.flatten_singleton]
    | failed _ _ _ _ failed =>
      -- a failed request closes the connection for good
      obtain ⟨sent, -, -, code⟩ := requestWrite_inv failed
      have closed : next.closed = true := by
        by_contra kept
        exact absurd (code (Bool.eq_false_iff.2 kept)).1 (by decide)
      rw [run_closed closed ran, closed] at finalOpened
      cases finalOpened

/-- The reads that complete a request lead to its answer. -/
theorem run_completes (around : Surroundings Protocol) {protocol last : Protocol} {coBuffer left : CoBuffer}
    (completes : Completes side.decode protocol coBuffer arrivals last left) (opened : self.closed = false)
    (current : (self.current side).protocol = protocol) (buffer : self.coBuffer = coBuffer) :
    ∃ (base : ClientConnection Protocol) (request : ReadRequest Protocol),
      base.closed = false ∧ base.coBuffer = left ∧ base.answered = self.answered ∧
      request.protocol = last ∧ request.buffered = (self.current side).buffered ∧
      request.received = (self.current side).received ++ (arrivals.map Prod.fst).flatten ∧
      ∀ rest, (arrivals ++ rest).foldlM (read side around) self =
        (base.requestProcess side around request left.region).bind fun mid => rest.foldlM (read side around) mid := by
  -- on the reads of the request, from the connection before the first of them
  induction completes generalizing self with
  | @last protocol last coBuffer received left arrival arrived decoded =>
    subst current buffer
    refine ⟨self.setBuffer left, { self.current side with
      protocol := last, received := (self.current side).received ++ arrival.1 }, opened, rfl, rfl, rfl, rfl, ?_, fun rest => ?_⟩
    rotate_left
    · rw [List.singleton_append, List.foldlM_cons, read_ok opened arrived decoded]
      rfl
    · rw [List.map_singleton, List.flatten_singleton]
  | @more protocol after last coBuffer received behind left arrival rest arrived decoded _ ih =>
    subst current buffer
    have next : self.read side around arrival = _ := read_again opened arrived decoded
    obtain ⟨base, request, baseOpened, baseBuffer, answered, message, buffered, whole, ran⟩ := @ih
      { self.setBuffer behind with request := some { self.current side with
          protocol := after, received := (self.current side).received ++ arrival.1 } } opened rfl rfl
    refine ⟨base, request, baseOpened, baseBuffer, answered, message, buffered, ?_, fun later => ?_⟩
    · rw [whole, List.map_cons, List.flatten_cons, ← List.append_assoc]
      rfl
    · rw [List.cons_append, List.foldlM_cons, next]
      exact ran later

end

end ClientConnection

end CoServer
