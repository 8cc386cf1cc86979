import CoServer.Upstream.Exchange

/-! # What the turns of a TCP connection do

One lemma for each turn of either end: which bytes it moves between the buffer and
the streams, and where it leaves the coroutine. -/

namespace CoServer

/-! ## The buffer -/

namespace CoBuffer

/-- In order, and far from a size that wraps. -/
structure Usable (coBuffer : CoBuffer) : Prop where
  valid : coBuffer.Valid
  total : coBuffer.totalSize < 2 ^ 63

variable {self : CoBuffer}

theorem usable_fresh : ({} : CoBuffer).Usable := ⟨valid_fresh, by decide⟩

theorem Usable.reset (usable : self.Usable) : self.reset.Usable := ⟨usable.valid.reset, usable.total⟩

theorem Usable.bufferErase (usable : self.Usable) (dataLen : Nat) : (self.bufferErase dataLen).2.Usable :=
  ⟨usable.valid.bufferErase dataLen, by simpa using usable.total⟩

theorem Usable.size_eq_zero (usable : self.Usable) : ¬self.bufferSize > 0 ↔ self.region = [] := by
  rw [← usable.valid.region_length, gt_iff_lt, List.length_pos_iff, not_not]

theorem Usable.cleared (usable : self.Usable) : self.cleared.Usable ∧ self.cleared.region = [] := by
  unfold CoBuffer.cleared
  split
  · exact ⟨usable.reset, region_reset self⟩
  · rename_i empty
    exact ⟨usable, usable.size_eq_zero.1 empty⟩

/-- Sent and unsent bytes together are what there was to send. -/
theorem Usable.writeTurn (usable : self.Usable) (accepts : Nat) :
    (self.writeTurn accepts).2.2.Usable ∧
      (self.writeTurn accepts).2.1 ++ (self.writeTurn accepts).2.2.region = self.region := by
  unfold CoBuffer.writeTurn
  dsimp only
  split
  · refine ⟨usable.bufferErase _, ?_⟩
    rw [usable.valid.region_bufferErase, List.take_append_drop]
  · exact ⟨usable, rfl⟩

theorem writeTurn_sent {accepts : Nat} (more : self.region ≠ []) (positive : (self.writeTurn accepts).1 > 0) :
    (self.writeTurn accepts).2.1 ≠ [] := by
  have length := List.length_pos_iff.2 more
  unfold CoBuffer.writeTurn at positive ⊢
  dsimp only at positive ⊢
  split
  · rename_i takes
    refine List.length_pos_iff.1 ?_
    rw [List.length_take]
    omega
  · rename_i failed
    rw [if_neg failed] at positive
    exact absurd positive failed

/-- A socket that takes some bytes is given some. -/
theorem Usable.writeTurn_pos (usable : self.Usable) {accepts : Nat} (more : self.region ≠ [])
    (small : self.region.length < 2 ^ 32) (accepted : 0 < accepts ∧ accepts < 2 ^ 31) :
    (self.writeTurn accepts).1 > 0 := by
  have size := usable.valid.region_length
  have length := List.length_pos_iff.2 more
  have positive := tcpWrite_pos (by omega) (size ▸ small) accepted.1 accepted.2
  unfold CoBuffer.writeTurn
  dsimp only
  rwa [if_pos positive]

/-- `recv` has failed, or the peer has closed. -/
theorem Usable.receive_nothing (usable : self.Usable) (room : self.region.length < 2 ^ 61) (memory : Block) :
    ∃ ret after, self.receive ([], memory) = some (ret, after) ∧ ret ≠ coOk ∧ after.Usable := by
  have size := usable.valid.region_length
  have need : self.bufferSize + bufferSize4096 < 2 ^ 62 := by
    unfold bufferSize4096
    omega
  obtain ⟨code, grown, expanded, total⟩ := usable.valid.bufferExpand_total (some memory) usable.total need
  obtain ⟨kept, -, -⟩ := usable.valid.bufferExpand (by omega) expanded
  by_cases failed : code = coOk
  · exact ⟨coConnectionClose, grown, by simp [receive, expanded, failed], by decide, kept, total⟩
  · exact ⟨code, grown, by simp [receive, expanded, failed], failed, kept, total⟩

theorem Usable.receive (usable : self.Usable) {arrival : Bytes × Block} (room : self.region.length < 2 ^ 61)
    (readable : arrival.1 ≠ [] ∧ arrival.1.length ≤ 4096) :
    ∃ after, self.receive arrival = some (coOk, after) ∧ after.Usable ∧ after.region = self.region ++ arrival.1 := by
  obtain ⟨after, received, kept, region, total⟩ := usable.valid.receive usable.total room readable
  exact ⟨after, received, ⟨kept, total⟩, region⟩

end CoBuffer

/-! ## Frames -/

/-- What `CoProtocolTcp` is for the end of an upstream. -/
def tcpClient : ServerProtocol CoProtocolTcp where
  createProtocol := { type := protocolTcpClient }
  decode := CoProtocolTcp.decode
  encode := tcpServer.encode

/-- The front of a frame is incomplete until all of the frame and a byte beyond the header
    are there; what follows the frame is left. -/
theorem unframe_front {body stray bytes rest : Bytes} (small : (frame body).length < 2 ^ 31)
    (front : bytes ++ rest = frame body ++ stray) :
    (bytes.length ≤ coMsgTcpHeadLen ∨ bytes.length < (frame body).length) ∧ unframe bytes = .incomplete ∨
      ∃ behind, bytes = frame body ++ behind ∧ unframe bytes = .body body := by
  have length := frame_length body
  by_cases part : bytes.length ≤ coMsgTcpHeadLen ∨ bytes.length < (frame body).length
  · exact .inl ⟨part, unframe_part (by omega) front (by rwa [length] at part)⟩
  · push Not at part
    obtain ⟨behind, rfl⟩ : frame body <+: bytes :=
      List.prefix_of_prefix_length_le (List.prefix_append _ _) (front ▸ List.prefix_append _ _) part.2
    refine .inr ⟨behind, rfl, unframe_frame behind (by omega) fun nothing => ?_⟩
    have short := congrArg List.length nothing
    rw [List.length_append, List.length_nil] at short
    rw [List.length_append] at part
    omega

section
variable {protocol : CoProtocolTcp} {coBuffer : CoBuffer} {body stray rest : Bytes}

theorem CoProtocolTcp.decode_incomplete (usable : coBuffer.Usable) (small : coBuffer.region.length < 2 ^ 31)
    (incomplete : unframe coBuffer.region = .incomplete) :
    protocol.decode coBuffer = some (coAgain, protocol, coBuffer) := by
  have decoded := protocol.decode_eq usable.valid small
  rwa [incomplete] at decoded

theorem CoProtocolTcp.decode_body (usable : coBuffer.Usable) (small : coBuffer.region.length < 2 ^ 31)
    (found : unframe coBuffer.region = .body body) :
    protocol.decode coBuffer = some (coOk, protocol.setDecodedBody body,
      (coBuffer.bufferErase (body.length + coMsgTcpHeadLen)).2) := by
  have decoded := protocol.decode_eq usable.valid small
  rwa [found] at decoded

end

/-! ## The end of the upstream -/

namespace UpstreamEnd

section
variable {Protocol : Type} {self next : UpstreamEnd Protocol} {protocol : Protocol}

theorem writeTurn_empty (usable : self.coBuffer.Usable) (empty : self.coBuffer.region = []) (accepts : Nat) :
    self.writeTurn protocol accepts = ([], { self with turn := .read protocol }) := by
  rw [writeTurn, if_neg (usable.size_eq_zero.2 empty)]

/-- The request goes on, or the connection is closed. -/
theorem writeTurn_more (usable : self.coBuffer.Usable) (more : self.coBuffer.region ≠ []) (accepts : Nat) :
    (∃ (sent : Bytes) (coBuffer : CoBuffer), coBuffer.Usable ∧ sent ++ coBuffer.region = self.coBuffer.region ∧
      sent ≠ [] ∧ self.writeTurn protocol accepts = (sent, { self with coBuffer })) ∨
    (self.coBuffer.writeTurn accepts).1 ≤ 0 ∧ self.writeTurn protocol accepts = ([], self.close) := by
  have some : self.coBuffer.bufferSize > 0 := by
    by_contra empty
    exact more (usable.size_eq_zero.1 empty)
  obtain ⟨kept, whole⟩ := usable.writeTurn accepts
  rw [writeTurn, if_pos some]
  dsimp only
  split
  · rename_i positive
    exact .inl ⟨_, _, kept, whole, CoBuffer.writeTurn_sent more positive, rfl⟩
  · rename_i failed
    exact .inr ⟨by omega, rfl⟩

end

variable {self : UpstreamEnd CoProtocolTcp} {protocol : CoProtocolTcp} {arrival : Bytes × Block}

theorem upstreamWrite_tcp (usable : self.coBuffer.Usable) (small : (tcpAnswer protocol).length < 2 ^ 62)
    (memory : Nat → Block) :
    ∃ coBuffer : CoBuffer, coBuffer.Usable ∧ coBuffer.region = tcpAnswer protocol ∧
      self.upstreamWrite tcpClient protocol memory = some { self with coBuffer, turn := .write protocol } := by
  obtain ⟨clean, empty⟩ := usable.cleared
  obtain ⟨ret, out, encoded, valid, region, total⟩ := tcpServer_lawful.encode protocol memory clean.valid clean.total
    (by rw [empty]; simpa using small)
  rw [empty, List.nil_append] at region
  have ran : tcpClient.encode protocol self.coBuffer.cleared memory = some (ret, out) := encoded
  exact ⟨out, ⟨valid, total⟩, region, by rw [upstreamWrite, ran, Option.map_some]⟩

/-- `recv` has failed. -/
theorem readTurn_nothing (usable : self.coBuffer.Usable) (room : self.coBuffer.region.length < 2 ^ 61)
    (memory : Block) :
    ∃ coBuffer : CoBuffer, coBuffer.Usable ∧
      self.readTurn tcpClient protocol ([], memory) = some { self with coBuffer, turn := .closed } := by
  obtain ⟨ret, after, received, failed, kept⟩ := usable.receive_nothing room memory
  refine ⟨after, kept, ?_⟩
  simp [readTurn, received, failed, close]

/-- More is asked for. -/
theorem readTurn_again (usable : self.coBuffer.Usable)
    (readable : arrival.1 ≠ [] ∧ arrival.1.length ≤ 4096)
    (small : (self.coBuffer.region ++ arrival.1).length < 2 ^ 31)
    (incomplete : unframe (self.coBuffer.region ++ arrival.1) = .incomplete) :
    ∃ coBuffer : CoBuffer, coBuffer.Usable ∧ coBuffer.region = self.coBuffer.region ++ arrival.1 ∧
      self.readTurn tcpClient protocol arrival = some { self with coBuffer, turn := .read protocol } := by
  have room : self.coBuffer.region.length < 2 ^ 61 := by
    rw [List.length_append] at small
    omega
  obtain ⟨after, received, kept, region⟩ := usable.receive room readable
  have decoded : tcpClient.decode protocol after = some (coAgain, protocol, after) :=
    CoProtocolTcp.decode_incomplete kept (region ▸ small) (region ▸ incomplete)
  refine ⟨after, kept, region, ?_⟩
  simp [readTurn, received, decoded]

/-- The response is there. -/
theorem readTurn_body {body : Bytes} (usable : self.coBuffer.Usable)
    (readable : arrival.1 ≠ [] ∧ arrival.1.length ≤ 4096)
    (small : (self.coBuffer.region ++ arrival.1).length < 2 ^ 31)
    (found : unframe (self.coBuffer.region ++ arrival.1) = .body body) :
    ∃ coBuffer : CoBuffer, coBuffer.Usable ∧ self.readTurn tcpClient protocol arrival = some
      ⟨coBuffer, .idle, self.answered ++ [protocol.setDecodedBody body]⟩ := by
  have room : self.coBuffer.region.length < 2 ^ 61 := by
    rw [List.length_append] at small
    omega
  obtain ⟨after, received, kept, region⟩ := usable.receive room readable
  have decoded : tcpClient.decode protocol after = some (coOk, protocol.setDecodedBody body,
      (after.bufferErase (body.length + coMsgTcpHeadLen)).2) :=
    CoProtocolTcp.decode_body kept (region ▸ small) (region ▸ found)
  refine ⟨_, (kept.bufferErase (body.length + coMsgTcpHeadLen)).reset, ?_⟩
  have asked : coOk ≠ coAgain := by decide
  simp [readTurn, received, decoded, asked, upstreamProcess]

end UpstreamEnd

/-! ## The end of the server -/

namespace RequestEnd

section
variable {Protocol : Type} {self : RequestEnd Protocol} {retCode : Int}

theorem writeTurn_empty (usable : self.coBuffer.Usable) (empty : self.coBuffer.region = []) (accepts : Nat) :
    self.writeTurn retCode accepts = ([], self.requestFinalize retCode) := by
  rw [writeTurn, if_neg (usable.size_eq_zero.2 empty)]

/-- The response goes on, or the connection is closed. -/
theorem writeTurn_more (usable : self.coBuffer.Usable) (more : self.coBuffer.region ≠ []) (accepts : Nat) :
    (∃ (sent : Bytes) (coBuffer : CoBuffer), coBuffer.Usable ∧ sent ++ coBuffer.region = self.coBuffer.region ∧
      sent ≠ [] ∧ self.writeTurn retCode accepts = (sent, { self with coBuffer })) ∨
    (self.coBuffer.writeTurn accepts).1 ≤ 0 ∧ self.writeTurn retCode accepts = ([], { self with turn := .closed }) := by
  have some : self.coBuffer.bufferSize > 0 := by
    by_contra empty
    exact more (usable.size_eq_zero.1 empty)
  obtain ⟨kept, whole⟩ := usable.writeTurn accepts
  rw [writeTurn, if_pos some]
  dsimp only
  split
  · rename_i positive
    exact .inl ⟨_, _, kept, whole, CoBuffer.writeTurn_sent more positive, rfl⟩
  · rename_i failed
    exact .inr ⟨by omega, by rw [requestFinalize, if_pos (by decide)]⟩

theorem requestFinalize_ok : self.requestFinalize coOk = { self with coBuffer := self.coBuffer.reset, turn := .init } :=
  if_neg (not_not.2 rfl)

theorem requestFinalize_failed (failed : retCode ≠ coOk) : self.requestFinalize retCode = { self with turn := .closed } :=
  if_pos failed

end

variable {self : RequestEnd CoProtocolTcp} {protocol : CoProtocolTcp} {arrival : Bytes × Block}
  {userProcess : Nat → CoProtocolTcp → Int × CoProtocolTcp}

theorem requestWrite_tcp (usable : self.coBuffer.Usable) (small : (tcpAnswer protocol).length < 2 ^ 62) (retCode : Int)
    (memory : Nat → Block) :
    ∃ coBuffer : CoBuffer, coBuffer.Usable ∧ coBuffer.region = tcpAnswer protocol ∧
      self.requestWrite tcpServer protocol retCode memory = some { self with coBuffer, turn := .write retCode } := by
  obtain ⟨clean, empty⟩ := usable.cleared
  obtain ⟨ret, out, encoded, valid, region, total⟩ := tcpServer_lawful.encode protocol memory clean.valid clean.total
    (by rw [empty]; simpa using small)
  rw [empty, List.nil_append] at region
  exact ⟨out, ⟨valid, total⟩, region, by rw [requestWrite, encoded, Option.map_some]⟩

/-- `recv` has failed: the server answers all the same, and will close. -/
theorem readTurn_nothing (usable : self.coBuffer.Usable) (room : self.coBuffer.region.length < 2 ^ 61)
    (small : (tcpAnswer protocol).length < 2 ^ 62) (memory : Block) (response : Nat → Block) :
    ∃ coBuffer : CoBuffer, coBuffer.Usable ∧ coBuffer.region = tcpAnswer protocol ∧
      self.readTurn tcpServer userProcess protocol ([], memory) response =
        some { self with coBuffer, turn := .write coError } := by
  obtain ⟨ret, after, received, failed, kept⟩ := usable.receive_nothing room memory
  obtain ⟨coBuffer, encoded, region, wrote⟩ :=
    ({ self with coBuffer := after } : RequestEnd CoProtocolTcp).requestWrite_tcp kept small coError response
  refine ⟨coBuffer, encoded, region, ?_⟩
  simp [readTurn, received, failed, wrote]

theorem readTurn_again (usable : self.coBuffer.Usable)
    (readable : arrival.1 ≠ [] ∧ arrival.1.length ≤ 4096)
    (small : (self.coBuffer.region ++ arrival.1).length < 2 ^ 31)
    (incomplete : unframe (self.coBuffer.region ++ arrival.1) = .incomplete) (response : Nat → Block) :
    ∃ coBuffer : CoBuffer, coBuffer.Usable ∧ coBuffer.region = self.coBuffer.region ++ arrival.1 ∧
      self.readTurn tcpServer userProcess protocol arrival response =
        some { self with coBuffer, turn := .read protocol } := by
  have room : self.coBuffer.region.length < 2 ^ 61 := by
    rw [List.length_append] at small
    omega
  obtain ⟨after, received, kept, region⟩ := usable.receive room readable
  have decoded : tcpServer.decode protocol after = some (coAgain, protocol, after) :=
    CoProtocolTcp.decode_incomplete kept (region ▸ small) (region ▸ incomplete)
  refine ⟨after, kept, region, ?_⟩
  simp [readTurn, received, decoded]

/-- The request is there, and the user's function answers it. -/
theorem readTurn_body {body : Bytes} {ret : Int} {processed : CoProtocolTcp} (usable : self.coBuffer.Usable)
    (readable : arrival.1 ≠ [] ∧ arrival.1.length ≤ 4096)
    (small : (self.coBuffer.region ++ arrival.1).length < 2 ^ 31)
    (found : unframe (self.coBuffer.region ++ arrival.1) = .body body)
    (process : userProcess self.processed.length (protocol.setDecodedBody body) = (ret, processed))
    (fits : (tcpAnswer processed).length < 2 ^ 62) (response : Nat → Block) :
    ∃ coBuffer : CoBuffer, coBuffer.Usable ∧ coBuffer.region = tcpAnswer processed ∧
      self.readTurn tcpServer userProcess protocol arrival response = some
        ⟨coBuffer, .write ret, self.processed ++ [(protocol.setDecodedBody body, processed)]⟩ := by
  have room : self.coBuffer.region.length < 2 ^ 61 := by
    rw [List.length_append] at small
    omega
  obtain ⟨after, received, kept, region⟩ := usable.receive room readable
  have decoded : tcpServer.decode protocol after = some (coOk, protocol.setDecodedBody body,
      (after.bufferErase (body.length + coMsgTcpHeadLen)).2) :=
    CoProtocolTcp.decode_body kept (region ▸ small) (region ▸ found)
  obtain ⟨coBuffer, encoded, answer, wrote⟩ := (⟨(after.bufferErase (body.length + coMsgTcpHeadLen)).2, self.turn,
    self.processed ++ [(protocol.setDecodedBody body, processed)]⟩ : RequestEnd CoProtocolTcp).requestWrite_tcp
      (kept.bufferErase (body.length + coMsgTcpHeadLen)) fits ret response
  refine ⟨coBuffer, encoded, answer, ?_⟩
  have asked : coOk ≠ coAgain := by decide
  simp [readTurn, received, decoded, asked, requestProcess, process, wrote]

end RequestEnd

end CoServer
