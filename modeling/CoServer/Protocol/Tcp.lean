import CoServer.Base.BufferQueue
import CoServer.Lib.Reader

/-! # `CoProtocolTcp`: length-prefixed frames

A frame is a flag, the length of the body and the body.  The flag lies in the
buffer as the host stores it, the host being little-endian; the length is in
network byte order.

`unframe` says what the first bytes of a buffer are as a frame.  `Valid.decode`
connects it to `decode` for buffers whose size an `int32_t` can hold; it is the
only lemma about `decode` that later proofs use. -/

namespace CoServer

/-! ## Byte order -/

def bigEndian (n : Nat) : Bytes :=
  [UInt8.ofNat (n / 2 ^ 24), UInt8.ofNat (n / 2 ^ 16), UInt8.ofNat (n / 2 ^ 8), UInt8.ofNat n]

def readBigEndian (bytes : Bytes) : Nat :=
  bytes.foldl (fun value byte => value * 256 + byte.toNat) 0

/-- A `uint32_t` as it lies in memory. -/
def storeNative (n : Nat) : Bytes := (bigEndian n).reverse

def loadNative (bytes : Bytes) : Nat := readBigEndian bytes.reverse

def htonl (n : Nat) : Nat := loadNative (bigEndian n)

def ntohl (n : Nat) : Nat := readBigEndian (storeNative n)

theorem readBigEndian_bigEndian (n : Nat) : readBigEndian (bigEndian n) = n % 2 ^ 32 := by
  simp only [bigEndian, readBigEndian, List.foldl_cons, List.foldl_nil, UInt8.toNat_ofNat']
  omega

theorem bigEndian_readBigEndian {bytes : Bytes} (hlength : bytes.length = 4) :
    bigEndian (readBigEndian bytes) = bytes := by
  obtain ⟨a, b, c, d, rfl⟩ : ∃ a b c d, bytes = [a, b, c, d] := by
    match bytes, hlength with
    | [a, b, c, d], _ => exact ⟨a, b, c, d, rfl⟩
  have ha := a.toNat_lt
  have hb := b.toNat_lt
  have hc := c.toNat_lt
  have hd := d.toNat_lt
  simp only [bigEndian, readBigEndian, List.foldl_cons, List.foldl_nil, List.cons.injEq, and_true]
  refine ⟨?_, ?_, ?_, ?_⟩ <;> apply UInt8.toNat_inj.mp <;> rw [UInt8.toNat_ofNat'] <;> omega

theorem loadNative_storeNative (n : Nat) : loadNative (storeNative n) = n % 2 ^ 32 := by
  rw [loadNative, storeNative, List.reverse_reverse, readBigEndian_bigEndian]

theorem storeNative_htonl (n : Nat) : storeNative (htonl n) = bigEndian n := by
  rw [storeNative, htonl, loadNative, bigEndian_readBigEndian (by simp [bigEndian]), List.reverse_reverse]

theorem ntohl_loadNative {bytes : Bytes} (hlength : bytes.length = 4) :
    ntohl (loadNative bytes) = readBigEndian bytes := by
  rw [ntohl, storeNative, loadNative, bigEndian_readBigEndian (by simpa using hlength),
    List.reverse_reverse]

/-! ## The protocol -/

def coProtocolTcpFlag : Int := 0xe8

/-- `sizeof(CoMsgTcpHead)`. -/
def coMsgTcpHeadLen : Nat := 8

def protocolTcpServer : Int := 1

structure CoMsgTcp where
  status : Int := 0
  body : Bytes := []

structure CoProtocolTcp where
  type : Int
  reqMsg : CoMsgTcp := {}
  respMsg : CoMsgTcp := {}

namespace CoProtocolTcp

/-- `set_msgbody` on the message that `decode` fills. -/
def setDecodedBody (self : CoProtocolTcp) (body : Bytes) : CoProtocolTcp :=
  if self.type = protocolTcpServer then { self with reqMsg := { self.reqMsg with body } }
  else { self with respMsg := { self.respMsg with body } }

/-- `get_msgbody` of the message that `decode` fills. -/
def decodedBody (self : CoProtocolTcp) : Bytes :=
  if self.type = protocolTcpServer then self.reqMsg.body else self.respMsg.body

/-- `get_msgbody` of the message that `encode` sends. -/
def encodedBody (self : CoProtocolTcp) : Bytes :=
  if self.type = protocolTcpServer then self.respMsg.body else self.reqMsg.body

/-- No result where `std::string` is asked for a negative number of bytes and throws. -/
def decode (self : CoProtocolTcp) (coBuffer : CoBuffer) : Option (Int × CoProtocolTcp × CoBuffer) :=
  let len := int32 coBuffer.bufferSize
  if len ≤ coMsgTcpHeadLen then some (coAgain, self, coBuffer)
  else
    let rawBuffer := coBuffer.region
    if coProtocolTcpFlag ≠ int32 (loadNative (rawBuffer.take 4)) then
      some (coError, self, coBuffer.reset)
    else
      let bodyLen := int32 (ntohl (loadNative ((rawBuffer.drop 4).take 4)))
      if bodyLen > len - coMsgTcpHeadLen then some (coAgain, self, coBuffer)
      else if bodyLen < 0 then none
      else some (coOk, self.setDecodedBody ((rawBuffer.drop coMsgTcpHeadLen).take bodyLen.toNat),
        (coBuffer.bufferErase (bodyLen.toNat + coMsgTcpHeadLen)).2)

/-- The results of the two `buffer_append` calls are not looked at. -/
def encode (self : CoProtocolTcp) (coBuffer : CoBuffer) (memory : Option Block × Option Block) :
    Option (Int × CoBuffer) :=
  let head := storeNative coProtocolTcpFlag.toNat ++ storeNative (htonl self.encodedBody.length)
  match coBuffer.bufferAppend head memory.1 with
  | none => none
  | some (_, coBuffer) =>
    match coBuffer.bufferAppend self.encodedBody memory.2 with
    | none => none
    | some (_, coBuffer) => some (coOk, coBuffer)

@[simp] theorem type_setDecodedBody (self : CoProtocolTcp) (body : Bytes) :
    (self.setDecodedBody body).type = self.type := by
  unfold setDecodedBody
  split <;> rfl

@[simp] theorem decodedBody_setDecodedBody (self : CoProtocolTcp) (body : Bytes) :
    (self.setDecodedBody body).decodedBody = body := by
  rw [decodedBody, type_setDecodedBody]
  unfold setDecodedBody
  split <;> rfl

end CoProtocolTcp

/-! ## Frames -/

/-- The bytes of a message body on the wire. -/
def frame (body : Bytes) : Bytes :=
  storeNative coProtocolTcpFlag.toNat ++ bigEndian body.length ++ body

theorem frame_length (body : Bytes) : (frame body).length = coMsgTcpHeadLen + body.length := by
  simp only [frame, storeNative, bigEndian, coMsgTcpHeadLen, List.length_append, List.length_reverse,
    List.length_cons, List.length_nil]

inductive Unframed where
  | incomplete
  | malformed
  | body (bytes : Bytes)

/-- What `decode` sees at the front of the bytes that have arrived.  It does not
    look at a header that nothing follows. -/
def unframe (pending : Bytes) : Unframed :=
  if pending.length ≤ coMsgTcpHeadLen then .incomplete
  else if coProtocolTcpFlag ≠ int32 (loadNative (pending.take 4)) then .malformed
  else
    let bodyLen := int32 (readBigEndian ((pending.drop 4).take 4))
    if bodyLen < 0 then .malformed
    else if pending.length < coMsgTcpHeadLen + bodyLen.toNat then .incomplete
    else .body ((pending.drop coMsgTcpHeadLen).take bodyLen.toNat)

theorem unframe_body_length {pending bytes : Bytes} (hbody : unframe pending = .body bytes) :
    coMsgTcpHeadLen + bytes.length ≤ pending.length := by
  unfold unframe at hbody
  split at hbody
  · cases hbody
  · split at hbody
    · cases hbody
    · simp only at hbody
      split at hbody
      · cases hbody
      · split at hbody
        · cases hbody
        · rw [← Unframed.body.inj hbody, List.length_take, List.length_drop]
          omega

/-- What was recognised does not depend on the bytes behind it. -/
theorem unframe_append {pending : Bytes} (hcomplete : unframe pending ≠ .incomplete) (more : Bytes) :
    unframe (pending ++ more) = unframe pending := by
  unfold unframe at hcomplete ⊢
  by_cases hshort : pending.length ≤ coMsgTcpHeadLen
  · exact (hcomplete (if_pos hshort)).elim
  · rw [if_neg hshort] at hcomplete ⊢
    unfold coMsgTcpHeadLen at hshort hcomplete ⊢
    rw [if_neg (by rw [List.length_append]; omega), List.take_append_of_le_length (by omega),
      List.drop_append_of_le_length (by omega),
      List.take_append_of_le_length (by rw [List.length_drop]; omega),
      List.drop_append_of_le_length (by omega)]
    split
    · rfl
    · rename_i hflag
      rw [if_neg hflag] at hcomplete
      simp only at hcomplete ⊢
      split
      · rfl
      · rename_i hlength
        rw [if_neg hlength] at hcomplete
        split at hcomplete
        · exact (hcomplete rfl).elim
        · rename_i hall
          rw [if_neg (by rw [List.length_append]; omega), if_neg hall,
            List.take_append_of_le_length (by rw [List.length_drop]; omega)]

/-- A frame is recognised as soon as a byte beyond its header has arrived. -/
theorem unframe_frame {body : Bytes} (more : Bytes) (hsmall : body.length < 2 ^ 31)
    (hbeyond : body ++ more ≠ []) : unframe (frame body ++ more) = .body body := by
  have hflag : (frame body ++ more).take 4 = storeNative coProtocolTcpFlag.toNat := by
    simp [frame, storeNative, bigEndian]
  have hlength : ((frame body ++ more).drop 4).take 4 = bigEndian body.length := by
    simp [frame, storeNative, bigEndian]
  have hbody : (frame body ++ more).drop coMsgTcpHeadLen = body ++ more := by
    simp [frame, storeNative, bigEndian, coMsgTcpHeadLen]
  have hnonempty : 0 < (body ++ more).length := List.length_pos_iff.mpr hbeyond
  rw [List.length_append] at hnonempty
  unfold unframe
  rw [List.length_append, frame_length, if_neg (by omega), hflag, if_neg, hlength,
    readBigEndian_bigEndian, hbody]
  · simp only
    rw [Nat.mod_eq_of_lt (by omega), int32_of_bounds (by omega) (by omega), if_neg (by omega),
      Int.toNat_natCast, if_neg (by omega), List.take_left]
  · rw [loadNative_storeNative, int32_of_bounds (by decide) (by decide)]
    decide

/-- A header alone waits, even when the body is empty. -/
theorem unframe_header {pending : Bytes} (hshort : pending.length ≤ coMsgTcpHeadLen) :
    unframe pending = .incomplete := if_pos hshort

/-! ## What `decode` and `encode` do -/

namespace CoProtocolTcp

/-- `decode` acts on what `unframe` finds, as long as the size of the buffer fits
    in an `int32_t`. -/
theorem decode_eq {coBuffer : CoBuffer} (self : CoProtocolTcp) (hvalid : coBuffer.Valid)
    (hsmall : coBuffer.region.length < 2 ^ 31) :
    match unframe coBuffer.region with
    | .incomplete => self.decode coBuffer = some (coAgain, self, coBuffer)
    | .malformed => self.decode coBuffer = none ∨ self.decode coBuffer = some (coError, self, coBuffer.reset)
    | .body bytes => self.decode coBuffer = some (coOk, self.setDecodedBody bytes,
        (coBuffer.bufferErase (bytes.length + coMsgTcpHeadLen)).2) := by
  have hsize := hvalid.region_length
  have hlen : int32 coBuffer.bufferSize = coBuffer.region.length := by
    rw [← hsize, int32_of_bounds (by omega) (by omega)]
  unfold unframe decode
  simp only [hlen]
  by_cases hshort : coBuffer.region.length ≤ coMsgTcpHeadLen
  · have hshort' : (coBuffer.region.length : Int) ≤ coMsgTcpHeadLen := by exact_mod_cast hshort
    rw [if_pos hshort, if_pos hshort']
  · have hshort' : ¬(coBuffer.region.length : Int) ≤ coMsgTcpHeadLen := by exact_mod_cast hshort
    rw [if_neg hshort, if_neg hshort']
    by_cases hflag : coProtocolTcpFlag ≠ int32 (loadNative (coBuffer.region.take 4))
    · rw [if_pos hflag, if_pos hflag]
      exact .inr rfl
    · have hfield : ((coBuffer.region.drop 4).take 4).length = 4 := by
        unfold coMsgTcpHeadLen at hshort
        rw [List.length_take, List.length_drop]
        omega
      rw [if_neg hflag, if_neg hflag, ntohl_loadNative hfield]
      generalize int32 (readBigEndian ((coBuffer.region.drop 4).take 4)) = bodyLen
      by_cases hnegative : bodyLen < 0
      · have hfits : ¬bodyLen > coBuffer.region.length - coMsgTcpHeadLen := by omega
        rw [if_pos hnegative, if_neg hfits, if_pos hnegative]
        exact .inl rfl
      · by_cases hpart : coBuffer.region.length < coMsgTcpHeadLen + bodyLen.toNat
        · have hpart' : bodyLen > coBuffer.region.length - coMsgTcpHeadLen := by omega
          rw [if_neg hnegative, if_pos hpart, if_pos hpart']
        · have hpart' : ¬bodyLen > coBuffer.region.length - coMsgTcpHeadLen := by omega
          have hbody : ((coBuffer.region.drop coMsgTcpHeadLen).take bodyLen.toNat).length =
              bodyLen.toNat := by
            rw [List.length_take, List.length_drop]
            omega
          rw [if_neg hnegative, if_neg hpart, if_neg hpart', if_neg hnegative]
          simp only [hbody]

/-- A buffer whose size an `int32_t` cannot hold keeps at least that many bytes. -/
theorem decode_huge {coBuffer after : CoBuffer} {self next : CoProtocolTcp} {ret : Int}
    (hvalid : coBuffer.Valid) (hhuge : 2 ^ 31 ≤ coBuffer.region.length)
    (hnot : ret ≠ coError) (hrun : self.decode coBuffer = some (ret, next, after)) :
    after.Valid ∧ 2 ^ 31 ≤ after.region.length := by
  have hsize := hvalid.region_length
  unfold decode at hrun
  simp only at hrun
  split at hrun
  · cases hrun
    exact ⟨hvalid, hhuge⟩
  · rename_i hlong
    split at hrun
    · cases hrun
      exact absurd rfl hnot
    · split at hrun
      · cases hrun
        exact ⟨hvalid, hhuge⟩
      · rename_i hfits
        split at hrun
        · cases hrun
        · cases hrun
          refine ⟨hvalid.bufferErase _, ?_⟩
          -- the length that was compared is the size modulo `2 ^ 32`, so a multiple stays
          obtain ⟨turns, hturns⟩ := int32_turns coBuffer.bufferSize
          have hbounds := int32_bounds coBuffer.bufferSize
          rw [hvalid.region_bufferErase, List.length_drop]
          unfold coMsgTcpHeadLen at hfits ⊢
          omega

/-- `encode` appends the frame of its message. -/
theorem encode_eq {coBuffer : CoBuffer} (self : CoProtocolTcp) (memory : Block × Block)
    (hvalid : coBuffer.Valid) (htotal : coBuffer.totalSize < 2 ^ 63)
    (hfits : coBuffer.bufferSize + (frame self.encodedBody).length < 2 ^ 62) :
    ∃ after, self.encode coBuffer (some memory.1, some memory.2) = some (coOk, after) ∧ after.Valid ∧
      after.region = coBuffer.region ++ frame self.encodedBody ∧ after.totalSize < 2 ^ 63 := by
  rw [frame_length] at hfits
  let head := storeNative coProtocolTcpFlag.toNat ++ storeNative (htonl self.encodedBody.length)
  have hhead : head.length = coMsgTcpHeadLen := by
    simp [head, storeNative, bigEndian, coMsgTcpHeadLen]
  have hroom : coBuffer.bufferSize + head.length < 2 ^ 62 := by omega
  obtain ⟨mid, hfirst, hmid, hmidRegion, hmidTotal⟩ := hvalid.bufferAppend_some memory.1 htotal hroom
  have hmidSize : mid.bufferSize = coBuffer.bufferSize + coMsgTcpHeadLen := by
    rw [← hmid.region_length, hmidRegion, List.length_append, hvalid.region_length, hhead]
  have hmidRoom : mid.bufferSize + self.encodedBody.length < 2 ^ 62 := by omega
  obtain ⟨after, hsecond, hafter, hafterRegion, hafterTotal⟩ :=
    hmid.bufferAppend_some memory.2 hmidTotal hmidRoom
  refine ⟨after, ?_, hafter, ?_, hafterTotal⟩
  · simp only [encode, head] at hfirst ⊢
    simp only [hfirst, hsecond]
  · simp only [hafterRegion, hmidRegion, head, storeNative_htonl, frame, List.append_assoc]

end CoProtocolTcp

/-! ## Any bytes -/

/-- The length that a header announces, as the number it is on the wire. -/
def announced (pending : Bytes) : Nat := readBigEndian ((pending.drop 4).take 4)

theorem readBigEndian_lt {bytes : Bytes} (hlength : bytes.length = 4) : readBigEndian bytes < 2 ^ 32 := by
  have hsame := readBigEndian_bigEndian (readBigEndian bytes)
  rw [bigEndian_readBigEndian hlength] at hsame
  omega

theorem announced_lt {pending : Bytes} (hlong : coMsgTcpHeadLen < pending.length) : announced pending < 2 ^ 32 := by
  refine readBigEndian_lt ?_
  unfold coMsgTcpHeadLen at hlong
  rw [List.length_take, List.length_drop]
  omega

/-- A whole header with the flag in front of it announces a body of `2 ^ 31` bytes or
    more, and something is behind it. -/
def AnnouncesNegative (coBuffer : CoBuffer) : Prop :=
  (coMsgTcpHeadLen : Int) < int32 coBuffer.bufferSize ∧
    coProtocolTcpFlag = int32 (loadNative (coBuffer.region.take 4)) ∧ 2 ^ 31 ≤ announced coBuffer.region

namespace CoProtocolTcp

/-- The ends of a call of `decode` that its callers know: nothing was touched, the
    buffer was emptied, or a body of the announced length was cut out of the buffer
    together with its header. -/
inductive DecodeEnds (self : CoProtocolTcp) (coBuffer : CoBuffer) : Option (Int × CoProtocolTcp × CoBuffer) → Prop
  | again : DecodeEnds self coBuffer (some (coAgain, self, coBuffer))
  | error : DecodeEnds self coBuffer (some (coError, self, coBuffer.reset))
  | ok (header body behind : Bytes) (hregion : coBuffer.region = header ++ body ++ behind)
      (hheader : header.length = coMsgTcpHeadLen) (hbody : body.length = announced coBuffer.region) :
      DecodeEnds self coBuffer
        (some (coOk, self.setDecodedBody body, (coBuffer.bufferErase (coMsgTcpHeadLen + body.length)).2))

/-- The body that `decode` takes. -/
theorem decodeEnds_body {coBuffer : CoBuffer} (self : CoProtocolTcp) {bodyLen : Nat}
    (hfits : coMsgTcpHeadLen + bodyLen ≤ coBuffer.region.length) (hbodyLen : bodyLen = announced coBuffer.region) :
    DecodeEnds self coBuffer (some (coOk,
      self.setDecodedBody ((coBuffer.region.drop coMsgTcpHeadLen).take bodyLen),
      (coBuffer.bufferErase (bodyLen + coMsgTcpHeadLen)).2)) := by
  have hbody : ((coBuffer.region.drop coMsgTcpHeadLen).take bodyLen).length = bodyLen := by
    rw [List.length_take, List.length_drop]
    omega
  have hends := @DecodeEnds.ok self coBuffer (coBuffer.region.take coMsgTcpHeadLen)
    ((coBuffer.region.drop coMsgTcpHeadLen).take bodyLen) ((coBuffer.region.drop coMsgTcpHeadLen).drop bodyLen)
    ?_ ?_ (hbody.trans hbodyLen)
  · rw [hbody, Nat.add_comm] at hends
    exact hends
  · rw [List.append_assoc, List.take_append_drop, List.take_append_drop]
  · rw [List.length_take]
    omega

/-- `decode` ends as its callers expect on every buffer, unless the announced length
    is negative as an `int32_t`. -/
theorem decode_ends_iff (self : CoProtocolTcp) {coBuffer : CoBuffer} (hvalid : coBuffer.Valid) :
    DecodeEnds self coBuffer (self.decode coBuffer) ↔ ¬AnnouncesNegative coBuffer := by
  unfold decode AnnouncesNegative
  dsimp only
  by_cases hshort : int32 coBuffer.bufferSize ≤ coMsgTcpHeadLen
  · rw [if_pos hshort]
    exact ⟨fun _ hannounces => absurd hannounces.1 (by omega), fun _ => .again⟩
  rw [if_neg hshort]
  by_cases hflag : coProtocolTcpFlag ≠ int32 (loadNative (coBuffer.region.take 4))
  · rw [if_pos hflag]
    exact ⟨fun _ hannounces => absurd hannounces.2.1 hflag, fun _ => .error⟩
  rw [if_neg hflag]
  -- the size of the buffer is at least what is left of it in an `int32_t`
  have hsize := hvalid.region_length
  have hwrapped : int32 coBuffer.bufferSize ≤ coBuffer.region.length := by
    obtain ⟨turns, hturns⟩ := int32_turns coBuffer.bufferSize
    have hbounds := int32_bounds coBuffer.bufferSize
    omega
  have hlong : coMsgTcpHeadLen < coBuffer.region.length := by omega
  have hfield : ((coBuffer.region.drop 4).take 4).length = 4 := by
    unfold coMsgTcpHeadLen at hlong
    rw [List.length_take, List.length_drop]
    omega
  have hlt := announced_lt hlong
  rw [ntohl_loadNative hfield, show readBigEndian ((coBuffer.region.drop 4).take 4) = announced coBuffer.region from rfl]
  by_cases hnegative : 2 ^ 31 ≤ announced coBuffer.region
  · have hbelow : int32 (announced coBuffer.region) < 0 := by
      obtain ⟨turns, hturns⟩ := int32_turns (announced coBuffer.region)
      have hbounds := int32_bounds (announced coBuffer.region)
      omega
    rw [if_neg (by omega), if_pos hbelow]
    exact ⟨nofun, fun hnot => absurd ⟨by omega, not_not.mp hflag, hnegative⟩ hnot⟩
  · rw [int32_of_bounds (by omega) (by omega)]
    refine ⟨fun _ hannounces => hnegative hannounces.2.2, fun _ => ?_⟩
    split
    · exact .again
    · rename_i hfits
      rw [if_neg (by omega), Int.toNat_natCast]
      exact decodeEnds_body self (by omega) rfl

/-- A frame of one byte, another byte behind it. -/
theorem decode_ends_one : DecodeEnds ⟨protocolTcpServer, {}, {}⟩
    { originBuffer := 1, block := [0xe8, 0, 0, 0, 0, 0, 0, 1, 7, 9], totalSize := 10, buffer := 1, bufferSize := 10 }
    (decode ⟨protocolTcpServer, {}, {}⟩
      { originBuffer := 1, block := [0xe8, 0, 0, 0, 0, 0, 0, 1, 7, 9], totalSize := 10, buffer := 1, bufferSize := 10 }) :=
  (decode_ends_iff ⟨protocolTcpServer, {}, {}⟩ ⟨by decide, by decide, by decide, by decide⟩).mpr (by
    rintro ⟨_, _, hnegative⟩
    revert hnegative
    decide)

/-- A length of `0xffffffff` is handed to `std::string` as the largest `size_t`. -/
theorem decode_negative_length : ¬∀ (self : CoProtocolTcp) (coBuffer : CoBuffer), coBuffer.Valid →
    DecodeEnds self coBuffer (self.decode coBuffer) := by
  intro hends
  have hthrown := hends ⟨protocolTcpServer, {}, {}⟩
    { originBuffer := 1, block := [0xe8, 0, 0, 0, 255, 255, 255, 255, 7], totalSize := 9, buffer := 1, bufferSize := 9 }
    ⟨by decide, by decide, by decide, by decide⟩
  have hnone : decode ⟨protocolTcpServer, {}, {}⟩
      { originBuffer := 1, block := [0xe8, 0, 0, 0, 255, 255, 255, 255, 7], totalSize := 9, buffer := 1, bufferSize := 9 } =
      none := by decide +kernel
  rw [hnone] at hthrown
  cases hthrown

end CoProtocolTcp

end CoServer
