import CoServer.Protocol.HttpReceiver

/-! # Chunked bodies

A chunked body is decoded to the concatenation of its chunks, however it is cut.
A chunk is one item of the reader, so the proof is an induction on the chunks,
and the cuts do not enter into it. -/

namespace CoServer

open Lib (ascii memchr Reader)

/-! ## Chunks on the wire -/

/-- The value of a character as a hexadecimal digit of either case. -/
def hexValueOf (ch : UInt8) : Option Nat :=
  (ascii "0123456789abcdef").idxOf? ch <|> (ascii "0123456789ABCDEF").idxOf? ch

def hexValue (value : Nat) (ch : UInt8) : Option Nat := (hexValueOf ch).map (value * 16 + ·)

/-- A spelling of a number, leading zeros allowed. -/
structure Spells (digits : Bytes) (size : Nat) : Prop where
  nonempty : digits ≠ []
  value : digits.foldlM hexValue 0 = some size

/-- A chunk and how its size is spelled. -/
structure Chunk where
  size : Bytes
  data : Bytes
  nonempty : data ≠ []
  spelled : Spells size data.length

def Chunk.bytes (chunk : Chunk) : Bytes := chunk.size ++ crlf ++ chunk.data ++ crlf

def lastChunk : Bytes := ascii "0" ++ crlf ++ crlf

def chunkedBytes (chunks : List Chunk) : Bytes := (chunks.map Chunk.bytes).flatten ++ lastChunk

def chunkedData (chunks : List Chunk) : Bytes := (chunks.map Chunk.data).flatten

/-! ## Sizes -/

theorem hexDigit_eq (ch : UInt8) : hexDigit ch = hexValueOf ch := by
  have hall : ∀ n : Fin 256, hexDigit (UInt8.ofNat n) = hexValueOf (UInt8.ofNat n) := by decide +kernel
  have hch := hall ⟨ch.toNat, ch.toNat_lt⟩
  rwa [UInt8.ofNat_toNat] at hch

theorem hexDigit_line (ch : UInt8) (hdigit : (hexValueOf ch).isSome) : ch ≠ lf := by
  intro hlf
  rw [hlf] at hdigit
  exact absurd hdigit (by decide)

/-- From `start` on, no partial value exceeds the final one. -/
theorem chunkedDigits_from {digits : Bytes} {start size : Nat} (hsmall : size < 2 ^ 31)
    (hvalue : digits.foldlM hexValue start = some size) :
    start ≤ size ∧ lf ∉ digits ∧ digits.foldlM chunkedDigit (start : Int) = some (size : Int) := by
  induction digits generalizing start with
  | nil =>
    cases hvalue
    exact ⟨Nat.le_refl _, List.not_mem_nil, rfl⟩
  | cons ch digits ih =>
    rw [List.foldlM_cons] at hvalue ⊢
    cases hdigit : hexValueOf ch with
    | none =>
      rw [hexValue, hdigit] at hvalue
      cases hvalue
    | some digit =>
      have hstep : hexValue start ch = some (start * 16 + digit) := by rw [hexValue, hdigit, Option.map_some]
      rw [hstep] at hvalue
      obtain ⟨hle, habsent, hrest⟩ := ih hvalue
      refine ⟨by omega, ?_, ?_⟩
      · intro hmem
        cases hmem with
        | head => exact hexDigit_line lf (by rw [hdigit]; rfl) rfl
        | tail _ hmem => exact habsent hmem
      · have hnext : int32 (int32 ((start : Int) * 16) + digit) = ((start * 16 + digit : Nat) : Int) := by
          rw [int32_add, int32_of_bounds] <;> push_cast <;> omega
        rw [chunkedDigit, hexDigit_eq, hdigit, Option.map_some, hnext]
        exact hrest

theorem Spells.chunkedDigits {digits : Bytes} {size : Nat} (hspells : Spells digits size)
    (hsmall : size < 2 ^ 31) : chunkedDigits digits = some (size : Int) :=
  (chunkedDigits_from hsmall hspells.value).2.2

theorem Spells.no_line {digits : Bytes} {size : Nat} (hspells : Spells digits size) (hsmall : size < 2 ^ 31) :
    lf ∉ digits :=
  (chunkedDigits_from hsmall hspells.value).2.1

/-! ## Reading chunks -/

section
variable {message : CoProtocolHttp} {digits data rest : Bytes} {size : Nat}

/-- A size line and what it announces. -/
theorem chunkNext_line (hspells : Spells digits size) (hsmall : digits.length + 4 + size < 2 ^ 31)
    (hdata : data.length = size) :
    chunkNext message (digits ++ crlf ++ data ++ crlf ++ rest) =
      if size = 0 then some (some message.completed, digits.length + 4)
      else some (some (message.appendContent data), digits.length + 4 + size) := by
  have habsent : lf ∉ digits ++ [cr] := by
    intro hmem
    cases List.mem_append.mp hmem with
    | inl hmem => exact hspells.no_line (by omega) hmem
    | inr hmem => exact absurd (List.mem_singleton.mp hmem) (by decide)
  have hline : digits ++ crlf ++ data ++ crlf ++ rest = (digits ++ [cr]) ++ lf :: (data ++ crlf ++ rest) := by
    simp [crlf]
  have hlength : (digits ++ [cr]).length = digits.length + 1 := by simp
  have hget : ((digits ++ [cr]) ++ lf :: (data ++ crlf ++ rest))[digits.length]? = some cr := by
    rw [List.append_assoc, List.getElem?_append_right (Nat.le_refl _), Nat.sub_self]
    rfl
  have htake : ((digits ++ [cr]) ++ lf :: (data ++ crlf ++ rest)).take digits.length = digits := by
    rw [List.append_assoc]
    exact List.take_left
  have hbody : (((digits ++ [cr]) ++ lf :: (data ++ crlf ++ rest)).drop (digits.length + 1 + 1)).take size = data := by
    rw [List.append_cons, List.drop_left' (by simp), List.append_assoc]
    exact List.take_left' hdata
  have htotal : ((digits ++ [cr]) ++ lf :: (data ++ crlf ++ rest)).length = digits.length + 4 + size + rest.length := by
    simp [crlf, hdata]
    omega
  rw [hline]
  simp only [chunkNext, memchr_line habsent, hlength, Nat.add_sub_cancel, hget, htake,
    hspells.chunkedDigits (show size < 2 ^ 31 by omega)]
  rw [if_neg (by simp), if_neg (by push_cast; omega), if_neg (by rw [htotal]; omega), Int.toNat_natCast, hbody]
  by_cases hzero : size = 0
  · rw [if_pos hzero, if_pos (by exact_mod_cast hzero)]
  · rw [if_neg hzero, if_neg (by exact_mod_cast hzero)]

/-- The message in the middle of a chunked body. -/
structure InChunks (message : CoProtocolHttp) : Prop where
  stage : message.parseStatus = .eContent
  chunked : (true && message.contentChunked) = true
  sized : message.Sized

theorem InChunks.appendContent (hchunks : InChunks message) (content : Bytes) :
    InChunks (message.appendContent content) :=
  ⟨hchunks.stage, hchunks.chunked, hchunks.sized.appendContent content⟩

theorem InChunks.reads_chunk (hchunks : InChunks message) (chunk : Chunk) (rest : Bytes)
    (hsmall : chunk.bytes.length < 2 ^ 31) :
    (bodyReader true).Reads (some message) (chunk.bytes ++ rest) (some (message.appendContent chunk.data)) rest := by
  have hlength : chunk.bytes.length = chunk.size.length + 4 + chunk.data.length := by
    simp [Chunk.bytes, crlf]
    omega
  have hnonempty : chunk.data.length ≠ 0 := fun hzero => chunk.nonempty (List.eq_nil_of_length_eq_zero hzero)
  have hnext : (bodyReader true).next (some message) (chunk.bytes ++ rest) =
      some (some (message.appendContent chunk.data), chunk.bytes.length) := by
    rw [bodyReader_chunk hchunks.stage hchunks.sized hchunks.chunked, Chunk.bytes,
      chunkNext_line chunk.spelled (by omega) rfl, if_neg hnonempty, ← Chunk.bytes, hlength]
  apply Reader.Reads.take hnext
  rw [List.drop_left]
  exact .done

theorem InChunks.reads_last (hchunks : InChunks message) (rest : Bytes) :
    (bodyReader true).Reads (some message) (lastChunk ++ rest) (some message.completed) rest := by
  have hspells : Spells (ascii "0") 0 := ⟨by decide, by decide⟩
  have hline : lastChunk ++ rest = ascii "0" ++ crlf ++ [] ++ crlf ++ rest := by
    simp [lastChunk]
  have hnext : (bodyReader true).next (some message) (lastChunk ++ rest) = some (some message.completed, 5) := by
    rw [bodyReader_chunk hchunks.stage hchunks.sized hchunks.chunked, hline,
      chunkNext_line hspells (by decide) rfl, if_pos rfl]
    rfl
  exact .take hnext .done

/-- The chunks one after the other, then the last one. -/
theorem InChunks.reads (hchunks : InChunks message) (chunks : List Chunk) (rest : Bytes)
    (hsmall : (chunkedBytes chunks).length < 2 ^ 31) :
    (bodyReader true).Reads (some message) (chunkedBytes chunks ++ rest)
      (some (message.appendContent (chunkedData chunks)).completed) rest := by
  induction chunks generalizing message with
  | nil =>
    have hempty : message.appendContent (chunkedData []) = message := appendContent_nil hchunks.sized
    rw [hempty]
    exact hchunks.reads_last rest
  | cons chunk chunks ih =>
    have hsplit : chunkedBytes (chunk :: chunks) = chunk.bytes ++ chunkedBytes chunks := by
      simp [chunkedBytes]
    have hdata : (message.appendContent chunk.data).appendContent (chunkedData chunks) =
        message.appendContent (chunkedData (chunk :: chunks)) := by
      rw [appendContent_append]
      rfl
    rw [hsplit, List.length_append] at hsmall
    rw [hsplit, List.append_assoc, ← hdata]
    exact (hchunks.reads_chunk chunk _ (by omega)).trans (ih (hchunks.appendContent _) (by omega))

end

/-! ## Chunked bodies in pieces -/

section
variable {start : CoHTTPResponse} {chunks : List Chunk} {tail : Bytes}

/-- A response whose headers have been read and whose body is chunked. -/
structure AtChunks (start : CoHTTPResponse) : Prop where
  stage : start.parseStatus = .eContent
  chunked : start.contentChunked = true
  remain : start.contentRemain = 0
  length : start.contentLength = 0
  content : start.content = []

theorem AtChunks.inChunks (hstart : AtChunks start) : InChunks start.toCoProtocolHttp := by
  refine ⟨hstart.stage, hstart.chunked, ?_, ?_⟩
  · rw [hstart.remain, int32_of_bounds (by decide) (by decide)]
  · rw [hstart.length, int32_of_bounds (by decide) (by decide)]

/-- The response with its whole body. -/
def withChunks (start : CoHTTPResponse) (chunks : List Chunk) : CoHTTPResponse :=
  { start with toCoProtocolHttp := (start.appendContent (chunkedData chunks)).completed }

theorem AtChunks.reads (hstart : AtChunks start) (hsmall : (chunkedBytes chunks).length < 2 ^ 31) (rest : Bytes) :
    CoProtocolHttpClient.lawful.reader.Reads (some start) (chunkedBytes chunks ++ rest)
      (some (withChunks start chunks)) rest :=
  CoProtocolHttpClient.lawful.reads_body start (hstart.inChunks.reads chunks rest hsmall)

theorem withChunks_final (start : CoHTTPResponse) (chunks : List Chunk) :
    CoProtocolHttpClient.lawful.reader.Final (some (withChunks start chunks)) :=
  CoProtocolHttpClient.lawful.final_completed rfl

/-- The receiver on every prefix of the segments. -/
theorem AtChunks.receive (hstart : AtChunks start) {front back : List (Bytes × Block)}
    (hbytes : HttpReceiver.bytes (front ++ back) = chunkedBytes chunks ++ tail)
    (hsmall : (chunkedBytes chunks ++ tail).length < 2 ^ 31) :
    ∃ state, front.foldlM (HttpReceiver.receive CoProtocolHttpClient.side) { message := start } = some state ∧
      HttpReceiver.Follows CoProtocolHttpClient.lawful start (HttpReceiver.bytes front) state ∧
      ∀ code ∈ state.codes, code = coAgain ∨ code = coOk := by
  have hchunks : (chunkedBytes chunks).length < 2 ^ 31 := by
    rw [List.length_append] at hsmall
    omega
  induction front using List.reverseRecOn generalizing back with
  | nil =>
    have hwaits : CoProtocolHttpClient.lawful.reader.Waits (some start) [] := by
      apply CoProtocolHttpClient.lawful.waits_body _ (.inl hstart.stage)
      exact bodyReader_chunk hstart.stage hstart.inChunks.sized hstart.chunked
    exact ⟨_, rfl, HttpReceiver.follows_fresh _ start [] hwaits, nofun⟩
  | append_singleton front arrival ih =>
    rw [List.append_assoc] at hbytes
    obtain ⟨state, hrun, hfollows, hcodes⟩ := ih hbytes
    rw [HttpReceiver.bytes_append, List.singleton_append, HttpReceiver.bytes_cons, ← List.append_assoc] at hbytes
    obtain ⟨taken, htaken⟩ := hfollows.reads.suffix
    have hfits : state.coBuffer.region.length + arrival.1.length < 2 ^ 31 := by
      have hlength := congrArg List.length hbytes
      have htakenLength := congrArg List.length htaken
      simp only [List.length_append] at hlength htakenLength hsmall
      omega
    have hinBody := CoProtocolHttpClient.lawful.reads_inBody hfollows.reads
      (fun message hmessage => by cases hmessage; exact .inl hstart.stage) state.message rfl
    rw [List.foldlM_append, hrun, HttpReceiver.bytes_append]
    simp only [Option.bind_eq_bind, Option.bind_some, List.foldlM_cons, List.foldlM_nil, HttpReceiver.bytes_cons,
      HttpReceiver.bytes_nil, List.append_nil]
    cases hinBody with
    | inl hcontent =>
      have hwell := HttpReceiver.not_failed (hbytes ▸ hstart.reads hchunks tail)
        (withChunks_final start chunks tail)
      have hreceived := hfollows.receive ⟨by rw [hcontent]; exact nofun, by rw [hcontent]; exact nofun⟩ hfits
        (fun hother => absurd hcontent hother) fun hreads _ hfailed =>
          hwell _ ((hfollows.reads.append arrival.1).trans (hreads.trans hfailed))
      generalize state.receive CoProtocolHttpClient.side arrival = result at hreceived
      cases hreceived with
      | read next hnext _ hnextCodes =>
        refine ⟨next, rfl, hnext, ?_⟩
        rw [hnextCodes]
        intro code hmem
        cases List.mem_append.mp hmem with
        | inl hmem => exact hcodes code hmem
        | inr hmem =>
          rw [List.mem_singleton.mp hmem, HttpSide.code]
          split
          · exact .inr rfl
          · exact .inl rfl
      | blank after rest appended hreads hblank _ _ _ _ =>
        have hafter := CoProtocolHttpClient.lawful.reads_inBody hreads
          (fun message hmessage => by cases hmessage; exact .inl hstart.stage) after rfl
        exact absurd hblank.1 (HttpSide.not_header_of_inBody hafter)
      | failed _ hfailed _ =>
        obtain ⟨rest, hfailed⟩ := hfailed
        exact absurd hfailed (hwell rest)
    | inr hcompleted =>
      obtain ⟨next, hreceive, hnext, _, hnextCodes⟩ := hfollows.receive_completed hcompleted hfits
      refine ⟨next, by rw [hreceive]; rfl, hnext, ?_⟩
      rw [hnextCodes]
      intro code hmem
      cases List.mem_append.mp hmem with
      | inl hmem => exact hcodes code hmem
      | inr hmem => exact .inr (List.mem_singleton.mp hmem)

end

/-- A chunked body that arrives in pieces is complete exactly from the piece on
    that brings the last byte of the terminating chunk; it is then the
    concatenation of the chunks, and only the bytes behind it are left. -/
theorem decode_chunked_segments (start : CoHTTPResponse) (hstart : AtChunks start) (chunks : List Chunk)
    (tail : Bytes) (front back : List (Bytes × Block))
    (hbytes : HttpReceiver.bytes (front ++ back) = chunkedBytes chunks ++ tail)
    (hsmall : (chunkedBytes chunks ++ tail).length < 2 ^ 31) :
    ∃ state, front.foldlM (HttpReceiver.receive CoProtocolHttpClient.side) { message := start } = some state ∧
      (∀ code ∈ state.codes, code = coAgain ∨ code = coOk) ∧
      (state.message.parseStatus = .eCompleted ↔ (chunkedBytes chunks).length ≤ (HttpReceiver.bytes front).length) ∧
      (state.message.parseStatus = .eCompleted → state.message.content = chunkedData chunks ∧
        state.coBuffer.region = (HttpReceiver.bytes front).drop (chunkedBytes chunks).length) := by
  obtain ⟨state, hrun, hfollows, hcodes⟩ := hstart.receive hbytes hsmall
  have hchunks : (chunkedBytes chunks).length < 2 ^ 31 := by
    rw [List.length_append] at hsmall
    omega
  rw [HttpReceiver.bytes_append] at hbytes
  -- all of the encoding has arrived
  have harrived : (chunkedBytes chunks).length ≤ (HttpReceiver.bytes front).length →
      state.message = withChunks start chunks ∧
        state.coBuffer.region = (HttpReceiver.bytes front).drop (chunkedBytes chunks).length := by
    intro hlong
    have hsplit : HttpReceiver.bytes front =
        chunkedBytes chunks ++ (HttpReceiver.bytes front).drop (chunkedBytes chunks).length := by
      have htake := congrArg (List.take (chunkedBytes chunks).length) hbytes
      rw [List.take_append_of_le_length hlong, List.take_left] at htake
      conv => lhs; rw [← List.take_append_drop (chunkedBytes chunks).length (HttpReceiver.bytes front), htake]
    have hreads := hstart.reads hchunks ((HttpReceiver.bytes front).drop (chunkedBytes chunks).length)
    rw [← hsplit] at hreads
    obtain ⟨hstate, hrest⟩ := hfollows.unique hreads (withChunks_final start chunks _)
    exact ⟨(Option.some.inj hstate).symm, hrest.symm⟩
  -- the response is complete
  have hcomplete : state.message.parseStatus = .eCompleted →
      (chunkedBytes chunks).length ≤ (HttpReceiver.bytes front).length := by
    intro hstatus
    have hreads := hstart.reads hchunks tail
    rw [← hbytes] at hreads
    obtain ⟨_, hrest⟩ := hfollows.reads.final_early (CoProtocolHttpClient.lawful.final_completed hstatus) hreads
      (withChunks_final start chunks tail)
    have hlength := congrArg List.length hbytes
    have hrestLength := congrArg List.length hrest
    simp only [List.length_append] at hlength hrestLength
    omega
  refine ⟨state, hrun, hcodes, ⟨hcomplete, fun hlong => ?_⟩, fun hstatus => ?_⟩
  · rw [(harrived hlong).1]
    rfl
  · obtain ⟨hmessage, hregion⟩ := harrived (hcomplete hstatus)
    refine ⟨?_, hregion⟩
    rw [hmessage]
    simp only [withChunks, CoProtocolHttp.completed, CoProtocolHttp.appendContent, hstart.content, List.nil_append]

/-- Two chunks, cut inside a size, inside the data and in front of an LF. -/
theorem decode_chunked_segments_two :
    ∃ state, ([(ascii "0", ⟨4096, []⟩), (ascii "3\r\na\nb\r\nA\r\n0123456789\r\n0\r\n\r", ⟨4096, []⟩)] :
      List (Bytes × Block)).foldlM (HttpReceiver.receive CoProtocolHttpClient.side)
        { message := { parseStatus := .eContent, contentChunked := true } } = some state ∧
      ¬state.message.parseStatus = .eCompleted := by
  obtain ⟨state, hrun, _, hstatus, _⟩ := decode_chunked_segments { parseStatus := .eContent, contentChunked := true }
    ⟨rfl, rfl, rfl, rfl, rfl⟩
    [⟨ascii "03", ascii "a\nb", by decide, by decide, by decide⟩,
      ⟨ascii "A", ascii "0123456789", by decide, by decide, by decide⟩] (ascii "HTTP")
    [(ascii "0", ⟨4096, []⟩), (ascii "3\r\na\nb\r\nA\r\n0123456789\r\n0\r\n\r", ⟨4096, []⟩)]
    [(ascii "\nHTTP", ⟨4096, []⟩)] (by decide) (by decide)
  exact ⟨state, hrun, fun hcompleted => absurd (hstatus.mp hcompleted) (by decide)⟩

end CoServer
