import CoServer.Protocol.HttpRoundTrip

/-! # What the encoders leave out

Every line of a message goes through a line buffer of 512 bytes, which cuts off what
does not fit; the body is announced and sent by its length as an `int32_t`.  A message
is sent whole if and only if its lines fit and its length does. -/

namespace CoServer

open Lib (ascii cstr decimal decimalInt snprintf)

/-- A whole message: the start line, a line for each header, and the content. -/
def wholeMessage (first second third : Bytes) (order : List (Bytes × Bytes)) (content : Bytes) : Bytes :=
  first ++ space :: (second ++ space :: (third ++ crlf)) ++ headerRows (order.map spaced) ++ crlf ++ content

/-- The length that the headers give is that of the content; only a message without
    content may go without. -/
def AnnouncesLength (headers : StringMap) (content : Bytes) : Prop :=
  (∀ value, headers.lookup headerContentLength = some value → value = decimal content.length) ∧
    (content ≠ [] → ∃ value, headers.lookup headerContentLength = some value)

/-- Encoding has put the whole message behind what was in the buffer. -/
structure Emits (coBuffer : CoBuffer) (text : Bytes) (headers : StringMap) (content : Bytes)
    (encoded : Option (Int × CoBuffer)) : Prop where
  appended : ∃ out, encoded = some (coOk, out) ∧ out.region = coBuffer.region ++ text
  announced : AnnouncesLength headers content

/-! ## Lines -/

section
variable {first second third body content : Bytes} {order : List (Bytes × Bytes)}

/-- The text that is printed for a message, and its body. -/
def printedMessage (first second third : Bytes) (order : List (Bytes × Bytes)) (body : Bytes) : Bytes :=
  snprintf lineBufferSize (first ++ ascii " " ++ second ++ ascii " " ++ third ++ crlf) ++
    (order.map headerLine).flatten ++ crlf ++ body

theorem length_snprintf (size : Nat) (text : Bytes) : (snprintf size text).length = min (size - 1) text.length := by
  rw [snprintf, List.length_take]

theorem headerLine_eq {header : Bytes × Bytes} (name : Inline header.1) (value : Inline header.2) :
    headerLine header = snprintf lineBufferSize (headerRow (spaced header)) := by
  rw [headerLine, Lib.cstr_self name.1, Lib.cstr_self value.1, headerRow, List.append_assoc header.1]
  rfl

theorem length_headerRow (header : Bytes × Bytes) :
    (headerRow (spaced header)).length = header.1.length + header.2.length + 4 := by
  simp only [headerRow, spaced, crlf, List.length_append, List.length_cons, List.length_nil]
  omega

/-- The header lines lose something unless all of them fit. -/
theorem length_headerLines (plain : ∀ header ∈ order, Inline header.1 ∧ Inline header.2) :
    (order.map headerLine).flatten.length ≤ (headerRows (order.map spaced)).length ∧
    ((order.map headerLine).flatten.length = (headerRows (order.map spaced)).length →
      ∀ header ∈ order, header.1.length + header.2.length + 4 ≤ 511) := by
  induction order with
  | nil => exact ⟨Nat.le_refl _, nofun⟩
  | cons header order ih =>
    obtain ⟨shorter, same⟩ := ih fun other member => plain other (List.mem_cons_of_mem _ member)
    have line := headerLine_eq (plain header List.mem_cons_self).1 (plain header List.mem_cons_self).2
    have row := length_headerRow header
    have cut : lineBufferSize = 512 := rfl
    rw [List.map_cons, List.map_cons, List.flatten_cons, headerRows_cons, List.length_append, List.length_append,
      line, length_snprintf, row, cut]
    refine ⟨by omega, fun equal => ?_⟩
    rintro other member
    rcases List.mem_cons.1 member with rfl | later
    · omega
    · exact same (by omega) other later

theorem headerLines_eq (plain : ∀ header ∈ order, Inline header.1 ∧ Inline header.2)
    (fit : ∀ header ∈ order, header.1.length + header.2.length + 4 ≤ 511) :
    (order.map headerLine).flatten = headerRows (order.map spaced) := by
  rw [headerRows, List.map_map]
  refine congrArg List.flatten (List.map_congr_left fun header member => ?_)
  obtain ⟨name, value⟩ := plain header member
  rw [headerLine_eq name value, Function.comp_apply]
  refine Lib.snprintf_fits ?_
  rw [length_headerRow]
  exact Nat.lt_succ_of_le (fit header member)

theorem length_startLine (first second third : Bytes) :
    (first ++ ascii " " ++ second ++ ascii " " ++ third ++ crlf).length =
      first.length + second.length + third.length + 4 := by
  simp only [List.length_append, show (ascii " ").length = 1 from rfl, show crlf.length = 2 from rfl]
  omega

theorem startLine_eq (first second third : Bytes) :
    first ++ ascii " " ++ second ++ ascii " " ++ third ++ crlf =
      first ++ space :: (second ++ space :: (third ++ crlf)) := by
  simp only [List.append_assoc]
  rfl

theorem length_printed (first second third : Bytes) (order : List (Bytes × Bytes)) (body : Bytes) :
    (printedMessage first second third order body).length =
      min 511 (first.length + second.length + third.length + 4) + (order.map headerLine).flatten.length + 2 +
        body.length := by
  rw [printedMessage, List.length_append, List.length_append, List.length_append, length_snprintf, length_startLine]
  rfl

theorem length_whole (first second third : Bytes) (order : List (Bytes × Bytes)) (content : Bytes) :
    (wholeMessage first second third order content).length =
      (first.length + second.length + third.length + 4) + (headerRows (order.map spaced)).length + 2 +
        content.length := by
  rw [wholeMessage, ← startLine_eq, List.length_append, List.length_append, List.length_append, length_startLine]
  rfl

/-- What is printed is never longer than the message. -/
theorem length_printed_le (plain : ∀ header ∈ order, Inline header.1 ∧ Inline header.2)
    (part : body.length ≤ content.length) :
    (printedMessage first second third order body).length ≤ (wholeMessage first second third order content).length := by
  have lines := (length_headerLines plain).1
  rw [length_printed, length_whole]
  omega

/-- Lines that do not fit make the message shorter. -/
theorem printed_eq_whole_iff (plain : ∀ header ∈ order, Inline header.1 ∧ Inline header.2)
    (part : body = content ∨ body = []) :
    printedMessage first second third order body = wholeMessage first second third order content ↔
      LinesFit first second third order ∧ body = content := by
  have cut : lineBufferSize = 512 := rfl
  constructor
  · intro equal
    obtain ⟨shorter, same⟩ := length_headerLines plain
    have length := congrArg List.length equal
    rw [length_printed, length_whole] at length
    have bodyLength : body.length = content.length := by
      obtain rfl | rfl := part
      · rfl
      · rw [List.length_nil] at length ⊢
        omega
    refine ⟨⟨by omega, same (by omega)⟩, ?_⟩
    obtain whole | nothing := part
    · exact whole
    · rw [nothing, List.length_nil] at bodyLength
      rw [nothing, List.length_eq_zero_iff.1 bodyLength.symm]
  · rintro ⟨fit, rfl⟩
    have start : snprintf lineBufferSize (first ++ ascii " " ++ second ++ ascii " " ++ third ++ crlf) =
        first ++ space :: (second ++ space :: (third ++ crlf)) := by
      rw [← startLine_eq]
      refine Lib.snprintf_fits ?_
      rw [length_startLine, cut]
      exact Nat.lt_succ_of_le fit.1
    rw [printedMessage, wholeMessage, start, headerLines_eq plain fit.2]

end

/-! ## Lengths -/

namespace CoProtocolHttp

variable {message : CoProtocolHttp}

theorem decimal_injective {m n : Nat} (same : decimal m = decimal n) : m = n := by
  rw [← Lib.decimalValue_decimal m, same, Lib.decimalValue_decimal]

theorem Counted.positive (counted : message.Counted) (sent : message.contentLength > 0)
    (announced : decimalInt message.contentLength = decimal message.content.length) :
    message.content.length < 2 ^ 31 := by
  rw [decimalInt, if_neg (by omega)] at announced
  have same := decimal_injective announced
  have bounds := int32_bounds message.content.length
  rw [← counted] at bounds
  omega

theorem Counted.exact (counted : message.Counted) (small : message.content.length < 2 ^ 31) :
    message.contentLength = message.content.length := by
  rw [counted, int32_of_bounds] <;> omega

theorem decimalInt_exact (counted : message.Counted) (small : message.content.length < 2 ^ 31) :
    decimalInt message.contentLength = decimal message.content.length := by
  rw [counted.exact small, decimalInt, if_neg (by omega), Int.natAbs_natCast]

theorem sentBody_cases (message : CoProtocolHttp) : message.sentBody = message.content ∨ message.sentBody = [] := by
  rw [sentBody]
  split
  · exact .inl rfl
  · exact .inr rfl

theorem length_sentBody_le (message : CoProtocolHttp) : message.sentBody.length ≤ message.content.length := by
  obtain same | nothing := message.sentBody_cases
  · rw [same]
  · rw [nothing]
    exact Nat.zero_le _

/-- The body is sent and announced as it is if and only if its length is no more than an
    `int32_t` holds; `silent` is the header of a message without a body. -/
theorem Counted.announces_iff (counted : message.Counted) {headers : StringMap} {silent : Option Bytes}
    (zero : ∀ value, silent = some value → value = decimal 0)
    (lookup : headers.lookup headerContentLength =
      if message.contentLength > 0 then some (decimalInt message.contentLength) else silent) :
    message.sentBody = message.content ∧ AnnouncesLength headers message.content ↔
      message.content.length < 2 ^ 31 := by
  constructor
  · rintro ⟨whole, announced, -⟩
    by_cases sent : message.contentLength > 0
    · rw [if_pos sent] at lookup
      exact counted.positive sent (announced _ lookup)
    · rw [sentBody, if_neg sent] at whole
      rw [← whole]
      decide
  · intro small
    refine ⟨counted.sentBody_eq small, ?_, ?_⟩
    · intro value found
      rw [lookup] at found
      split at found
      · rw [← Option.some.inj found]
        exact decimalInt_exact counted small
      · rename_i unsent
        have exact := counted.exact small
        rw [zero value found, show message.content.length = 0 by omega]
    · intro some
      have exact := counted.exact small
      have positive := List.length_pos_iff.2 some
      exact ⟨_, lookup.trans (if_pos (by omega))⟩

end CoProtocolHttp

/-! ## Encoders -/

/-- Appending the rows of a message emits it if and only if the rows are its text. -/
theorem emits_iff {rows : List Bytes} {coBuffer : CoBuffer} {text content : Bytes} {headers : StringMap}
    {encoded : Option (Int × CoBuffer)} {memory : Nat → Block} (valid : coBuffer.Valid)
    (total : coBuffer.totalSize < 2 ^ 63) (room : coBuffer.region.length + text.length < 2 ^ 62)
    (shorter : rows.flatten.length ≤ text.length)
    (encodes : encoded = (appendAll (fun call => some (memory call)) 0 rows coBuffer).map (coOk, ·)) :
    Emits coBuffer text headers content encoded ↔ rows.flatten = text ∧ AnnouncesLength headers content := by
  obtain ⟨out, appended, -, region, -⟩ := @appendAll_region rows coBuffer memory 0 valid total (by omega)
  rw [appended] at encodes
  constructor
  · rintro ⟨⟨other, result, whole⟩, announced⟩
    cases encodes.symm.trans result
    exact ⟨List.append_cancel_left (region.symm.trans whole), announced⟩
  · rintro ⟨same, announced⟩
    exact ⟨⟨out, encodes, by rw [region, same]⟩, announced⟩

/-- Names and values that stay within their line. -/
def Plain (map : StringMap) : Prop := Everywhere (fun name value => Inline name ∧ Inline value) map

namespace CoProtocolHttpClient

/-- A request without NUL, CR and LF, whose body was set by the setters. -/
structure Plain (reqMsg : CoHTTPRequest) : Prop where
  method : Inline reqMsg.method
  url : Inline reqMsg.url
  version : Inline reqMsg.version
  headers : CoServer.Plain reqMsg.headers
  counted : reqMsg.Counted

/-- `encode` appends the request completely. -/
def EmitsRequest (client : CoProtocolHttpClient) (coBuffer : CoBuffer) (ipport : Bytes)
    (order : StringMap → List (Bytes × Bytes)) (memory : Nat → Block) : Prop :=
  Emits coBuffer
    (wholeMessage client.reqMsg.method client.reqMsg.url client.reqMsg.version
      (order (sentRequest client.reqMsg ipport).headers) client.reqMsg.content)
    (sentRequest client.reqMsg ipport).headers client.reqMsg.content
    ((client.encode coBuffer ipport order fun call => some (memory call)).map fun (ret, _, out) => (ret, out))

theorem encodeRows_flatten {reqMsg : CoHTTPRequest} (plain : Plain reqMsg) (ipport : Bytes)
    (order : List (Bytes × Bytes)) : (encodeRows (sentRequest reqMsg ipport) order).flatten =
      printedMessage reqMsg.method reqMsg.url reqMsg.version order reqMsg.sentBody := by
  have sent : (sentRequest reqMsg ipport).toCoProtocolHttp = sentHeaders reqMsg.toCoProtocolHttp ipport := rfl
  have body : (sentRequest reqMsg ipport).sentBody = reqMsg.sentBody := by
    rw [sent, sentHeaders_eq]
    rfl
  have version : (sentRequest reqMsg ipport).version = reqMsg.version := by
    rw [sent, sentHeaders_eq]
  rw [encodeRows, List.append_cons, flatten_body, body, version, List.flatten_append, List.flatten_cons,
    List.flatten_singleton, Lib.cstr_self plain.version.1]
  change snprintf _ (cstr reqMsg.method ++ ascii " " ++ cstr reqMsg.url ++ _ ++ _ ++ _) ++ _ ++ _ ++ _ = _
  rw [Lib.cstr_self plain.method.1, Lib.cstr_self plain.url.1]
  rfl

/-- A request is sent whole if and only if its lines fit into the line buffer and the
    length of its body fits into an `int32_t`. -/
theorem emitsRequest_iff {client : CoProtocolHttpClient} {coBuffer : CoBuffer} {ipport : Bytes}
    {order : StringMap → List (Bytes × Bytes)} {memory : Nat → Block} (plain : Plain client.reqMsg)
    (host : Inline ipport)
    (lists : Lists (order (sentRequest client.reqMsg ipport).headers) (sentRequest client.reqMsg ipport).headers)
    (valid : coBuffer.Valid) (total : coBuffer.totalSize < 2 ^ 63)
    (room : coBuffer.region.length + (wholeMessage client.reqMsg.method client.reqMsg.url client.reqMsg.version
      (order (sentRequest client.reqMsg ipport).headers) client.reqMsg.content).length < 2 ^ 62) :
    client.EmitsRequest coBuffer ipport order memory ↔
      LinesFit client.reqMsg.method client.reqMsg.url client.reqMsg.version
        (order (sentRequest client.reqMsg ipport).headers) ∧ client.reqMsg.content.length < 2 ^ 31 := by
  have headers : CoServer.Plain (sentRequest client.reqMsg ipport).headers :=
    sentHeaders_everywhere plain.headers (fun length => ⟨by decide, (decimalInt_inline length).1⟩)
      ⟨by decide, by decide⟩ ⟨by decide, host⟩
  have lines : ∀ header ∈ order (sentRequest client.reqMsg ipport).headers, Inline header.1 ∧ Inline header.2 :=
    fun header member => headers _ _ (lists.lookup_iff.mpr member)
  have text := encodeRows_flatten plain ipport (order (sentRequest client.reqMsg ipport).headers)
  have silent : ∀ value, (none : Option Bytes) = some value → value = decimal 0 := nofun
  have announces := plain.counted.announces_iff silent (sentHeaders_length client.reqMsg.toCoProtocolHttp ipport)
  have encodes : (client.encode coBuffer ipport order fun call => some (memory call)).map
        (fun (ret, _, out) => (ret, out)) = (appendAll (fun call => some (memory call)) 0 (encodeRows
          (sentRequest client.reqMsg ipport) (order (sentRequest client.reqMsg ipport).headers)) coBuffer).map
        (coOk, ·) := by
    rw [encode, Option.map_map]
    rfl
  rw [EmitsRequest, emits_iff valid total room (text ▸ length_printed_le lines client.reqMsg.length_sentBody_le) encodes,
    text, printed_eq_whole_iff lines client.reqMsg.sentBody_cases, and_assoc]
  exact and_congr_right fun _ => announces

end CoProtocolHttpClient

namespace CoProtocolHttpServer

/-- A response without NUL, CR and LF, whose body was set by the setters. -/
structure Plain (respMsg : CoHTTPResponse) : Prop where
  version : Inline respMsg.version
  headers : CoServer.Plain respMsg.headers
  counted : respMsg.Counted

/-- `encode` appends the response completely. -/
def EmitsResponse (server : CoProtocolHttpServer) (coBuffer : CoBuffer)
    (order : StringMap → List (Bytes × Bytes)) (memory : Nat → Block) : Prop :=
  Emits coBuffer
    (wholeMessage server.respMsg.version (decimalInt server.respMsg.statuscode) (statusLine server.respMsg.statuscode)
      (order (sentResponse server.respMsg).headers) server.respMsg.content)
    (sentResponse server.respMsg).headers server.respMsg.content
    ((server.encode coBuffer order fun call => some (memory call)).map fun (ret, _, out) => (ret, out))

theorem encodeRows_flatten {respMsg : CoHTTPResponse} (plain : Plain respMsg) (order : List (Bytes × Bytes)) :
    (encodeRows (sentResponse respMsg) order).flatten = printedMessage respMsg.version
      (decimalInt respMsg.statuscode) (statusLine respMsg.statuscode) order respMsg.sentBody := by
  have sent : (sentResponse respMsg).toCoProtocolHttp = sentHeaders respMsg.toCoProtocolHttp := rfl
  have body : (sentResponse respMsg).sentBody = respMsg.sentBody := by
    rw [sent, sentHeaders_eq]
    rfl
  have version : (sentResponse respMsg).version = respMsg.version := by
    rw [sent, sentHeaders_eq]
  rw [encodeRows, List.append_cons, flatten_body, body, version, List.flatten_append, List.flatten_cons,
    List.flatten_singleton, Lib.cstr_self plain.version.1]
  rfl

theorem emitsResponse_iff {server : CoProtocolHttpServer} {coBuffer : CoBuffer}
    {order : StringMap → List (Bytes × Bytes)} {memory : Nat → Block} (plain : Plain server.respMsg)
    (lists : Lists (order (sentResponse server.respMsg).headers) (sentResponse server.respMsg).headers)
    (valid : coBuffer.Valid) (total : coBuffer.totalSize < 2 ^ 63)
    (room : coBuffer.region.length + (wholeMessage server.respMsg.version (decimalInt server.respMsg.statuscode)
      (statusLine server.respMsg.statuscode) (order (sentResponse server.respMsg).headers)
      server.respMsg.content).length < 2 ^ 62) :
    server.EmitsResponse coBuffer order memory ↔
      LinesFit server.respMsg.version (decimalInt server.respMsg.statuscode) (statusLine server.respMsg.statuscode)
        (order (sentResponse server.respMsg).headers) ∧ server.respMsg.content.length < 2 ^ 31 := by
  have headers : CoServer.Plain (sentResponse server.respMsg).headers :=
    sentHeaders_everywhere plain.headers (fun length => ⟨by decide, (decimalInt_inline length).1⟩)
      ⟨by decide, by decide⟩
  have lines : ∀ header ∈ order (sentResponse server.respMsg).headers, Inline header.1 ∧ Inline header.2 :=
    fun header member => headers _ _ (lists.lookup_iff.mpr member)
  have text := encodeRows_flatten plain (order (sentResponse server.respMsg).headers)
  have silent : ∀ value, some (ascii "0") = some value → value = decimal 0 := by
    rintro value same
    rw [← Option.some.inj same]
    decide
  have lookup := sentHeaders_length server.respMsg.toCoProtocolHttp
  rw [apply_ite some] at lookup
  have announces := plain.counted.announces_iff silent lookup
  have encodes : (server.encode coBuffer order fun call => some (memory call)).map
        (fun (ret, _, out) => (ret, out)) = (appendAll (fun call => some (memory call)) 0 (encodeRows
          (sentResponse server.respMsg) (order (sentResponse server.respMsg).headers)) coBuffer).map (coOk, ·) := by
    rw [encode, Option.map_map]
    rfl
  rw [EmitsResponse, emits_iff valid total room
      (text ▸ length_printed_le lines server.respMsg.length_sentBody_le) encodes,
    text, printed_eq_whole_iff lines server.respMsg.sentBody_cases, and_assoc]
  exact and_congr_right fun _ => announces

end CoProtocolHttpServer

open CoProtocolHttpClient CoProtocolHttpServer in
/-- Both encoders send a message whole if and only if each of its lines fits into the line
    buffer and the length of its body fits into an `int32_t`. -/
theorem encoders_emit_iff {coBuffer : CoBuffer} {order : StringMap → List (Bytes × Bytes)}
    {memory : Nat → Block} (valid : coBuffer.Valid) (total : coBuffer.totalSize < 2 ^ 63) :
    (∀ (client : CoProtocolHttpClient) (ipport : Bytes),
      CoProtocolHttpClient.Plain client.reqMsg → Inline ipport →
      Lists (order (sentRequest client.reqMsg ipport).headers) (sentRequest client.reqMsg ipport).headers →
      coBuffer.region.length + (wholeMessage client.reqMsg.method client.reqMsg.url client.reqMsg.version
        (order (sentRequest client.reqMsg ipport).headers) client.reqMsg.content).length < 2 ^ 62 →
      (client.EmitsRequest coBuffer ipport order memory ↔
        LinesFit client.reqMsg.method client.reqMsg.url client.reqMsg.version
          (order (sentRequest client.reqMsg ipport).headers) ∧ client.reqMsg.content.length < 2 ^ 31)) ∧
    ∀ server : CoProtocolHttpServer, CoProtocolHttpServer.Plain server.respMsg →
      Lists (order (sentResponse server.respMsg).headers) (sentResponse server.respMsg).headers →
      coBuffer.region.length + (wholeMessage server.respMsg.version (decimalInt server.respMsg.statuscode)
        (statusLine server.respMsg.statuscode) (order (sentResponse server.respMsg).headers)
        server.respMsg.content).length < 2 ^ 62 →
      (server.EmitsResponse coBuffer order memory ↔
        LinesFit server.respMsg.version (decimalInt server.respMsg.statuscode) (statusLine server.respMsg.statuscode)
          (order (sentResponse server.respMsg).headers) ∧ server.respMsg.content.length < 2 ^ 31) :=
  ⟨fun _ _ plain host lists room => emitsRequest_iff plain host lists valid total room,
    fun _ plain lists room => emitsResponse_iff plain lists valid total room⟩

namespace CoProtocolHttpClient

/-- A request with the body "ok" is sent whole. -/
theorem encoders_emit_ok : ({ reqMsg := okRequest } : CoProtocolHttpClient).EmitsRequest {} (ascii "10.0.0.1:80")
    (fun _ => okOrder) (fun _ => ⟨4096, []⟩) :=
  ((encoders_emit_iff CoBuffer.valid_fresh (by decide)).1 { reqMsg := okRequest } (ascii "10.0.0.1:80")
    ⟨by decide, by decide, by decide, everywhere_empty, rfl⟩ (by decide)
    ⟨by decide, by decide +kernel⟩ (by decide +kernel)).2
    ⟨⟨by decide, by decide⟩, by decide⟩

/-- A client whose request has an url of 600 bytes. -/
def longClient : CoProtocolHttpClient := { reqMsg := { okRequest with url := List.replicate 600 97 } }

/-- Its start line is cut off. -/
theorem long_request_cut : ¬ ∀ (client : CoProtocolHttpClient) (coBuffer : CoBuffer) (ipport : Bytes)
    (order : StringMap → List (Bytes × Bytes)) (memory : Nat → Block), Plain client.reqMsg → Inline ipport →
    Lists (order (sentRequest client.reqMsg ipport).headers) (sentRequest client.reqMsg ipport).headers →
    coBuffer.Valid → coBuffer.totalSize < 2 ^ 63 →
    coBuffer.region.length + (wholeMessage client.reqMsg.method client.reqMsg.url client.reqMsg.version
      (order (sentRequest client.reqMsg ipport).headers) client.reqMsg.content).length < 2 ^ 62 →
    client.EmitsRequest coBuffer ipport order memory := by
  intro emits
  have url : Inline (List.replicate 600 97) := by
    refine ⟨?_, ?_, ?_⟩ <;> intro member <;> exact absurd (List.eq_of_mem_replicate member) (by decide)
  have length : longClient.reqMsg.url.length = 600 := List.length_replicate
  have plain : Plain longClient.reqMsg := ⟨by decide, url, by decide, everywhere_empty, rfl⟩
  have host : Inline (ascii "10.0.0.1:80") := by decide
  have lists : Lists okOrder (sentRequest longClient.reqMsg (ascii "10.0.0.1:80")).headers :=
    ⟨by decide, by decide +kernel⟩
  have room : ({} : CoBuffer).region.length + (wholeMessage longClient.reqMsg.method longClient.reqMsg.url
      longClient.reqMsg.version okOrder longClient.reqMsg.content).length < 2 ^ 62 := by
    have parts : ({} : CoBuffer).region.length = 0 ∧ longClient.reqMsg.method.length = 4 ∧
        longClient.reqMsg.version.length = 8 ∧ longClient.reqMsg.content.length = 2 ∧
        (headerRows (okOrder.map spaced)).length ≤ 100 := by decide +kernel
    rw [length_whole]
    omega
  have whole := emits longClient {} (ascii "10.0.0.1:80") (fun _ => okOrder) (fun _ => ⟨4096, []⟩)
    plain host lists CoBuffer.valid_fresh (by decide) room
  have fits : longClient.EmitsRequest {} (ascii "10.0.0.1:80") (fun _ => okOrder) (fun _ => ⟨4096, []⟩) ↔
      LinesFit longClient.reqMsg.method longClient.reqMsg.url longClient.reqMsg.version okOrder ∧
        longClient.reqMsg.content.length < 2 ^ 31 :=
    emitsRequest_iff plain host lists CoBuffer.valid_fresh (by decide) room
  obtain ⟨⟨short, -⟩, -⟩ := fits.1 whole
  omega

end CoProtocolHttpClient

end CoServer
