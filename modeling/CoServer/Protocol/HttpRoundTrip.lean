import CoServer.Protocol.HttpEncode

/-! # Round trips

The text of a sent message is a `RawMessage`, framed by the Content-Length that
the encoder wrote, so the decoder of the other side reads it back.  What comes
back is the body that was sent: a body whose length does not fit in an `int32_t`
is not. -/

namespace CoServer

open Lib (ascii cstr decimalInt snprintf)

/-! ## Sent text -/

/-- A line that the encoders can print into their buffer. -/
def LinesFit (first second third : Bytes) (order : List (Bytes × Bytes)) : Prop :=
  first.length + second.length + third.length + 4 ≤ 511 ∧
    ∀ header ∈ order, header.1.length + header.2.length + 4 ≤ 511

/-- The length that the headers give a body. -/
structure Announces (order : List (Bytes × Bytes)) (body : Bytes) : Prop where
  length : ∀ value, (headerContentLength, value) ∈ order → SpellsLength (space :: value) body.length
  bodiless : (∀ value, (headerContentLength, value) ∉ order) → body = []

theorem inline_spaced {value : Bytes} (hvalue : Inline value) : Inline (space :: value) := by
  have hzero : (0 : UInt8) ≠ space := by decide
  have hcr : cr ≠ space := by decide
  have hlf : lf ≠ space := by decide
  simp only [Inline, List.mem_cons, not_or]
  exact ⟨⟨hzero, hvalue.1⟩, ⟨hcr, hvalue.2.1⟩, hlf, hvalue.2.2⟩

section
variable {first second third body : Bytes} {order : List (Bytes × Bytes)}

/-- A message with these fields, headers and body. -/
def sentText (hfirst : Inline first ∧ space ∉ first) (hsecond : Inline second ∧ space ∉ second)
    (hthird : Inline third ∧ third ≠ []) (hfields : ∀ header ∈ order, HeaderField header.1 header.2) (body : Bytes) :
    RawMessage where
  first := first
  second := second
  third := third
  headers := order.map spaced
  body := body
  firstInline := hfirst.1
  firstWord := hfirst.2
  secondInline := hsecond.1
  secondWord := hsecond.2
  thirdInline := hthird.1
  thirdNonempty := hthird.2
  namesInline := by
    intro header hmem
    obtain ⟨sent, hsent, rfl⟩ := List.mem_map.mp hmem
    exact ⟨(hfields sent hsent).nameInline, (hfields sent hsent).noColon⟩
  valuesInline := by
    intro header hmem
    obtain ⟨sent, hsent, rfl⟩ := List.mem_map.mp hmem
    exact inline_spaced (hfields sent hsent).valueInline

variable (hfirst : Inline first ∧ space ∉ first) (hsecond : Inline second ∧ space ∉ second)
  (hthird : Inline third ∧ third ≠ []) (hfields : ∀ header ∈ order, HeaderField header.1 header.2)

theorem sentText_framed (hannounces : Announces order body) :
    (sentText hfirst hsecond hthird hfields body).Framed where
  length := by
    intro header hmem hname
    obtain ⟨sent, hsent, rfl⟩ := List.mem_map.mp hmem
    have hsentName : sent.1 = headerContentLength := hname
    exact hannounces.length sent.2 (by rw [← hsentName]; exact hsent)
  bodiless := by
    intro hnone
    apply hannounces.bodiless
    intro value hmem
    exact hnone (spaced (headerContentLength, value)) (List.mem_map.mpr ⟨_, hmem, rfl⟩) rfl

/-- The rows that are appended for a message. -/
theorem sentText_bytes (hfit : LinesFit first second third order) :
    (snprintf lineBufferSize (cstr first ++ ascii " " ++ cstr second ++ ascii " " ++ cstr third ++ crlf) ::
      order.map headerLine ++ [crlf]).flatten ++ body = (sentText hfirst hsecond hthird hfields body).bytes := by
  have hstart : snprintf lineBufferSize (cstr first ++ ascii " " ++ cstr second ++ ascii " " ++ cstr third ++ crlf) =
      (sentText hfirst hsecond hthird hfields body).startLine := by
    rw [Lib.cstr_self hfirst.1.1, Lib.cstr_self hsecond.1.1, Lib.cstr_self hthird.1.1, Lib.snprintf_fits]
    · simp only [RawMessage.startLine, sentText, List.append_assoc]
      rfl
    · have hlength := hfit.1
      simp only [lineBufferSize, List.length_append, ascii, crlf]
      simp
      omega
  have hrows : (order.map headerLine).flatten = headerRows (order.map spaced) := by
    rw [headerRows, List.map_map]
    congr 1
    apply List.map_congr_left
    intro header hmem
    have hfield := hfields header hmem
    have hlength := hfit.2 header hmem
    apply headerLine_fits hfield.nameInline.1 hfield.valueInline.1
    simp only [headerRow, spaced, crlf, lineBufferSize, List.length_append, List.length_cons, List.length_nil]
    omega
  rw [hstart, List.flatten_append, List.flatten_cons, hrows, List.flatten_singleton]
  rfl

/-- The header map is read back as it was sent. -/
theorem sentText_headers {map : StringMap} (horder : Lists order map) :
    (sentText hfirst hsecond hthird hfields body).headers.foldl insertRow ∅ = map := by
  rw [← horder.complete]
  exact insertRows_sent fun header hmem => (hfields header hmem).noSpace

end

/-- The body as it stands behind the headers. -/
theorem flatten_body (rows : List Bytes) (message : CoProtocolHttp) :
    (rows ++ if message.contentLength > 0 then [message.content] else []).flatten = rows.flatten ++ message.sentBody := by
  rw [List.flatten_append, CoProtocolHttp.sentBody]
  split
  · rw [List.flatten_singleton]
  · rfl

/-! ## Requests -/

namespace CoProtocolHttpClient

/-- A request that can be sent. -/
structure Sendable (reqMsg : CoHTTPRequest) : Prop where
  method : Inline reqMsg.method ∧ space ∉ reqMsg.method
  url : Inline reqMsg.url ∧ space ∉ reqMsg.url
  version : Inline reqMsg.version ∧ reqMsg.version ≠ []
  headers : HeaderFields reqMsg.headers
  counted : reqMsg.Counted

/-- The request as `encode` leaves it. -/
def sentRequest (reqMsg : CoHTTPRequest) (ipport : Bytes) : CoHTTPRequest :=
  { reqMsg with toCoProtocolHttp := sentHeaders reqMsg.toCoProtocolHttp ipport }

section
variable {message : CoProtocolHttp} {ipport : Bytes}

/-- Only the headers are changed. -/
theorem sentHeaders_eq (message : CoProtocolHttp) (ipport : Bytes) :
    sentHeaders message ipport = { message with headers := (sentHeaders message ipport).headers } := by
  simp only [sentHeaders]
  split
  · split
    · rfl
    · rfl
  · split
    · rfl
    · rfl

/-- What holds of the headers of a message and of the headers that `encode` adds. -/
theorem sentHeaders_everywhere {holds : Bytes → Bytes → Prop} (everywhere : Everywhere holds message.headers)
    (hlength : ∀ length, holds headerContentLength (decimalInt length))
    (hserver : holds headerServer (ascii "coserver/http")) (hhost : holds headerHost ipport) :
    Everywhere holds (sentHeaders message ipport).headers := by
  simp only [sentHeaders]
  split
  · split
    · exact ((everywhere.erase.insert (hlength _)).erase.insert hserver).insert hhost
    · exact (everywhere.erase.insert (hlength _)).erase.insert hserver
  · split
    · exact (everywhere.erase.erase.insert hserver).insert hhost
    · exact everywhere.erase.erase.insert hserver

theorem sentHeaders_fields (hfields : HeaderFields message.headers) (hhost : HeaderField headerHost ipport) :
    HeaderFields (sentHeaders message ipport).headers :=
  sentHeaders_everywhere hfields decimalInt_field ⟨by decide, by decide, by decide, by decide⟩ hhost

theorem sentHeaders_length (message : CoProtocolHttp) (ipport : Bytes) :
    (sentHeaders message ipport).headers.lookup headerContentLength =
      if message.contentLength > 0 then some (decimalInt message.contentLength) else none := by
  have hserver : headerContentLength ≠ headerServer := by decide
  have hhost : headerContentLength ≠ headerHost := by decide
  have hadded : ∀ sent : CoProtocolHttp, ((sent.removeHeader headerServer).addHeader headerServer
      (ascii "coserver/http")).headers.lookup headerContentLength = sent.headers.lookup headerContentLength := by
    intro sent
    rw [CoProtocolHttp.addHeader, Finmap.lookup_insert_of_ne _ hserver]
    exact Finmap.lookup_erase_ne hserver
  have hlength : (if message.contentLength > 0 then (message.removeHeader headerContentLength).addHeader
        headerContentLength (decimalInt message.contentLength)
      else message.removeHeader headerContentLength).headers.lookup headerContentLength =
      if message.contentLength > 0 then some (decimalInt message.contentLength) else none := by
    split
    · exact Finmap.lookup_insert _
    · exact Finmap.lookup_erase _ _
  have hhosted : ∀ (condition : Bool) (sent : CoProtocolHttp),
      (if condition then sent.addHeader headerHost ipport else sent).headers.lookup headerContentLength =
        sent.headers.lookup headerContentLength := by
    intro condition sent
    split
    · exact Finmap.lookup_insert_of_ne _ hhost
    · rfl
  exact (hhosted _ _).trans ((hadded _).trans hlength)

theorem announces (hcounted : message.Counted) (hsmall : message.sentBody.length < 2 ^ 31)
    {order : List (Bytes × Bytes)} (horder : Lists order (sentHeaders message ipport).headers) :
    Announces order message.sentBody where
  length := by
    intro value hmem
    have hlookup := horder.lookup_iff.mpr hmem
    rw [sentHeaders_length] at hlookup
    split at hlookup
    · rename_i hpositive
      cases hlookup
      exact spellsLength_decimalInt (hcounted.length hsmall hpositive)
    · cases hlookup
  bodiless := by
    intro hnone
    rw [CoProtocolHttp.sentBody]
    split
    · rename_i hpositive
      have hlookup := sentHeaders_length message ipport
      rw [if_pos hpositive] at hlookup
      exact absurd (horder.lookup_iff.mp hlookup) (hnone _)
    · rfl

end

/-- One `decode` call on the encoded request and a tail gives the request with this
    body and leaves the tail. -/
def RoundTrips (client : CoProtocolHttpClient) (ipport : Bytes) (order : List (Bytes × Bytes)) (memory : Nat → Block)
    (tail body : Bytes) : Prop :=
  ∃ out, client.encode {} ipport (fun _ => order) (fun call => some (memory call)) =
      some (coOk, { client with reqMsg := sentRequest client.reqMsg ipport }, out) ∧
    out.region = (encodeRows (sentRequest client.reqMsg ipport) order).flatten ∧
    ∀ received : CoBuffer, received.Valid → received.region = out.region ++ tail →
      ∃ server left, CoProtocolHttpServer.decode {} received = some (coOk, server, left) ∧
        server.reqMsg.method = client.reqMsg.method ∧ server.reqMsg.url = client.reqMsg.url ∧
        server.reqMsg.version = client.reqMsg.version ∧
        server.reqMsg.headers = (sentRequest client.reqMsg ipport).headers ∧ server.reqMsg.content = body ∧
        left.region = tail

/-- What is sent comes back. -/
theorem roundTrips_sentBody {client : CoProtocolHttpClient} {ipport : Bytes} {order : List (Bytes × Bytes)}
    (memory : Nat → Block) {tail : Bytes} (hsendable : Sendable client.reqMsg) (hhost : HeaderField headerHost ipport)
    (horder : Lists order (sentRequest client.reqMsg ipport).headers)
    (hfit : LinesFit client.reqMsg.method client.reqMsg.url client.reqMsg.version order)
    (hsize : (encodeRows (sentRequest client.reqMsg ipport) order).flatten.length + tail.length ≤ 8192) :
    RoundTrips client ipport order memory tail client.reqMsg.sentBody := by
  have hfields : ∀ header ∈ order, HeaderField header.1 header.2 := fun header hmem =>
    sentHeaders_fields hsendable.headers hhost _ _ (horder.lookup_iff.mpr hmem)
  let raw := sentText hsendable.method hsendable.url hsendable.version hfields client.reqMsg.sentBody
  have hbytes : (encodeRows (sentRequest client.reqMsg ipport) order).flatten = raw.bytes := by
    have hsent : (sentRequest client.reqMsg ipport).toCoProtocolHttp = sentHeaders client.reqMsg.toCoProtocolHttp ipport := rfl
    have hbody : (sentRequest client.reqMsg ipport).sentBody = client.reqMsg.sentBody := by
      rw [hsent, sentHeaders_eq]
      rfl
    have hversion : (sentRequest client.reqMsg ipport).version = client.reqMsg.version := by
      rw [hsent, sentHeaders_eq]
    rw [encodeRows, List.append_cons, flatten_body, hbody, hversion]
    exact sentText_bytes hsendable.method hsendable.url hsendable.version hfields hfit
  have hsmall : raw.bytes.length ≤ 8192 := by
    rw [← hbytes]
    omega
  have hbodySmall : raw.body.length < 2 ^ 31 := by
    rw [RawMessage.bytes, List.length_append] at hsmall
    omega
  -- what is sent announces its own length
  have hframed : raw.Framed := sentText_framed _ _ _ hfields (announces hsendable.counted hbodySmall horder)
  obtain ⟨out, happend, hvalid, hregion, -⟩ := @appendAll_region (encodeRows (sentRequest client.reqMsg ipport) order) {}
    memory 0 CoBuffer.valid_fresh (by decide) (by rw [hbytes]; simp only [CoBuffer.region_fresh, List.length_nil]; omega)
  rw [CoBuffer.region_fresh, List.nil_append] at hregion
  refine ⟨out, ?_, hregion, ?_⟩
  · have hencode : client.encode {} ipport (fun _ => order) (fun call => some (memory call)) =
        (appendAll (fun call => some (memory call)) 0 (encodeRows (sentRequest client.reqMsg ipport) order) {}).map
          fun coBuffer => (coOk, { client with reqMsg := sentRequest client.reqMsg ipport }, coBuffer) := rfl
    rw [hencode, happend]
    rfl
  · intro received hreceived hall
    rw [hregion, hbytes] at hall
    -- the server reads the text up to its end, and leaves the tail
    have hread := hframed.serverRead.reads_complete CoProtocolHttpServer.lawful not_false hbodySmall tail
    rw [← hall] at hread
    have hlimit : received.region.length ≤ 8192 := by
      rw [hall, List.length_append, ← hbytes]
      exact hsize
    have hopen : (CoProtocolHttpServer.side.base {}).parseStatus ≠ .eCompleted ∧
        (CoProtocolHttpServer.side.base {}).parseStatus ≠ .eError := by decide
    obtain ⟨left, hdecode, _, hleft⟩ := CoProtocolHttpServer.lawful.decode_complete hreceived hlimit hopen hread rfl
    refine ⟨{ reqMsg := raw.request }, left, ?_, rfl, rfl, rfl, ?_, rfl, hleft⟩
    · have hside : CoProtocolHttpServer.decode {} received = (CoProtocolHttpServer.side.decode {} received).map
          fun decoded => (decoded.1, { reqMsg := decoded.2.1 }, decoded.2.2) := rfl
      rw [hside, hdecode]
      rfl
    · exact sentText_headers _ _ _ hfields horder

/-- A request whose body is shorter than 2^31 bytes comes back from the server's
    decoder as it was, with the headers that the encoder sent. -/
theorem request_round_trip (client : CoProtocolHttpClient) (ipport : Bytes) (order : List (Bytes × Bytes))
    (memory : Nat → Block) (tail : Bytes) (hsendable : Sendable client.reqMsg) (hhost : HeaderField headerHost ipport)
    (horder : Lists order (sentRequest client.reqMsg ipport).headers)
    (hfit : LinesFit client.reqMsg.method client.reqMsg.url client.reqMsg.version order)
    (hsize : (encodeRows (sentRequest client.reqMsg ipport) order).flatten.length + tail.length ≤ 8192)
    (hbody : client.reqMsg.content.length < 2 ^ 31) :
    RoundTrips client ipport order memory tail client.reqMsg.content := by
  rw [← hsendable.counted.sentBody_eq hbody]
  exact roundTrips_sentBody memory hsendable hhost horder hfit hsize

/-- A request with the body "ok", and the order in which its headers are sent. -/
def okRequest : CoHTTPRequest :=
  { method := ascii "POST", url := ascii "/a?b=c", toCoProtocolHttp := ({} : CoProtocolHttp).setMsgbody (ascii "ok") }

def okOrder : List (Bytes × Bytes) :=
  [(headerHost, ascii "10.0.0.1:80"), (headerContentLength, ascii "2"), (headerServer, ascii "coserver/http")]

theorem request_round_trip_ok : RoundTrips { reqMsg := okRequest } (ascii "10.0.0.1:80") okOrder (fun _ => ⟨4096, []⟩)
    (ascii "GET") (ascii "ok") :=
  request_round_trip { reqMsg := okRequest } (ascii "10.0.0.1:80") okOrder (fun _ => ⟨4096, []⟩) (ascii "GET")
    ⟨by decide, by decide, by decide, headerFields_empty, rfl⟩ ⟨by decide, by decide, by decide, by decide⟩
    ⟨by decide, by decide +kernel⟩ ⟨by decide, by decide⟩ (by decide +kernel) (by decide)

/-- Only one body comes back. -/
theorem RoundTrips.body_unique {client : CoProtocolHttpClient} {ipport tail first second : Bytes}
    {order : List (Bytes × Bytes)} {memory : Nat → Block} (hfirst : RoundTrips client ipport order memory tail first)
    (hsecond : RoundTrips client ipport order memory tail second)
    (hsize : (encodeRows (sentRequest client.reqMsg ipport) order).flatten.length + tail.length ≤ 8192) :
    first = second := by
  obtain ⟨out, hencode, hregion, hdecodes⟩ := hfirst
  obtain ⟨other, hencode', _, hdecodes'⟩ := hsecond
  rw [hencode] at hencode'
  cases hencode'
  have hroom : (out.region ++ tail).length < 2 ^ 62 := by
    rw [hregion, List.length_append]
    omega
  obtain ⟨received, hvalid, hreceived⟩ := exists_buffer hroom
  obtain ⟨server, left, hdecode, _, _, _, _, hbody, _⟩ := hdecodes received hvalid hreceived
  obtain ⟨server', left', hdecode', _, _, _, _, hbody', _⟩ := hdecodes' received hvalid hreceived
  rw [hdecode] at hdecode'
  cases hdecode'
  rw [← hbody, hbody']

/-- A request with no headers of its own. -/
def bareRequest (body : Bytes) : CoHTTPRequest :=
  { method := ascii "GET", url := ascii "/", toCoProtocolHttp := ({} : CoProtocolHttp).setMsgbody body }

def bareOrder : List (Bytes × Bytes) := [(headerServer, ascii "coserver/http"), (headerHost, ascii "10.0.0.1:80")]

/-- The headers of a bare request without a body that is sent. -/
theorem bareRequest_sent {body : Bytes} (hlength : ¬(bareRequest body).contentLength > 0) :
    sentRequest (bareRequest body) (ascii "10.0.0.1:80") =
      { bareRequest body with headers := mapOf bareOrder } := by
  have hremoved : ¬((bareRequest body).removeHeader headerContentLength).contentLength > 0 := hlength
  simp only [sentRequest, sentHeaders]
  rw [if_neg hremoved, if_pos]
  · have hheaders : (((∅ : StringMap).erase headerContentLength).erase headerServer).insert headerServer
        (ascii "coserver/http") = mapOf [(headerServer, ascii "coserver/http")] := by decide +kernel
    have hsplit : bareOrder = [(headerServer, ascii "coserver/http")] ++ [(headerHost, ascii "10.0.0.1:80")] := rfl
    rw [hsplit, mapOf_append_singleton, ← hheaders]
    rfl
  · have hmissing : (((((∅ : StringMap).erase headerContentLength).erase headerServer).insert headerServer
        (ascii "coserver/http")).lookup headerHost).getD [] = [] := by decide +kernel
    rw [List.isEmpty_iff]
    exact hmissing

/-- The length of a body of 2^31 bytes is negative for the encoder, which leaves
    the body out. -/
theorem not_roundTrips_huge {body : Bytes} (hcount : body.length = 2 ^ 31) :
    Sendable (bareRequest body) ∧ HeaderField headerHost (ascii "10.0.0.1:80") ∧
    Lists bareOrder (sentRequest (bareRequest body) (ascii "10.0.0.1:80")).headers ∧
    LinesFit (ascii "GET") (ascii "/") (ascii "HTTP/1.1") bareOrder ∧
    (encodeRows (sentRequest (bareRequest body) (ascii "10.0.0.1:80")) bareOrder).flatten.length ≤ 8192 ∧
    ¬RoundTrips { reqMsg := bareRequest body } (ascii "10.0.0.1:80") bareOrder (fun _ => ⟨4096, []⟩) [] body := by
  have hcounted : (bareRequest body).Counted := rfl
  have hlength := hcounted.sentBody_huge hcount
  have hsent := bareRequest_sent hlength
  have hsendable : Sendable (bareRequest body) :=
    ⟨show Inline (ascii "GET") ∧ space ∉ ascii "GET" by decide, show Inline (ascii "/") ∧ space ∉ ascii "/" by decide,
      show Inline (ascii "HTTP/1.1") ∧ ascii "HTTP/1.1" ≠ [] by decide, headerFields_empty, rfl⟩
  have hhost : HeaderField headerHost (ascii "10.0.0.1:80") := ⟨by decide, by decide, by decide, by decide⟩
  have horder : Lists bareOrder (sentRequest (bareRequest body) (ascii "10.0.0.1:80")).headers := by
    rw [hsent]
    exact ⟨by decide, rfl⟩
  have hfit : LinesFit (ascii "GET") (ascii "/") (ascii "HTTP/1.1") bareOrder := ⟨by decide, by decide⟩
  have hsize : (encodeRows (sentRequest (bareRequest body) (ascii "10.0.0.1:80")) bareOrder).flatten.length ≤ 8192 := by
    rw [hsent, encodeRows, List.append_cons, flatten_body, CoProtocolHttp.sentBody, if_neg hlength, List.append_nil]
    show (snprintf lineBufferSize (cstr (ascii "GET") ++ ascii " " ++ cstr (ascii "/") ++ ascii " " ++
      cstr (ascii "HTTP/1.1") ++ crlf) :: bareOrder.map headerLine ++ [crlf]).flatten.length ≤ 8192
    decide
  refine ⟨hsendable, hhost, horder, hfit, hsize, ?_⟩
  intro htrips
  have hback : RoundTrips { reqMsg := bareRequest body } (ascii "10.0.0.1:80") bareOrder (fun _ => ⟨4096, []⟩) []
      (bareRequest body).sentBody := roundTrips_sentBody _ hsendable hhost horder hfit hsize
  have hnil := htrips.body_unique hback hsize
  rw [CoProtocolHttp.sentBody, if_neg hlength] at hnil
  rw [hnil, List.length_nil] at hcount
  exact absurd hcount (by decide)

theorem huge_request_not_sent :
    Sendable (bareRequest (List.replicate (2 ^ 31) 0)) ∧ HeaderField headerHost (ascii "10.0.0.1:80") ∧
    Lists bareOrder (sentRequest (bareRequest (List.replicate (2 ^ 31) 0)) (ascii "10.0.0.1:80")).headers ∧
    LinesFit (ascii "GET") (ascii "/") (ascii "HTTP/1.1") bareOrder ∧
    (encodeRows (sentRequest (bareRequest (List.replicate (2 ^ 31) 0)) (ascii "10.0.0.1:80")) bareOrder).flatten.length ≤
      8192 ∧
    ¬RoundTrips { reqMsg := bareRequest (List.replicate (2 ^ 31) 0) } (ascii "10.0.0.1:80") bareOrder
      (fun _ => ⟨4096, []⟩) [] (List.replicate (2 ^ 31) 0) := by
  have hcount : (List.replicate (2 ^ 31) (0 : UInt8)).length = 2 ^ 31 := List.length_replicate
  have hall := not_roundTrips_huge hcount
  exact hall

end CoProtocolHttpClient

/-! ## Responses -/

theorem statusLine_text (statuscode : Int) : Inline (statusLine statuscode) ∧ statusLine statuscode ≠ [] := by
  have htable : ∀ line ∈ httpStatusLines, Inline line.2 ∧ line.2 ≠ [] := by decide +kernel
  rw [statusLine]
  cases hlookup : httpStatusLines.lookup statuscode with
  | none => exact htable (500, ascii "Internal Server Error") (by decide)
  | some text =>
    obtain ⟨front, back, hsplit, _⟩ := List.lookup_eq_some_iff.mp hlookup
    exact htable (statuscode, text) (by rw [hsplit]; exact List.mem_append_right _ List.mem_cons_self)

namespace CoProtocolHttpServer

/-- A response that can be sent. -/
structure Sendable (respMsg : CoHTTPResponse) : Prop where
  version : Inline respMsg.version ∧ space ∉ respMsg.version
  http : ascii "HTTP" <+: respMsg.version
  statuscode : -2 ^ 31 ≤ respMsg.statuscode ∧ respMsg.statuscode < 2 ^ 31
  headers : HeaderFields respMsg.headers
  counted : respMsg.Counted

/-- The response as `encode` leaves it. -/
def sentResponse (respMsg : CoHTTPResponse) : CoHTTPResponse :=
  { respMsg with toCoProtocolHttp := sentHeaders respMsg.toCoProtocolHttp }

section
variable {message : CoProtocolHttp}

/-- Only the headers are changed. -/
theorem sentHeaders_eq (message : CoProtocolHttp) :
    sentHeaders message = { message with headers := (sentHeaders message).headers } := by
  simp only [sentHeaders]
  split
  · rfl
  · rfl

theorem sentHeaders_everywhere {holds : Bytes → Bytes → Prop} (everywhere : Everywhere holds message.headers)
    (hlength : ∀ length, holds headerContentLength (decimalInt length))
    (hserver : holds headerServer (ascii "coserver/http")) : Everywhere holds (sentHeaders message).headers := by
  have hzero : holds headerContentLength (ascii "0") := hlength 0
  simp only [sentHeaders]
  split
  · exact (everywhere.erase.insert (hlength _)).erase.insert hserver
  · exact (everywhere.erase.insert hzero).erase.insert hserver

theorem sentHeaders_fields (hfields : HeaderFields message.headers) : HeaderFields (sentHeaders message).headers :=
  sentHeaders_everywhere hfields decimalInt_field ⟨by decide, by decide, by decide, by decide⟩

theorem sentHeaders_length (message : CoProtocolHttp) : (sentHeaders message).headers.lookup headerContentLength =
    some (if message.contentLength > 0 then decimalInt message.contentLength else ascii "0") := by
  have hserver : headerContentLength ≠ headerServer := by decide
  have hlength : (if message.contentLength > 0 then (message.removeHeader headerContentLength).addHeader
        headerContentLength (decimalInt message.contentLength)
      else (message.removeHeader headerContentLength).addHeader headerContentLength (ascii "0")).headers.lookup
        headerContentLength = some (if message.contentLength > 0 then decimalInt message.contentLength else ascii "0") := by
    split
    · exact Finmap.lookup_insert _
    · exact Finmap.lookup_insert _
  rw [← hlength]
  exact (Finmap.lookup_insert_of_ne _ hserver).trans (Finmap.lookup_erase_ne hserver)

theorem announces (hcounted : message.Counted) (hsmall : message.sentBody.length < 2 ^ 31)
    {order : List (Bytes × Bytes)} (horder : Lists order (sentHeaders message).headers) :
    Announces order message.sentBody where
  length := by
    intro value hmem
    have hlookup := horder.lookup_iff.mpr hmem
    rw [sentHeaders_length] at hlookup
    cases hlookup
    split
    · rename_i hpositive
      exact spellsLength_decimalInt (hcounted.length hsmall hpositive)
    · rename_i hzero
      rw [CoProtocolHttp.sentBody, if_neg hzero]
      exact @spellsLength_decimalInt 0 0 rfl
  bodiless := by
    intro hnone
    exact absurd (horder.lookup_iff.mp (sentHeaders_length message)) (hnone _)

end

/-- One `decode` call on the encoded response and a tail gives the response with
    this body and leaves the tail. -/
def RoundTrips (server : CoProtocolHttpServer) (order : List (Bytes × Bytes)) (memory : Nat → Block)
    (tail body : Bytes) : Prop :=
  ∃ out, server.encode {} (fun _ => order) (fun call => some (memory call)) =
      some (coOk, { server with respMsg := sentResponse server.respMsg }, out) ∧
    out.region = (encodeRows (sentResponse server.respMsg) order).flatten ∧
    ∀ received : CoBuffer, received.Valid → received.region = out.region ++ tail →
      ∃ client left, CoProtocolHttpClient.decode {} received = some (coOk, client, left) ∧
        client.respMsg.version = server.respMsg.version ∧ client.respMsg.statuscode = server.respMsg.statuscode ∧
        client.respMsg.reasonPhrase = statusLine server.respMsg.statuscode ∧
        client.respMsg.headers = (sentResponse server.respMsg).headers ∧ client.respMsg.content = body ∧
        left.region = tail

/-- What is sent comes back. -/
theorem roundTrips_sentBody {server : CoProtocolHttpServer} {order : List (Bytes × Bytes)} (memory : Nat → Block)
    {tail : Bytes} (hsendable : Sendable server.respMsg) (horder : Lists order (sentResponse server.respMsg).headers)
    (hfit : LinesFit server.respMsg.version (decimalInt server.respMsg.statuscode)
      (statusLine server.respMsg.statuscode) order)
    (hsize : (encodeRows (sentResponse server.respMsg) order).flatten.length + tail.length ≤ 8192) :
    RoundTrips server order memory tail server.respMsg.sentBody := by
  have hfields : ∀ header ∈ order, HeaderField header.1 header.2 := fun header hmem =>
    sentHeaders_fields hsendable.headers _ _ (horder.lookup_iff.mpr hmem)
  let raw := sentText hsendable.version (decimalInt_inline server.respMsg.statuscode)
    (statusLine_text server.respMsg.statuscode) hfields server.respMsg.sentBody
  have hbytes : (encodeRows (sentResponse server.respMsg) order).flatten = raw.bytes := by
    have hsent : (sentResponse server.respMsg).toCoProtocolHttp = sentHeaders server.respMsg.toCoProtocolHttp := rfl
    have hbody : (sentResponse server.respMsg).sentBody = server.respMsg.sentBody := by
      rw [hsent, sentHeaders_eq]
      rfl
    have hversion : (sentResponse server.respMsg).version = server.respMsg.version := by
      rw [hsent, sentHeaders_eq]
    have htext := @sentText_bytes _ _ _ server.respMsg.sentBody _ hsendable.version
      (decimalInt_inline server.respMsg.statuscode) (statusLine_text server.respMsg.statuscode) hfields hfit
    rw [Lib.cstr_self (decimalInt_inline _).1.1, Lib.cstr_self (statusLine_text _).1.1] at htext
    rw [encodeRows, List.append_cons, flatten_body, hbody, hversion]
    exact htext
  have hsmall : raw.bytes.length ≤ 8192 := by
    rw [← hbytes]
    omega
  have hbodySmall : raw.body.length < 2 ^ 31 := by
    rw [RawMessage.bytes, List.length_append] at hsmall
    omega
  have hframed : raw.Framed := sentText_framed _ _ _ hfields (announces hsendable.counted hbodySmall horder)
  have hresponse : raw.IsResponse := by
    obtain ⟨rest, hrest⟩ := hsendable.http
    have hfirst : raw.first = ascii "HTTP" ++ rest := hrest.symm
    rw [RawMessage.IsResponse, hfirst]
    rfl
  -- whatever Transfer-Encoding says, there is a Content-Length
  have hchunked : ¬raw.IsChunked := by
    intro hchunked
    have hmem := horder.lookup_iff.mp (sentHeaders_length server.respMsg.toCoProtocolHttp)
    exact hchunked.1 _ (List.mem_map.mpr ⟨_, hmem, rfl⟩) rfl
  obtain ⟨out, happend, hvalid, hregion, -⟩ := @appendAll_region (encodeRows (sentResponse server.respMsg) order) {}
    memory 0 CoBuffer.valid_fresh (by decide) (by rw [hbytes]; simp only [CoBuffer.region_fresh, List.length_nil]; omega)
  rw [CoBuffer.region_fresh, List.nil_append] at hregion
  refine ⟨out, ?_, hregion, ?_⟩
  · have hencode : server.encode {} (fun _ => order) (fun call => some (memory call)) =
        (appendAll (fun call => some (memory call)) 0 (encodeRows (sentResponse server.respMsg) order) {}).map
          fun coBuffer => (coOk, { server with respMsg := sentResponse server.respMsg }, coBuffer) := rfl
    rw [hencode, happend]
    rfl
  · intro received hreceived hall
    rw [hregion, hbytes] at hall
    have hstart : raw.responseStart = some (raw.responseLine {}) := if_pos hresponse
    have hread := hframed.clientRead
    rw [hstart] at hread
    have hreads := hread.reads_complete CoProtocolHttpClient.lawful hchunked hbodySmall tail
    rw [← hall] at hreads
    have hlimit : received.region.length ≤ 8192 := by
      rw [hall, List.length_append, ← hbytes]
      exact hsize
    have hopen : (CoProtocolHttpClient.side.base {}).parseStatus ≠ .eCompleted ∧
        (CoProtocolHttpClient.side.base {}).parseStatus ≠ .eError := by decide
    obtain ⟨left, hdecode, _, hleft⟩ :=
      CoProtocolHttpClient.lawful.decode_complete hreceived hlimit hopen hreads rfl
    refine ⟨{ respMsg := raw.response }, left, ?_, rfl, ?_, rfl, ?_, rfl, hleft⟩
    · have hside : CoProtocolHttpClient.decode {} received = (CoProtocolHttpClient.side.decode {} received).map
          fun decoded => (decoded.1, { respMsg := decoded.2.1 }, decoded.2.2) := rfl
      rw [hside, hdecode]
      rfl
    · exact atoi_decimalInt hsendable.statuscode.1 hsendable.statuscode.2
    · exact sentText_headers _ _ _ hfields horder

/-- A response whose body is shorter than 2^31 bytes comes back from the client's
    decoder as it was, with the headers that the encoder sent. -/
theorem response_round_trip (server : CoProtocolHttpServer) (order : List (Bytes × Bytes)) (memory : Nat → Block)
    (tail : Bytes) (hsendable : Sendable server.respMsg) (horder : Lists order (sentResponse server.respMsg).headers)
    (hfit : LinesFit server.respMsg.version (decimalInt server.respMsg.statuscode)
      (statusLine server.respMsg.statuscode) order)
    (hsize : (encodeRows (sentResponse server.respMsg) order).flatten.length + tail.length ≤ 8192)
    (hbody : server.respMsg.content.length < 2 ^ 31) :
    RoundTrips server order memory tail server.respMsg.content := by
  rw [← hsendable.counted.sentBody_eq hbody]
  exact roundTrips_sentBody memory hsendable horder hfit hsize

/-- A response that asks for chunks, with a code that is in no table. -/
def chunkedResponse : CoHTTPResponse :=
  { statuscode := -7, toCoProtocolHttp :=
      (({} : CoProtocolHttp).addHeader headerTransferEncoding (ascii "chunked")).setMsgbody (ascii "ok") }

def chunkedOrder : List (Bytes × Bytes) :=
  [(headerContentLength, ascii "2"), (headerTransferEncoding, ascii "chunked"), (headerServer, ascii "coserver/http")]

theorem response_round_trip_chunked :
    RoundTrips { respMsg := chunkedResponse } chunkedOrder (fun _ => ⟨4096, []⟩) (ascii "HTTP") (ascii "ok") :=
  response_round_trip { respMsg := chunkedResponse } chunkedOrder (fun _ => ⟨4096, []⟩) (ascii "HTTP")
    ⟨by decide, ⟨ascii "/1.1", rfl⟩, by decide,
      Everywhere.insert headerFields_empty ⟨by decide, by decide, by decide, by decide⟩, rfl⟩
    ⟨by decide, by decide +kernel⟩ ⟨by decide +kernel, by decide⟩ (by decide +kernel) (by decide)

/-- Only one body comes back. -/
theorem RoundTrips.body_unique {server : CoProtocolHttpServer} {tail first second : Bytes} {order : List (Bytes × Bytes)}
    {memory : Nat → Block} (hfirst : RoundTrips server order memory tail first)
    (hsecond : RoundTrips server order memory tail second)
    (hsize : (encodeRows (sentResponse server.respMsg) order).flatten.length + tail.length ≤ 8192) : first = second := by
  obtain ⟨out, hencode, hregion, hdecodes⟩ := hfirst
  obtain ⟨other, hencode', _, hdecodes'⟩ := hsecond
  rw [hencode] at hencode'
  cases hencode'
  have hroom : (out.region ++ tail).length < 2 ^ 62 := by
    rw [hregion, List.length_append]
    omega
  obtain ⟨received, hvalid, hreceived⟩ := exists_buffer hroom
  obtain ⟨client, left, hdecode, _, _, _, _, hbody, _⟩ := hdecodes received hvalid hreceived
  obtain ⟨client', left', hdecode', _, _, _, _, hbody', _⟩ := hdecodes' received hvalid hreceived
  rw [hdecode] at hdecode'
  cases hdecode'
  rw [← hbody, hbody']

/-- A response with no headers of its own. -/
def bareResponse (body : Bytes) : CoHTTPResponse := { toCoProtocolHttp := ({} : CoProtocolHttp).setMsgbody body }

def bareOrder : List (Bytes × Bytes) := [(headerContentLength, ascii "0"), (headerServer, ascii "coserver/http")]

/-- The headers of a bare response without a body that is sent. -/
theorem bareResponse_sent {body : Bytes} (hlength : ¬(bareResponse body).contentLength > 0) :
    sentResponse (bareResponse body) = { bareResponse body with headers := mapOf bareOrder } := by
  have hremoved : ¬((bareResponse body).removeHeader headerContentLength).contentLength > 0 := hlength
  have hheaders : ((((∅ : StringMap).erase headerContentLength).insert headerContentLength (ascii "0")).erase
      headerServer).insert headerServer (ascii "coserver/http") = mapOf bareOrder := by decide +kernel
  simp only [sentResponse, sentHeaders]
  rw [if_neg hremoved, ← hheaders]
  rfl

theorem not_roundTrips_huge {body : Bytes} (hcount : body.length = 2 ^ 31) :
    Sendable (bareResponse body) ∧ Lists bareOrder (sentResponse (bareResponse body)).headers ∧
    LinesFit (ascii "HTTP/1.1") (decimalInt 200) (statusLine 200) bareOrder ∧
    (encodeRows (sentResponse (bareResponse body)) bareOrder).flatten.length ≤ 8192 ∧
    ¬RoundTrips { respMsg := bareResponse body } bareOrder (fun _ => ⟨4096, []⟩) [] body := by
  have hcounted : (bareResponse body).Counted := rfl
  have hlength := hcounted.sentBody_huge hcount
  have hsent := bareResponse_sent hlength
  have hsendable : Sendable (bareResponse body) :=
    ⟨show Inline (ascii "HTTP/1.1") ∧ space ∉ ascii "HTTP/1.1" by decide, ⟨ascii "/1.1", rfl⟩,
      show -2 ^ 31 ≤ (200 : Int) ∧ (200 : Int) < 2 ^ 31 by decide, headerFields_empty, hcounted⟩
  have horder : Lists bareOrder (sentResponse (bareResponse body)).headers := by
    rw [hsent]
    exact ⟨by decide, rfl⟩
  have hfit : LinesFit (ascii "HTTP/1.1") (decimalInt 200) (statusLine 200) bareOrder := ⟨by decide +kernel, by decide⟩
  have hsize : (encodeRows (sentResponse (bareResponse body)) bareOrder).flatten.length ≤ 8192 := by
    rw [hsent, encodeRows, List.append_cons, flatten_body, CoProtocolHttp.sentBody, if_neg hlength, List.append_nil]
    show (snprintf lineBufferSize (cstr (ascii "HTTP/1.1") ++ ascii " " ++ decimalInt 200 ++ ascii " " ++
      statusLine 200 ++ crlf) :: bareOrder.map headerLine ++ [crlf]).flatten.length ≤ 8192
    decide +kernel
  refine ⟨hsendable, horder, hfit, hsize, ?_⟩
  intro htrips
  have hback : RoundTrips { respMsg := bareResponse body } bareOrder (fun _ => ⟨4096, []⟩) []
      (bareResponse body).sentBody := roundTrips_sentBody _ hsendable horder hfit hsize
  have hnil := htrips.body_unique hback hsize
  rw [CoProtocolHttp.sentBody, if_neg hlength] at hnil
  rw [hnil, List.length_nil] at hcount
  exact absurd hcount (by decide)

/-- The length of a body of 2^31 bytes is negative for the encoder, which announces
    no body and sends none. -/
theorem huge_response_not_sent :
    Sendable (bareResponse (List.replicate (2 ^ 31) 0)) ∧
    Lists bareOrder (sentResponse (bareResponse (List.replicate (2 ^ 31) 0))).headers ∧
    LinesFit (ascii "HTTP/1.1") (decimalInt 200) (statusLine 200) bareOrder ∧
    (encodeRows (sentResponse (bareResponse (List.replicate (2 ^ 31) 0))) bareOrder).flatten.length ≤ 8192 ∧
    ¬RoundTrips { respMsg := bareResponse (List.replicate (2 ^ 31) 0) } bareOrder (fun _ => ⟨4096, []⟩) []
      (List.replicate (2 ^ 31) 0) := by
  have hcount : (List.replicate (2 ^ 31) (0 : UInt8)).length = 2 ^ 31 := List.length_replicate
  have hall := not_roundTrips_huge hcount
  exact hall

end CoProtocolHttpServer

end CoServer
