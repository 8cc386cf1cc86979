import CoServer.Protocol.Http

/-! # `CoProtocolHttpServer`: requests in, responses out -/

namespace CoServer

open Lib (ascii cstr decimalInt snprintf)

/-- `HTTP_STATUS_LINES`. -/
def httpStatusLines : List (Int × Bytes) := [
  (100, ascii "Continue"),
  (101, ascii "Switching Protocols"),
  (200, ascii "OK"),
  (201, ascii "Created"),
  (202, ascii "Accepted"),
  (203, ascii "Non-Authoritative Information"),
  (204, ascii "No Content"),
  (205, ascii "Reset Content"),
  (206, ascii "Partial Content"),
  (300, ascii "Multiple Choices"),
  (301, ascii "Moved Permanently"),
  (302, ascii "Found"),
  (303, ascii "See Other"),
  (304, ascii "Not Modified"),
  (305, ascii "Use Proxy"),
  (306, ascii "Unused"),
  (307, ascii "Temporary Redirect"),
  (400, ascii "Bad Request"),
  (401, ascii "Unauthorized"),
  (402, ascii "Payment Required"),
  (403, ascii "Forbidden"),
  (404, ascii "Not Found"),
  (405, ascii "Method Not Allowed"),
  (406, ascii "Not Acceptable"),
  (407, ascii "Proxy Authentication Required"),
  (408, ascii "Request Time-out"),
  (409, ascii "Conflict"),
  (410, ascii "Gone"),
  (411, ascii "Length Required"),
  (412, ascii "Precondition Failed"),
  (413, ascii "Request Entity Too Large"),
  (414, ascii "Request-URI Too Large"),
  (415, ascii "Unsupported Media Type"),
  (416, ascii "Requested range not satisfiable"),
  (417, ascii "Expectation Failed"),
  (500, ascii "Internal Server Error"),
  (501, ascii "Not Implemented"),
  (502, ascii "Bad Gateway"),
  (503, ascii "Service Unavailable"),
  (504, ascii "Gateway Time-out"),
  (505, ascii "HTTP Version not supported")]

/-- The text of a status code, that of 500 for a code without one. -/
def statusLine (statuscode : Int) : Bytes :=
  (httpStatusLines.lookup statuscode).getD ((httpStatusLines.lookup 500).getD [])

structure CoProtocolHttpServer where
  reqMsg : CoHTTPRequest := {}
  respMsg : CoHTTPResponse := {}

namespace CoProtocolHttpServer

/-- What the server does at the line that ends the headers. -/
def endHeader (message : CoProtocolHttp) : Option CoProtocolHttp :=
  let strContentLen := message.getHeadervalue headerContentLength
  if strContentLen.isEmpty then some message
  else
    let message := { message with contentRemain := atoi (cstr strContentLen) }
    message.reserveContentlength message.contentRemain

def side : HttpSide CoHTTPRequest where
  base := CoHTTPRequest.toCoProtocolHttp
  withBase message base := { message with toCoProtocolHttp := base }
  parseStartline := parseStartlineRequest
  endHeader := endHeader
  parseBody message buffer len := (parseContent message buffer len).map fun (parsedLen, message) =>
    (.ok parsedLen, message)

def decode (self : CoProtocolHttpServer) (coBuffer : CoBuffer) :
    Option (Int × CoProtocolHttpServer × CoBuffer) :=
  (side.decode self.reqMsg coBuffer).map fun (ret, reqMsg, coBuffer) => (ret, { self with reqMsg }, coBuffer)

/-- The headers of a response as `encode` sends them. -/
def sentHeaders (message : CoProtocolHttp) : CoProtocolHttp :=
  let message := message.removeHeader headerContentLength
  let message := if message.contentLength > 0 then
      message.addHeader headerContentLength (decimalInt message.contentLength)
    else message.addHeader headerContentLength (ascii "0")
  (message.removeHeader headerServer).addHeader headerServer (ascii "coserver/http")

/-- The rows that `encode` appends, the headers in the order of the iterator. -/
def encodeRows (respMsg : CoHTTPResponse) (order : List (Bytes × Bytes)) : List Bytes :=
  snprintf lineBufferSize (cstr respMsg.version ++ ascii " " ++ decimalInt respMsg.statuscode ++ ascii " " ++
    statusLine respMsg.statuscode ++ crlf) :: order.map headerLine ++
  crlf :: if respMsg.contentLength > 0 then [respMsg.content] else []

/-- `order` is how the iterator of a map goes through it, `memory` what the calls
    of `realloc` return. -/
def encode (self : CoProtocolHttpServer) (coBuffer : CoBuffer) (order : StringMap → List (Bytes × Bytes))
    (memory : Nat → Option Block) : Option (Int × CoProtocolHttpServer × CoBuffer) :=
  let respMsg := { self.respMsg with toCoProtocolHttp := sentHeaders self.respMsg.toCoProtocolHttp }
  (appendAll memory 0 (encodeRows respMsg (order respMsg.headers)) coBuffer).map fun coBuffer =>
    (coOk, { self with respMsg }, coBuffer)

end CoProtocolHttpServer

end CoServer
