import CoServer.Protocol.Http

/-! # `CoProtocolHttpClient`: requests out, responses in -/

namespace CoServer

open Lib (ascii cstr decimalInt snprintf)

structure CoProtocolHttpClient where
  reqMsg : CoHTTPRequest := {}
  respMsg : CoHTTPResponse := {}

namespace CoProtocolHttpClient

/-- What the client does at the line that ends the headers. -/
def endHeader (message : CoProtocolHttp) : Option CoProtocolHttp :=
  let contentLen := message.getHeadervalue headerContentLength
  if contentLen.isEmpty then
    some (if message.getHeadervalue headerTransferEncoding = ascii "chunked" then
        { message with contentChunked := true }
      else message)
  else
    let message := { message with contentRemain := atoi (cstr contentLen) }
    message.reserveContentlength message.contentRemain

def parseBody (message : CoProtocolHttp) (buffer : Bytes) (len : Int) :
    Option (Except Int Int × CoProtocolHttp) :=
  if !message.contentChunked then
    (parseContent message buffer len).map fun (parsedLen, message) => (.ok parsedLen, message)
  else
    (parseContentChunked message buffer len).map fun (parseRet, message) =>
      (if parseRet = -1 then .error parseRet else .ok parseRet, message)

def side : HttpSide CoHTTPResponse where
  base := CoHTTPResponse.toCoProtocolHttp
  withBase message base := { message with toCoProtocolHttp := base }
  parseStartline := parseStartlineResponse
  endHeader := endHeader
  parseBody := parseBody

def decode (self : CoProtocolHttpClient) (coBuffer : CoBuffer) :
    Option (Int × CoProtocolHttpClient × CoBuffer) :=
  (side.decode self.respMsg coBuffer).map fun (ret, respMsg, coBuffer) =>
    (ret, { self with respMsg }, coBuffer)

/-- The headers of a request as `encode` sends them; `ipport` is the address of
    the connection. -/
def sentHeaders (message : CoProtocolHttp) (ipport : Bytes) : CoProtocolHttp :=
  let message := message.removeHeader headerContentLength
  let message := if message.contentLength > 0 then
      message.addHeader headerContentLength (decimalInt message.contentLength)
    else message
  let message := (message.removeHeader headerServer).addHeader headerServer (ascii "coserver/http")
  if (message.getHeadervalue headerHost).isEmpty then message.addHeader headerHost ipport else message

/-- The rows that `encode` appends, the headers in the order of the iterator. -/
def encodeRows (reqMsg : CoHTTPRequest) (order : List (Bytes × Bytes)) : List Bytes :=
  snprintf lineBufferSize (cstr reqMsg.method ++ ascii " " ++ cstr reqMsg.url ++ ascii " " ++
    cstr reqMsg.version ++ crlf) :: order.map headerLine ++
  crlf :: if reqMsg.contentLength > 0 then [reqMsg.content] else []

/-- `order` is how the iterator of a map goes through it, `memory` what the calls
    of `realloc` return. -/
def encode (self : CoProtocolHttpClient) (coBuffer : CoBuffer) (ipport : Bytes)
    (order : StringMap → List (Bytes × Bytes)) (memory : Nat → Option Block) :
    Option (Int × CoProtocolHttpClient × CoBuffer) :=
  let reqMsg := { self.reqMsg with toCoProtocolHttp := sentHeaders self.reqMsg.toCoProtocolHttp ipport }
  (appendAll memory 0 (encodeRows reqMsg (order reqMsg.headers)) coBuffer).map fun coBuffer =>
    (coOk, { self with reqMsg }, coBuffer)

end CoProtocolHttpClient

end CoServer
