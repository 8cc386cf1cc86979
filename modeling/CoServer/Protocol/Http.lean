import CoServer.Base.Buffer
import CoServer.Lib.CString
import Mathlib.Data.Finmap

/-! # HTTP messages and their parser

Messages and the functions that fill them from the bytes of a buffer.  The
parser works on C strings, so a line is read up to its first NUL.  A function
returns `none` where the source has no defined behaviour or throws: a null
pointer handed to a `std::string`, a negative length, a read outside the buffer.

Requests and responses run through the same decoder: a start line, header lines
up to a line that starts with CR or LF, and a body.  `HttpSide` holds what is
different. -/

namespace CoServer

open Lib (ascii memchr cstr strstr strtok strspn strtol decimalInt snprintf)

/-- `std::unordered_map<std::string, std::string>`. -/
abbrev StringMap := Finmap fun _ : Bytes => Bytes

def cr : UInt8 := 13
def lf : UInt8 := 10
def crlf : Bytes := [cr, lf]

/-! ## Messages -/

inductive ParseStatus where
  | eStartLine
  | eHeader
  | eContent
  | eCompleted
  | eError
  deriving DecidableEq

/-- The value of `eError`, which `decode` returns as a code. -/
def eErrorCode : Int := 4

def httpMaxHeaderLen : Int := 8192

def headerContentLength : Bytes := ascii "Content-Length"
def headerTransferEncoding : Bytes := ascii "Transfer-Encoding"
def headerServer : Bytes := ascii "Server"
def headerHost : Bytes := ascii "Host"

structure CoProtocolHttp where
  status : Int := 0
  parseStatus : ParseStatus := .eStartLine
  contentRemain : Int := 0
  contentChunked : Bool := false
  version : Bytes := ascii "HTTP/1.1"
  contentLength : Int := 0
  content : Bytes := []
  headers : StringMap := ∅

structure CoHTTPRequest extends CoProtocolHttp where
  uri : Bytes := []
  url : Bytes := []
  method : Bytes := []
  params : StringMap := ∅

structure CoHTTPResponse extends CoProtocolHttp where
  statuscode : Int := 200
  reasonPhrase : Bytes := []

namespace CoProtocolHttp

def addHeader (self : CoProtocolHttp) (name value : Bytes) : CoProtocolHttp :=
  { self with headers := self.headers.insert name value }

def removeHeader (self : CoProtocolHttp) (name : Bytes) : CoProtocolHttp :=
  { self with headers := self.headers.erase name }

/-- The empty string where the header is missing. -/
def getHeadervalue (self : CoProtocolHttp) (name : Bytes) : Bytes :=
  (self.headers.lookup name).getD []

def setMsgbody (self : CoProtocolHttp) (body : Bytes) : CoProtocolHttp :=
  { self with content := body, contentLength := int32 body.length }

def appendContent (self : CoProtocolHttp) (content : Bytes) : CoProtocolHttp :=
  { self with
    content := self.content ++ content
    contentLength := int32 (self.contentLength + content.length) }

/-- `std::string::reserve` throws on a negative length, and changes nothing else. -/
def reserveContentlength (self : CoProtocolHttp) (contentLength : Int) : Option CoProtocolHttp :=
  if contentLength < 0 then none else some self

end CoProtocolHttp

/-! ## Lines -/

/-- The token before the delimiter and the string behind it. -/
def hasStrsep (s : Option Bytes) (del : Bytes) : Option Bytes × Option Bytes :=
  match s with
  | none => (none, none)
  | some tok =>
    match strstr tok del with
    | some d => (some (tok.take d), some (tok.drop (d + del.length)))
    | none => (some tok, none)

/-- The loop over the parameters of a url. -/
def parseParams : Nat → StringMap → Option Bytes → StringMap
  | 0, params, _ => params
  | turns + 1, params, text =>
    match text with
    | none | some [] => params
    | some text =>
      let (value, text) := hasStrsep (some text) (ascii "&")
      let (name, value) := hasStrsep value (ascii "=")
      parseParams turns (name.elim params fun name => params.insert name (value.getD [])) text

def parseStartlineRequest (message : CoHTTPRequest) (buffer : Bytes) : Option (Int × CoHTTPRequest) :=
  match memchr buffer lf with
  | none => some (0, message)
  | some pos =>
    let lineLen := pos + 1
    let line := cstr (buffer.take lineLen)
    let (first, pos) := hasStrsep (some line) (ascii " ")
    let (second, pos) := hasStrsep pos (ascii " ")
    let message := first.elim message fun method => { message with method }
    let message := second.elim message fun url => { message with url }
    let (uri, params) := hasStrsep second (ascii "?")
    let message := uri.elim message fun uri => { message with uri }
    let version := pos.map fun pos => strtok pos crlf
    match version with
    | some none => none
    | some (some version) =>
      some (lineLen, { message with version, params := parseParams (line.length + 1) message.params params })
    | none => some (lineLen, { message with params := parseParams (line.length + 1) message.params params })

def parseStartlineResponse (message : CoHTTPResponse) (buffer : Bytes) : Option (Int × CoHTTPResponse) :=
  match memchr buffer lf with
  | none => some (0, message)
  | some pos =>
    let lineLen := pos + 1
    let line := cstr (buffer.take lineLen)
    let (first, pos) := hasStrsep (some line) (ascii " ")
    let (second, pos) := hasStrsep pos (ascii " ")
    -- the separators have been overwritten, so the line now ends with its first field
    if !Lib.strncaseEq (first.getD line) (ascii "HTTP") 4 then some (-1, message)
    else
      let message := first.elim message fun version => { message with version }
      let message := second.elim message fun code => { message with statuscode := atoi code }
      match pos.map fun pos => strtok pos crlf with
      | some none => none
      | some (some reasonPhrase) => some (lineLen, { message with reasonPhrase })
      | none => some (lineLen, message)

def parseHeader (message : CoProtocolHttp) (buffer : Bytes) : Nat × CoProtocolHttp :=
  match memchr buffer lf with
  | none => (0, message)
  | some pos =>
    let lineLen := pos + 1
    let line := cstr (buffer.take lineLen)
    let (name, pos) := hasStrsep (some line) (ascii ":")
    let value := pos.bind fun pos => strtok pos crlf
    match name, value with
    | some name, some value => (lineLen, message.addHeader name (value.drop (strspn value (ascii " "))))
    | _, _ => (lineLen, message)

/-! ## Bodies -/

/-- `std::string::append` throws on a negative length. -/
def parseContent (message : CoProtocolHttp) (buffer : Bytes) (len : Int) : Option (Int × CoProtocolHttp) :=
  if message.contentRemain > 0 then
    let parsedLen := if len > message.contentRemain then message.contentRemain else len
    if parsedLen < 0 then none
    else
      let message := message.appendContent (buffer.take parsedLen.toNat)
      let message := { message with contentRemain := int32 (message.contentRemain - parsedLen) }
      some (parsedLen, if message.contentRemain ≤ 0 then { message with parseStatus := .eCompleted }
        else message)
  else some (0, { message with parseStatus := .eCompleted })

/-- The value of a hexadecimal digit of either case. -/
def hexDigit (ch : UInt8) : Option Nat :=
  if 48 ≤ ch ∧ ch ≤ 57 then some (ch.toNat - 48)
  else
    let c := ch ||| 0x20
    if 97 ≤ c ∧ c ≤ 102 then some (c.toNat - 97 + 10) else none

def chunkedDigit (chunkedSize : Int) (ch : UInt8) : Option Int :=
  (hexDigit ch).map fun (digit : Nat) => int32 (int32 (chunkedSize * 16) + digit)

/-- The loop over the digits of a chunk size. -/
def chunkedDigits (digits : Bytes) : Option Int := digits.foldlM chunkedDigit 0

/-- The loop of `parse_content_chunked`: `buffer` is what lies behind the first
    `parsedLen` bytes. -/
def parseChunks : Nat → CoProtocolHttp → Bytes → Int → Option (Int × CoProtocolHttp)
  | 0, _, _, _ => none
  | turns + 1, message, buffer, parsedLen =>
    match memchr buffer lf with
    | none => some (parsedLen, message)
    | some pos =>
      if pos = 0 ∨ buffer[pos - 1]? ≠ some cr then some (-1, message)
      else
        match chunkedDigits (buffer.take (pos - 1)) with
        | none => some (-1, message)
        | some size =>
          let chunkedSize := int32 (size + 2)
          let chunkedHeaderLen := pos + 1
          if buffer.length < int32 (chunkedHeaderLen + chunkedSize) then some (parsedLen, message)
          else
            let parsedLen := int32 (parsedLen + int32 (chunkedHeaderLen + chunkedSize))
            if 2 = chunkedSize then some (parsedLen, { message with parseStatus := .eCompleted })
            -- a negative length, or one beyond the end of the buffer
            else if chunkedSize < 2 ∨ buffer.length < chunkedHeaderLen + (chunkedSize - 2) then none
            else
              parseChunks turns
                (message.appendContent ((buffer.drop chunkedHeaderLen).take (chunkedSize - 2).toNat))
                (buffer.drop (chunkedHeaderLen + chunkedSize.toNat)) parsedLen

def parseContentChunked (message : CoProtocolHttp) (buffer : Bytes) (len : Int) :
    Option (Int × CoProtocolHttp) :=
  if len < 0 then none else parseChunks (buffer.length + 1) message buffer 0

/-! ## The decoder -/

/-- What a request and a response do differently. -/
structure HttpSide (Message : Type) where
  base : Message → CoProtocolHttp
  withBase : Message → CoProtocolHttp → Message
  parseStartline : Message → Bytes → Option (Int × Message)
  /-- How the body is framed, read off the headers. -/
  endHeader : CoProtocolHttp → Option CoProtocolHttp
  /-- The bytes that were taken, or a code that `decode` returns at once. -/
  parseBody : CoProtocolHttp → Bytes → Int → Option (Except Int Int × CoProtocolHttp)

namespace HttpSide

variable {Message : Type}

/-- The loop over the header lines; `buffer` is what lies behind the first
    `parsedLen` bytes. -/
def parseHeaders (endHeader : CoProtocolHttp → Option CoProtocolHttp) :
    Nat → CoProtocolHttp → Bytes → Nat → Option (Nat × CoProtocolHttp)
  | 0, _, _, _ => none
  | turns + 1, message, buffer, parsedLen =>
    match buffer with
    | [] => some (parsedLen, message)
    | ch :: _ =>
      if message.parseStatus ≠ .eHeader then some (parsedLen, message)
      else
        let (headerLen, message) := parseHeader message buffer
        -- the character is looked at even when no line was found
        let ended := if ch = cr ∨ ch = lf then endHeader { message with parseStatus := .eContent }
          else some message
        match ended with
        | none => none
        | some message =>
          if headerLen = 0 then some (parsedLen, message)
          else parseHeaders endHeader turns message (buffer.drop headerLen) (parsedLen + headerLen)

/-- `decode` from the body stage on. -/
def decodeBody (side : HttpSide Message) (message : Message) (coBuffer : CoBuffer) (rawBuffer : Bytes)
    (len : Int) (parsedLen : Nat) (base : CoProtocolHttp) : Option (Int × Message × CoBuffer) :=
  if base.parseStatus = .eContent then
    match side.parseBody base (rawBuffer.drop parsedLen) (len - parsedLen) with
    | none => none
    | some (.error ret, base) => some (ret, side.withBase message base, coBuffer)
    | some (.ok bodyLen, base) =>
      some (if base.parseStatus = .eCompleted then coOk else coAgain, side.withBase message base,
        (coBuffer.bufferErase (parsedLen + bodyLen.toNat)).2)
  else some (coAgain, side.withBase message base, (coBuffer.bufferErase parsedLen).2)

/-- `decode` from the header stage on. -/
def decodeRest (side : HttpSide Message) (message : Message) (coBuffer : CoBuffer) (rawBuffer : Bytes)
    (len : Int) (parsedLen : Nat) : Option (Int × Message × CoBuffer) :=
  match parseHeaders side.endHeader (rawBuffer.length + 1) (side.base message) (rawBuffer.drop parsedLen)
      parsedLen with
  | none => none
  | some (parsedLen, base) => side.decodeBody message coBuffer rawBuffer len parsedLen base

def decode (side : HttpSide Message) (message : Message) (coBuffer : CoBuffer) :
    Option (Int × Message × CoBuffer) :=
  let len := int32 coBuffer.bufferSize
  let rawBuffer := coBuffer.region.take len.toNat
  match (side.base message).parseStatus with
  | .eCompleted => some (coOk, message, coBuffer)
  | .eStartLine =>
    if len > httpMaxHeaderLen then some (eErrorCode, message, coBuffer.reset)
    -- `memchr` over a negative number of bytes
    else if len < 0 then none
    else
      match side.parseStartline message rawBuffer with
      | none => none
      | some (parsedLen, message) =>
        if parsedLen = -1 then some (eErrorCode, message, coBuffer.reset)
        else if parsedLen ≤ 0 then some (coAgain, message, coBuffer)
        else side.decodeRest (side.withBase message { side.base message with parseStatus := .eHeader })
          coBuffer rawBuffer len parsedLen.toNat
  | .eHeader =>
    if len > httpMaxHeaderLen then some (eErrorCode, message, coBuffer.reset)
    else side.decodeRest message coBuffer rawBuffer len 0
  | .eContent | .eError => side.decodeRest message coBuffer rawBuffer len 0

end HttpSide

/-! ## The encoders' appends -/

/-- A row of `buffer_append` calls whose results are not looked at. -/
def appendAll (memory : Nat → Option Block) : Nat → List Bytes → CoBuffer → Option CoBuffer
  | _, [], coBuffer => some coBuffer
  | call, data :: rest, coBuffer =>
    match coBuffer.bufferAppend data (memory call) with
    | none => none
    | some (_, coBuffer) => appendAll memory (call + 1) rest coBuffer

/-- `char buffer[512]`. -/
def lineBufferSize : Nat := 512

/-- A header as the encoders print it into their line buffer. -/
def headerLine (header : Bytes × Bytes) : Bytes :=
  snprintf lineBufferSize (cstr header.1 ++ ascii ": " ++ cstr header.2 ++ crlf)

/-- A map built from a list of pairs, the later ones replacing the earlier. -/
def mapOf (pairs : List (Bytes × Bytes)) : StringMap :=
  pairs.foldl (fun map pair => map.insert pair.1 pair.2) ∅

/-- The pairs of a map in the order in which its iterator comes by. -/
structure Lists (order : List (Bytes × Bytes)) (map : StringMap) : Prop where
  distinct : (order.map Prod.fst).Nodup
  complete : mapOf order = map

end CoServer
