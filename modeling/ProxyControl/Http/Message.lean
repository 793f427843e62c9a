import ProxyControl.Failure
import ProxyControl.Http.Url
import ProxyControl.Text.Charset

namespace ProxyControl.Http

open Utf8 (Bytes)

inductive Method where
  | get
  | patch
  | delete
  deriving DecidableEq, Repr

def Method.name : Method → Text
  | get => "GET"
  | patch => "PATCH"
  | delete => "DELETE"

/-- The seconds that an exchange may take; reading a followed stream has no limit. -/
structure Timeout where
  limit : Binary64
  readLimit : Option Binary64
  deriving Repr

/-- A request as it is sent, with its query parameters apart. -/
structure Request where
  method : Method
  url : Url
  parameters : List (Text × Text)
  userAgent : Option Text
  authorization : Option Text
  content : Option Text
  timeout : Timeout
  deriving Repr

namespace Request

def host (request : Request) : Option Text :=
  if request.url.host.isEmpty then none else some request.url.netloc

/-- Content is always JSON. -/
def contentType (request : Request) : Option Text := request.content.map fun _ => "application/json"

/-- The number of bytes of the content. -/
def contentLength (request : Request) : Option Nat :=
  request.content.map fun content => (Utf8.encodeLoosely content).length

end Request

/-- A piece of a body as it arrives, or the failure that ends it. -/
inductive Chunk where
  | bytes (content : Bytes)
  | failure (failure : Failure)
  deriving Repr

/-- The answer of a server. Its chunks are those of the content: if the headers name a content encoding, that encoding
is undone already, and where this does not succeed the chunk is a failure. -/
structure Reply where
  status : Nat
  reason : Text
  headers : List (Text × Text)
  chunks : List Chunk
  deriving Repr

/-- The usual reason of a status; empty if the status is unknown. -/
def reasonFor (status : Nat) : Text :=
  let reasons : List (Nat × String) :=
    [(100, "Continue"), (101, "Switching Protocols"), (102, "Processing"), (103, "Early Hints"), (200, "OK"),
      (201, "Created"), (202, "Accepted"), (203, "Non-Authoritative Information"), (204, "No Content"),
      (205, "Reset Content"), (206, "Partial Content"), (207, "Multi-Status"), (208, "Already Reported"),
      (226, "IM Used"), (300, "Multiple Choices"), (301, "Moved Permanently"), (302, "Found"), (303, "See Other"),
      (304, "Not Modified"), (305, "Use Proxy"), (307, "Temporary Redirect"), (308, "Permanent Redirect"),
      (400, "Bad Request"), (401, "Unauthorized"), (402, "Payment Required"), (403, "Forbidden"),
      (404, "Not Found"), (405, "Method Not Allowed"), (406, "Not Acceptable"),
      (407, "Proxy Authentication Required"), (408, "Request Timeout"), (409, "Conflict"), (410, "Gone"),
      (411, "Length Required"), (412, "Precondition Failed"), (413, "Request Entity Too Large"),
      (414, "Request-URI Too Long"), (415, "Unsupported Media Type"), (416, "Requested Range Not Satisfiable"),
      (417, "Expectation Failed"), (418, "I'm a teapot"), (421, "Misdirected Request"),
      (422, "Unprocessable Entity"), (423, "Locked"), (424, "Failed Dependency"), (425, "Too Early"),
      (426, "Upgrade Required"), (428, "Precondition Required"), (429, "Too Many Requests"),
      (431, "Request Header Fields Too Large"), (451, "Unavailable For Legal Reasons"),
      (500, "Internal Server Error"), (501, "Not Implemented"), (502, "Bad Gateway"), (503, "Service Unavailable"),
      (504, "Gateway Timeout"), (505, "HTTP Version Not Supported"), (506, "Variant Also Negotiates"),
      (507, "Insufficient Storage"), (508, "Loop Detected"), (510, "Not Extended"),
      (511, "Network Authentication Required")]
  (reasons.lookup status).elim [] Text.ofString

namespace Reply

def isError (reply : Reply) : Bool := 400 ≤ reply.status && reply.status ≤ 599

/-- The values of a header in one text; names are compared without regard to case. -/
def header? (reply : Reply) (name : Text) : Option Text :=
  let values := (reply.headers.filter fun (key, _) => key.asciiLower == name).map Prod.snd
  if values.isEmpty then none else some (Text.join ", " values)

/-- The pieces of a header value between semicolons that are not inside quotes. -/
def headerPieces (quoted : Bool) : Text → List Text
  | [] => [[]]
  | p :: rest =>
    let quoted := if p = .char '"' then !quoted else quoted
    if p = .char ';' ∧ !quoted then [] :: headerPieces quoted rest
    else
      match headerPieces quoted rest with
      | first :: others => (p :: first) :: others
      | [] => [[p]]

def unquoted (t : Text) : Text :=
  if 1 < t.length && t.head? == some (.char '"') && t.getLast? == some (.char '"') then (t.drop 1).dropLast
  else if 1 < t.length && t.head? == some (.char '<') && t.getLast? == some (.char '>') then (t.drop 1).dropLast
  else t

/-- The character set that the content type names. -/
def declaredCharset? (reply : Reply) : Option Text :=
  (reply.header? "content-type").bind fun value =>
    (headerPieces false value).findSome? fun piece =>
      (Text.cut? (.char '=') piece).bind fun (name, value) =>
        if name.strip.asciiLower == ("charset" : Text) then some (unquoted value.strip) else none

/-- The character set of the body: UTF-8, unless another one is declared. -/
def charset (reply : Reply) : Charset := reply.declaredCharset?.elim .utf8 Charset.named

/-- The bytes of the whole body, or the failure that cuts it short. -/
def bodyOf : List Chunk → Outcome Bytes
  | [] => .ok []
  | .bytes content :: rest => do return content ++ (← bodyOf rest)
  | .failure failure :: _ => .error failure

def body (reply : Reply) : Outcome Bytes := bodyOf reply.chunks

/-- The text of a body as it arrives: what was decoded, and the failure that cut it short. -/
def textFrom (charset : Charset) (state : Utf8.State) : List Chunk → Text × Option Failure
  | [] => (Utf8.finish state, none)
  | .failure failure :: _ => ([], some failure)
  | .bytes content :: rest =>
    let (text, state) := charset.feedAll state content
    let (more, failure) := textFrom charset state rest
    (text ++ more, failure)

def arrivingText (reply : Reply) : Text × Option Failure := textFrom reply.charset .start reply.chunks

end Reply

/-- What comes of sending a request: an answer, or nothing but a failure. -/
abbrev Answer := Outcome Reply

end ProxyControl.Http
