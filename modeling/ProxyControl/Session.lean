import ProxyControl.Client
import ProxyControl.LogQuery
import ProxyControl.Policy

namespace ProxyControl

/-- What a client holds of its connection to the API. It makes one when it first needs it. -/
inductive Connection where
  | absent
  | live
  | closed
  deriving DecidableEq, Repr

/-- What has happened on a client: what became of its connection, and the requests, log records and output
so far, in order. -/
structure Session where
  connection : Connection := .absent
  requests : List Http.Request := []
  records : List Record := []
  written : Text := []
  deriving Repr

/-- A call on a client. What happened before a failure is kept. -/
abbrev Call := ExceptT Failure (StateM Session)

namespace Session

def note (record : Record) : Call Unit := modify fun session => { session with records := session.records ++ [record] }

def sent (request : Http.Request) : Call Unit :=
  modify fun session => { session with requests := session.requests ++ [request] }

def ofOutcome {α : Type} : Outcome α → Call α
  | .ok a => pure a
  | .error failure => throw failure

/-- Writes to the output, which takes UTF-8 and nothing else: of a text without an encoding, nothing is written. -/
def write (t : Text) : Call Unit := do
  let _ ← ofOutcome (t.toUtf8.mapError encodingFailure)
  modify fun session => { session with written := session.written ++ t }

/-- The outcome of a call on a session, and the session after it. -/
def run {α : Type} (session : Session) (call : Call α) : Outcome α × Session := Id.run (StateT.run (ExceptT.run call) session)

end Session

/-- What an error body says: the first message it holds under one of the usual names, or its own text. -/
def errorMessage : Json → Option Text
  | .object members =>
    let names : List Text := ["msg", "Msg", "message", "Message", "error"]
    names.findSome? fun name =>
      match members.lookup name with
      | some (.text t) => if t.isEmpty then none else some t
      | _ => none
  | .text t => if t.strip.isEmpty then none else some t.strip
  | _ => none

/-- Reads the JSON document of a body. -/
def documentOf (body : Utf8.Bytes) : Outcome Json :=
  match decodeDocument body with
  | .error e => .error (.fault .decoding e.message)
  | .ok source => Json.ofText source

namespace Client

/-- Whether all that the client sends with every request has an encoding. -/
def checkEncoding (client : Client) : Except EncodingError Unit := do
  if let some (user, password) := client.credentials then
    let _ ← user.toUtf8
    let _ ← password.toUtf8
  for (name, value) in client.headers do
    let _ ← name.toAscii
    let _ ← value.toAscii

/-- Makes a connection, unless there is one that is live. One that cannot be made leaves things as they were. -/
def connect (client : Client) : Call Http.Url := do
  let base ← Session.ofOutcome ((Http.Url.parseBase client.baseUrl).mapError Http.UrlError.failure)
  if (← get).connection = .live then return base
  Session.ofOutcome (client.checkEncoding.mapError encodingFailure)
  modify fun session => { session with connection := .live }
  return base

/-- Closes the connection, if it is live, and lets go of it. One whose closing comes to a bad end counts as closed, but
the client still holds it. -/
def closeWith (closing : Outcome Unit) : Call Unit := do
  if (← get).connection = .live then
    modify fun session => { session with connection := .closed }
    Session.ofOutcome closing
  modify fun session => { session with connection := .absent }

/-- Closes the connection, which comes to a good end. -/
def close : Call Unit := closeWith (.ok ())

/-- The start of a block that uses the client. -/
def enter : Call Unit := pure ()

/-- The end of a block that uses the client, however it comes about. -/
def leaveWith (closing : Outcome Unit) : Call Unit := closeWith closing

def leave : Call Unit := leaveWith (.ok ())

def header? (client : Client) (name : Text) : Option Text :=
  (client.headers.find? fun (key, _) => key.asciiLower == name).map Prod.snd

def basicAuthorization (user password : Text) : Text :=
  "Basic " ++ Base64.encode (Utf8.encodeLoosely (user ++ ":" ++ password))

/-- The client's credentials come first, then those in the URL, then the client's own header. -/
def authorization (client : Client) (url : Http.Url) : Option Text :=
  match client.credentials, url.credentials? with
  | some (user, password), _ => some (basicAuthorization user password)
  | none, some (user, password) => some (basicAuthorization user password)
  | none, none => client.header? "authorization"

/-- The text of a document that is sent, which needs an encoding. -/
def contentOf (document : Json) : Outcome Text := do
  let content ← printing document.integers (document.render Json.wire)
  let _ ← content.toUtf8.mapError encodingFailure
  return content

/-- Builds the request for a resource of an instance, whose host is named in ASCII. Sending it asks for the connection
once more. -/
def request (client : Client) (method : Http.Method) (target resource : Text)
    (parameters : List (Text × Text)) (document : Option Json) (readLimit : Option Binary64) :
    Call Http.Request := do
  if target.isEmpty then throw (.refused .instanceMissing)
  let (path, query) ← Session.ofOutcome (client.route.resolve target resource)
  let base ← client.connect
  let parameters := query ++ parameters
  let url ← Session.ofOutcome ((base.below path parameters).mapError Http.UrlError.failure)
  let content ← Session.ofOutcome (document.mapM contentOf)
  let _ ← Session.ofOutcome (url.netloc.toAscii.mapError encodingFailure)
  let _ ← client.connect
  return {
    method, url, parameters, content
    userAgent := client.header? "user-agent"
    authorization := client.authorization url
    timeout := ⟨client.timeout, readLimit⟩ }

def logger : Text := "rpaasv2.client.client"

def requestFields (request : Http.Request) (more : List (Text × Json)) : List (Text × Json) :=
  ("method", .text request.method.name) :: ("url", .text request.url.toText) :: more

/-- Ends a call whose exchange broke down. Failures outside the exchange itself are not logged. -/
def breakDown {α : Type} (request : Http.Request) (failure : Failure) : Call α := do
  if let .broken _ message := failure then
    Session.note ⟨.error, logger, "API request failed", requestFields request [("error", .text message)]⟩
  throw failure

def isRedirection (status : Nat) : Bool := [301, 302, 303, 307, 308].contains status

/-- A redirection is not followed, but the request that would follow it has to be possible. -/
def checkLocation (request : Http.Request) (reply : Http.Reply) : Outcome Unit := do
  if isRedirection reply.status then
    if let some location := reply.header? "location" then
      request.url.checkNext (← request.url.next location)

/-- What an error body holds. A body that is no JSON document is taken as text, unless reading it goes too deep. -/
def errorBody (reply : Http.Reply) (body : Utf8.Bytes) : Outcome Json :=
  match documentOf body with
  | .error failure@(.fault .recursion _) => .error failure
  | .error _ => .ok (.text (reply.charset.decodeLeniently body))
  | .ok document => .ok document

/-- The failure that an error status stands for. -/
def apiError (reply : Http.Reply) (body : Json) : ApiError :=
  { status := reply.status, reason := reply.reason, bodyMessage := errorMessage body, body }

def statusLine (request : Http.Request) (reply : Http.Reply) : Text :=
  "HTTP Request: " ++ request.method.name ++ " " ++ request.url.toText ++ " \"HTTP/1.1 " ++
    Text.ofNat reply.status ++ " " ++ reply.reason ++ "\""

/-- Sends a request; an error status is a failure. Unless the body is streamed, all of it is read before
the answer counts as received. -/
def send (request : Http.Request) (answer : Http.Answer) (isStreamed : Bool) : Call Http.Reply := do
  Session.note ⟨.debug, logger, "API request", requestFields request []⟩
  Session.sent request
  match answer with
  | .error failure => breakDown request failure
  | .ok reply =>
    if request.url.scheme.isEmpty then
      throw (.fault .value ("unknown url type: " ++ request.url.toText.quoted))
    Session.note ⟨.info, "httpx", statusLine request reply, []⟩
    if let .error failure := checkLocation request reply then breakDown request failure
    if !isStreamed then
      if let .error failure := reply.body then breakDown request failure
    Session.note ⟨.debug, logger, "API response",
      requestFields request [("status_code", .int reply.status)]⟩
    if reply.isError then
      let error := apiError reply (← Session.ofOutcome (reply.body >>= errorBody reply))
      Session.note ⟨.debug, logger, "API error",
        [("status_code", .int error.status), ("reason", .text error.reason),
          ("detail", error.bodyMessage.elim .null .text)]⟩
      throw (.api error)
    return reply

/-- Fetches the autoscaling policy of an instance. -/
def getAutoscale (client : Client) (target : Text) (answer : Http.Answer) : Call Autoscale := do
  let request ← client.request .get target "autoscale" [] none (some client.timeout)
  let reply ← send request answer false
  Session.ofOutcome do
    Autoscale.validate (← documentOf (← reply.body))

/-- Creates or changes the autoscaling policy of an instance. -/
def updateAutoscale (client : Client) (target : Text) (policy : Autoscale) (answer : Http.Answer) :
    Call Unit := do
  let request ← client.request .patch target "autoscale" [] (some policy.payload) (some client.timeout)
  let _ ← send request answer false

/-- Removes the autoscaling policy of an instance. -/
def removeAutoscale (client : Client) (target : Text) (answer : Http.Answer) : Call Unit := do
  let request ← client.request .delete target "autoscale" [] none (some client.timeout)
  let _ ← send request answer false

/-- Builds the request for a log. A followed stream may stay idle without limit. -/
def logRequest (client : Client) (args : LogArgs) : Call Http.Request := do
  let parameters ← Session.ofOutcome args.parameters
  client.request .get args.target "log" parameters none (if args.follow then none else some client.timeout)

/-- Writes the log entries of an instance as they arrive. -/
def log (client : Client) (args : LogArgs) (answer : Http.Answer) : Call Unit := do
  let request ← client.logRequest args
  let reply ← send request answer true
  let (text, failure) := reply.arrivingText
  Session.write text
  if let some failure := failure then throw failure

end Client

end ProxyControl
