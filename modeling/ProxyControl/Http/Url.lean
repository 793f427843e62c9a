import ProxyControl.Failure
import ProxyControl.Http.Address
import ProxyControl.Http.Domain
import ProxyControl.Http.Percent
import ProxyControl.Number.Integer

namespace ProxyControl.Http

/-- The parts that make up a URL as they are written, before they are checked and encoded. -/
structure UrlParts where
  scheme : Text
  authority : Text
  path : Text
  query : Option Text
  fragment : Option Text
  deriving Repr

/-- A URL whose parts are in their encoded form. The host of an IPv6 address stands without brackets. -/
structure Url where
  scheme : Text
  userinfo : Text
  host : Text
  port : Option Int
  path : Text
  query : Option Text
  fragment : Option Text
  deriving DecidableEq, Repr

/-- Why a text is no URL. -/
inductive UrlError where
  | tooLong
  | partTooLong (name : Text)
  | control (p : CodePoint) (position : Nat)
  | controlInPart (name : Text) (p : CodePoint) (position : Nat)
  | port (t : Text)
  | ipv4 (host : Text)
  | ipv6 (host : Text)
  | domain (host : Text)
  | pathNotRooted
  | pathSlashes
  | pathColon
  | unencodable (error : EncodingError)
  deriving Repr

namespace UrlError

def message : UrlError → Text
  | tooLong => "URL too long"
  | partTooLong name => "URL component '" ++ name ++ "' too long"
  | control p position =>
    "Invalid non-printable ASCII character in URL, " ++ Text.quoted [p] ++ " at position " ++
      Text.ofNat position ++ "."
  | controlInPart name p position =>
    "Invalid non-printable ASCII character in URL " ++ name ++ " component, " ++ Text.quoted [p] ++
      " at position " ++ Text.ofNat position ++ "."
  | port t => "Invalid port: " ++ t.quoted
  | ipv4 host => "Invalid IPv4 address: " ++ host.quoted
  | ipv6 host => "Invalid IPv6 address: " ++ host.quoted
  | domain host => "Invalid IDNA hostname: " ++ host.quoted
  | pathNotRooted => "For absolute URLs, path must be empty or begin with '/'"
  | pathSlashes => "Relative URLs cannot have a path starting with '//'"
  | pathColon => "Relative URLs cannot have a path starting with ':'"
  | unencodable error => error.message

def failure (error : UrlError) : Failure :=
  match error with
  | unencodable e => encodingFailure e
  | _ => .fault .url error.message

end UrlError

def isControl (p : CodePoint) : Bool := p.toNat < 0x20 || p.toNat == 0x7F

/-- The first control code of a text, with its position. -/
def firstControl? (t : Text) : Option (CodePoint × Nat) :=
  (t.dropWhile fun p => !isControl p).head?.map fun p => (p, (t.takeWhile fun p => !isControl p).length)

def lengthLimit : Nat := 65536

namespace UrlParts

def isSchemePoint (p : CodePoint) : Bool :=
  p.isAsciiAlphanumeric || p = .char '+' || p = .char '.' || p = .char '-'

/-- The scheme before the first colon, which may be empty, and the rest. -/
def cutScheme (t : Text) : Text × Text :=
  match Text.cut? (.char ':') t with
  | some (scheme, rest) =>
    if scheme.all isSchemePoint && (scheme.head?.all CodePoint.isAsciiLetter) then (scheme, rest) else ([], t)
  | none => ([], t)

/-- Splits a text at its marks; every text has some parts. -/
def split (t : Text) : UrlParts :=
  let (scheme, rest) := cutScheme t
  let (beforeFragment, fragment) :=
    match Text.cut? (.char '#') rest with
    | some (before, after) => (before, some after)
    | none => (rest, none)
  let (beforeQuery, query) :=
    match Text.cut? (.char '?') beforeFragment with
    | some (before, after) => (before, some after)
    | none => (beforeFragment, none)
  let (authority, path) : Text × Text :=
    match beforeQuery with
    | .char '/' :: .char '/' :: after => (after.takeWhile (· ≠ .char '/'), after.dropWhile (· ≠ .char '/'))
    | path => ([], path)
  ⟨scheme, authority, path, query, fragment⟩

/-- Splits an authority into what stands before its last `@`, the host and the port. -/
def cutAuthority (authority : Text) : Text × Text × Text :=
  let (userinfo, rest) : Text × Text :=
    if authority.contains (.char '@') then
      let last := authority.reverse.takeWhile (· ≠ .char '@')
      (authority.take (authority.length - last.length - 1), last.reverse)
    else ([], authority)
  let bracketed := Text.dropWhileEnd (· ≠ .char ']') rest
  let host : Text :=
    if rest.head? = some (.char '[') ∧ !bracketed.isEmpty then bracketed
    else rest.takeWhile (· ≠ .char ':')
  let afterHost := rest.drop host.length
  let port : Text :=
    match afterHost with
    | .char ':' :: port => port
    | port => port
  (userinfo, host, port)

def encodeHost (host : Text) : Except UrlError Text :=
  if host.isEmpty then .ok []
  else if isIpv4Shaped host then
    if isIpv4 host then .ok host else .error (.ipv4 host)
  else if host.head? = some (.char '[') ∧ host.getLast? = some (.char ']') then
    let address := (host.drop 1).dropLast
    if isIpv6 address then .ok address else .error (.ipv6 host)
  else if host.all CodePoint.isAscii then
    (percentEncode isHostSafe host.asciiLower).mapError .unencodable
  else
    match asciiDomain? (Text.lower host) with
    | some domain => .ok domain
    | none => .error (.domain host)

def defaultPort? (scheme : Text) : Option Int :=
  let ports : List (Text × Int) := [("ftp", 21), ("http", 80), ("https", 443), ("ws", 80), ("wss", 443)]
  ports.lookup scheme

/-- The port, unless it is the usual one of the scheme. -/
def portNumber (scheme port : Text) : Except UrlError (Option Int) :=
  if port.isEmpty then .ok none
  else
    match Text.toInt port with
    | .error _ => .error (.port port)
    | .ok n => .ok (if defaultPort? scheme = some n then none else some n)

def checkPath (path : Text) (hasScheme hasAuthority : Bool) : Except UrlError Unit :=
  if hasAuthority && !path.isEmpty && path.head? != some (.char '/') then .error .pathNotRooted
  else if hasScheme || hasAuthority then .ok ()
  else if ("//" : Text).isPrefixOf path then .error .pathSlashes
  else if path.head? = some (.char ':') then .error .pathColon
  else .ok ()

/-- Resolves the segments `.` and `..`; the empty segment before the first slash stays. `done` holds the
segments so far, the last one first. -/
def resolveDots (done : List Text) : List Text → List Text
  | [] => done.reverse
  | segment :: rest =>
    if segment = [.char '.'] then resolveDots done rest
    else if segment = [.char '.', .char '.'] then
      resolveDots (if done = [[]] then done else done.tail) rest
    else resolveDots (segment :: done) rest

def normalizePath (path : Text) : Text := Text.join "/" (resolveDots [] (Text.splitOn (.char '/') path))

/-- Checks and encodes the parts. The parts are looked at in the order in which faults are reported. -/
def toUrl (parts : UrlParts) : Except UrlError Url := do
  let encode (isSafe : CodePoint → Bool) (t : Text) := (percentEncode isSafe t).mapError UrlError.unencodable
  let (userinfo, host, port) := cutAuthority parts.authority
  let scheme := parts.scheme.asciiLower
  let userinfo ← encode isUserSafe userinfo
  let host ← encodeHost host
  let port ← portNumber parts.scheme port
  let hasScheme := !scheme.isEmpty
  let hasAuthority := !userinfo.isEmpty || !host.isEmpty || port.isSome
  checkPath parts.path hasScheme hasAuthority
  let path ← encode isPathSafe (if hasScheme || hasAuthority then normalizePath parts.path else parts.path)
  let query ← parts.query.mapM (encode isQuerySafe)
  let fragment ← parts.fragment.mapM (encode isFragmentSafe)
  return { scheme, userinfo, host, port, path, query, fragment }

/-- Checks the length and the code points of each part that is there. -/
def checkEach (parts : List (Text × Option Text)) : Except UrlError Unit :=
  parts.forM fun (name, value) =>
    match value with
    | none => .ok ()
    | some t =>
      if t.length > lengthLimit then .error (.partTooLong name)
      else
        match firstControl? t with
        | some (p, position) => .error (.controlInPart name p position)
        | none => .ok ()

def check (parts : UrlParts) : Except UrlError Unit :=
  checkEach [("scheme", some parts.scheme), ("authority", some parts.authority), ("path", some parts.path),
    ("query", parts.query), ("fragment", parts.fragment)]

end UrlParts

namespace Url

def parse (t : Text) : Except UrlError Url :=
  if t.length > lengthLimit then .error .tooLong
  else
    match firstControl? t with
    | some (p, position) => .error (.control p position)
    | none => (UrlParts.split t).toUrl

/-- Host and port as they appear in a URL. -/
def netloc (url : Url) : Text :=
  (if url.host.contains (.char ':') then "[" ++ url.host ++ "]" else url.host) ++
    url.port.elim [] fun n => .char ':' :: Text.ofInt n

def authority (url : Url) : Text :=
  (if url.userinfo.isEmpty then [] else url.userinfo ++ [.char '@']) ++ url.netloc

def toText (url : Url) : Text :=
  (if url.scheme.isEmpty then [] else url.scheme ++ [.char ':']) ++
  (if url.authority.isEmpty then [] else .char '/' :: .char '/' :: url.authority) ++
  url.path ++ url.query.elim [] (.char '?' :: ·) ++ url.fragment.elim [] (.char '#' :: ·)

/-- The path and the query, as a request line has them. -/
def target (url : Url) : Text :=
  (if url.path.isEmpty then [.char '/'] else url.path) ++ url.query.elim [] (.char '?' :: ·)

def parts (url : Url) : UrlParts := ⟨url.scheme, url.authority, url.path, url.query, url.fragment⟩

/-- The URL with another path and query. -/
def withTarget (url : Url) (target : Text) : Except UrlError Url := do
  let (path, query) :=
    match Text.cut? (.char '?') target with
    | some (path, query) => (path, some query)
    | none => (target, none)
  let parts := { url.parts with path, query }
  parts.check
  parts.toUrl

/-- The URL with the given parameters for its query, or without a query. -/
def withParameters (url : Url) (parameters : List (Text × Text)) : Except UrlError Url := do
  let query ←
    if parameters.isEmpty then .ok none
    else ((encodeQuery parameters).mapError UrlError.unencodable).map some
  let parts := { url.parts with query }
  parts.check
  parts.toUrl

/-- A base URL: its target ends with a slash. -/
def parseBase (t : Text) : Except UrlError Url := do
  let url ← parse t
  if url.target.getLast? = some (.char '/') then .ok url else url.withTarget (url.target ++ "/")

/-- The URL of a path below a base URL. -/
def below (base : Url) (path : Text) (parameters : List (Text × Text)) : Except UrlError Url := do
  let relative ← parse path
  let merged ← base.withTarget (base.target ++ relative.target.dropWhile (· = .char '/'))
  merged.withParameters parameters

/-- The user and the password written in a URL, if any. -/
def credentials? (url : Url) : Option (Text × Text) :=
  let (user, password) := (Text.cut? (.char ':') url.userinfo).getD (url.userinfo, [])
  let user := percentDecode user
  let password := percentDecode password
  if user.isEmpty && password.isEmpty then none else some (user, password)

end Url

end ProxyControl.Http
