import ProxyControl.Http.Url

namespace ProxyControl.Http

namespace Url

/-- The schemes whose URLs may be given by what differs from another one. -/
def relativeSchemes : List Text :=
  ["ftp", "http", "gopher", "nntp", "imap", "wais", "file", "https", "shttp", "mms", "prospero", "rtsp", "rtsps",
    "rtspu", "sftp", "svn", "svn+ssh", "ws", "wss"]

/-- Those of them whose paths may end with parameters. -/
def parameterSchemes : List Text :=
  ["ftp", "prospero", "http", "imap", "https", "shttp", "rtsp", "rtsps", "rtspu", "mms", "sftp"]

/-- Splits a path at the first semicolon of its last segment. -/
def cutParameters (path : Text) : Text × Text :=
  let last := (path.reverse.takeWhile (· ≠ .char '/')).reverse
  match Text.cut? (.char ';') last with
  | some (name, parameters) => (path.take (path.length - last.length) ++ name, parameters)
  | none => (path, [])

/-- A piece of a URL with the mark before it, unless it is empty. -/
def marked (mark : Char) (piece : Text) : Text := if piece.isEmpty then [] else .char mark :: piece

/-- The text of a URL with a network location. -/
def assembled (scheme netloc path parameters query fragment : Text) : Text :=
  let path := path ++ marked ';' parameters
  let rooted := if path.isEmpty || path.head? == some (.char '/') then path else .char '/' :: path
  scheme ++ "://" ++ netloc ++ rooted ++ marked '?' query ++ marked '#' fragment

/-- Takes one more step along a path. -/
def stepInto (reached : List Text) (segment : Text) : List Text :=
  if segment = [.char '.', .char '.'] then reached.dropLast
  else if segment = [.char '.'] then reached
  else reached ++ [segment]

/-- The path that a path leads to: the segments of one without a slash in front follow those of the base up to its last
slash, and `.` and `..` are resolved. -/
def joinedPath (base path : Text) : Text :=
  let steps := Text.splitOn (.char '/') path
  let segments : List Text :=
    if path.head? = some (.char '/') then steps
    else
      let start := Text.splitOn (.char '/') base
      match (if start.getLast? = some [] then start else start.dropLast) ++ steps with
      | [] => []
      | first :: rest => first :: rest.dropLast.filter (!·.isEmpty) ++ rest.getLast?.toList
  let reached := segments.foldl stepInto []
  let endsWithDots := segments.getLast?.any fun last => last = [.char '.'] || last = [.char '.', .char '.']
  let joined := Text.join "/" (if endsWithDots then reached ++ [[]] else reached)
  if joined.isEmpty then "/" else joined

/-- The URL that a reference means when it stands in a document at the base. -/
def joined (base reference : Text) : Text :=
  let b := UrlParts.split base
  let r := UrlParts.split reference
  if reference.isEmpty then base
  else if (!r.scheme.isEmpty && r.scheme != b.scheme) || !relativeSchemes.contains b.scheme then reference
  else
    let cut (path : Text) : Text × Text := if parameterSchemes.contains b.scheme then cutParameters path else (path, [])
    let (basePath, baseParameters) := cut b.path
    let (path, parameters) := cut r.path
    let query := r.query.getD []
    let fragment := r.fragment.getD []
    if !r.authority.isEmpty then assembled b.scheme r.authority path parameters query fragment
    else if path.isEmpty && parameters.isEmpty then
      assembled b.scheme b.authority basePath baseParameters (if query.isEmpty then b.query.getD [] else query) fragment
    else assembled b.scheme b.authority (joinedPath basePath path) parameters query fragment

/-- The host as it is read: an encoded domain name is decoded. -/
def hostName (url : Url) : Outcome Text :=
  if ("xn--" : Text).isPrefixOf url.host then (readDomain url.host).mapError (Failure.fault .value) else .ok url.host

/-- The URL with another host. -/
def withHost (url : Url) (host : Text) : Except UrlError Url := do
  url.parts.check
  UrlParts.checkEach [("host", some (if host.contains (.char ':') then "[" ++ host ++ "]" else host))]
  { url with host }.parts.toUrl

/-- The URL with another fragment. -/
def withFragment (url : Url) (fragment : Text) : Except UrlError Url := do
  let parts := { url.parts with fragment := some fragment }
  parts.check
  parts.toUrl

/-- Reads the location of a redirection. -/
def ofLocation (location : Text) : Outcome Url :=
  match parse location with
  | .ok url => .ok url
  | .error (.unencodable e) => .error (encodingFailure e)
  | .error e => .error (.broken .remoteProtocolError ("Invalid URL in location header: " ++ e.message ++ "."))

/-- A URL that has a scheme and lacks a host, with the host of another one. -/
def withHostOf (found url : Url) : Outcome Url :=
  if found.scheme.isEmpty then .ok found
  else do
    if (← found.hostName).isEmpty then (found.withHost (← url.hostName)).mapError UrlError.failure else return found

/-- A relative URL, seen from another one. -/
def joinedTo (found url : Url) : Outcome Url :=
  if found.scheme.isEmpty || found.host.isEmpty then (parse (joined url.toText found.toText)).mapError UrlError.failure
  else .ok found

/-- A URL without a fragment, with that of another one. -/
def withFragmentOf (found url : Url) : Outcome Url :=
  let fragment := percentDecode (url.fragment.getD [])
  if fragment.isEmpty || !(found.fragment.getD []).isEmpty then .ok found
  else (found.withFragment fragment).mapError UrlError.failure

/-- The URL that a redirection from a URL leads to. What its location lacks is taken from where it comes from. -/
def next (url : Url) (location : Text) : Outcome Url := do
  let found ← ofLocation location
  let hosted ← found.withHostOf url
  let joined ← hosted.joinedTo url
  joined.withFragmentOf url

/-- Whether two URLs have the same origin. -/
def hasOriginOf (url other : Url) : Outcome Bool :=
  if url.scheme = other.scheme then do
    let host ← url.hostName
    return host = (← other.hostName) && url.port = other.port
  else do
    let _ ← other.hostName
    let _ ← url.hostName
    return false

/-- Checks that a request that is led from a URL to another one can be made: a new host is named in ASCII. -/
def checkNext (url target : Url) : Outcome Unit := do
  if !(← target.hasOriginOf url) then
    let _ ← target.netloc.toAscii.mapError encodingFailure

end Url

end ProxyControl.Http
