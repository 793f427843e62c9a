import ProxyControl.Http.Message
import ProxyControl.Http.Redirect
import ProxyControl.Logging.Record
import ProxyControl.Text.Base64

namespace ProxyControl

/-- How the resources of an instance are reached. -/
inductive Route where
  | direct
  | proxied (service : Text)
  | unknown
  deriving DecidableEq, Repr

namespace Route

/-- The path and the query parameters of a resource. -/
def resolve (route : Route) (target resource : Text) : Outcome (Text × List (Text × Text)) :=
  match route with
  | direct => .ok ("/resources/" ++ target ++ "/" ++ resource, [])
  | proxied service =>
    .ok ("/services/" ++ service ++ "/proxy/" ++ target,
      [("callback", "/resources/" ++ target ++ "/" ++ resource)])
  | unknown => .error (.fault .notImplemented [])

end Route

/-- A client of the API. -/
structure Client where
  route : Route
  baseUrl : Text
  timeout : Binary64
  headers : List (Text × Text)
  credentials : Option (Text × Text) := none
  deriving Repr

/-- The settings that every kind of client takes. -/
structure ClientOptions where
  timeout : Option Binary64 := none
  userAgent : Option Text := none
  deriving Repr

namespace Client

def version : Text := "0.1.0"

def defaultUserAgent : Text := "rpaasv2/" ++ version

def defaultTimeout : Binary64 := .ofNat 30

/-- Sets a header: one that is there already keeps its place. -/
def setHeader (name value : Text) : List (Text × Text) → List (Text × Text)
  | [] => [(name, value)]
  | (n, v) :: rest => if n = name then (n, value) :: rest else (n, v) :: setHeader name value rest

/-- A client of the API at an address. An address without a scheme is reached by HTTP. -/
def create (route : Route) (address : Text) (options : ClientOptions) (headers : List (Text × Text))
    (credentials : Option (Text × Text)) : Outcome Client :=
  if address.isEmpty then .error (.misconfigured .addressEmpty)
  else
    let address := if Text.occursIn "://" address then address else "http://" ++ address
    let agent := (Text.present options.userAgent).getD defaultUserAgent
    let start : List (Text × Text) := [("User-Agent", agent)]
    .ok {
      route, credentials
      baseUrl := Text.dropWhileEnd (· = .char '/') address
      timeout := options.timeout.getD defaultTimeout
      headers := headers.foldl (fun all (name, value) => setHeader name value all) start }

/-- A client that talks to the API at its own address, with basic authentication if there is a user. -/
def direct (url : Text) (user password : Option Text) (options : ClientOptions) : Outcome Client :=
  create .direct url options [] ((Text.present user).map fun user => (user, password.getD []))

/-- A client that goes through the service proxy. -/
def proxied (target token service : Text) (options : ClientOptions) : Outcome Client :=
  if service.isEmpty then .error (.refused .serviceMissing)
  else create (.proxied service) target options [("Authorization", "Bearer " ++ token)] none

end Client

/-- Where the API is reached, as far as it is known. -/
structure Target where
  rpaasUrl : Option Text := none
  rpaasUser : Option Text := none
  rpaasPassword : Option Text := none
  tsuruTarget : Option Text := none
  tsuruToken : Option Text := none
  deriving DecidableEq, Repr

/-- The client for a target. The address of the API itself wins over the proxy. -/
def Target.client (target : Target) (service : Option Text) (options : ClientOptions) : Outcome Client :=
  match Text.present target.rpaasUrl, Text.present target.tsuruTarget, Text.present target.tsuruToken with
  | some url, _, _ => Client.direct url target.rpaasUser target.rpaasPassword options
  | none, some proxy, some token => Client.proxied proxy token (service.getD []) options
  | none, _, _ => .error (.misconfigured .noTarget)

/-- The instance as confirmations name it. -/
def instanceLabel (service target : Option Text) : Text :=
  let target := target.getD "None"
  match Text.present service with
  | some service => service ++ "/" ++ target
  | none => target

end ProxyControl
