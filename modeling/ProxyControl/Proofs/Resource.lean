import ProxyControl.Proofs.Exchange
import ProxyControl.Proofs.Http.Below
import ProxyControl.Proofs.Http.Form

namespace ProxyControl.Client

open Session

/-- What can be asked of a client about an instance. -/
inductive Operation where
  | getAutoscale
  | updateAutoscale (policy : Autoscale)
  | removeAutoscale
  | log (args : LogArgs)

namespace Operation

variable {client : Client} {target : Text} {answer : Http.Answer} {s : Session} {request : Http.Request}

/-- The session after an operation for an instance. -/
def after (client : Client) (target : Text) (answer : Http.Answer) (s : Session) : Operation → Session
  | getAutoscale => (run s (client.getAutoscale target answer)).2
  | updateAutoscale policy => (run s (client.updateAutoscale target policy answer)).2
  | removeAutoscale => (run s (client.removeAutoscale target answer)).2
  | log args => (run s (client.log { args with target } answer)).2

/-- The requests that an operation adds to those of the session before it. -/
def sends (client : Client) (target : Text) (answer : Http.Answer) (s : Session) (operation : Operation) :
    List Http.Request := (operation.after client target answer s).requests.drop s.requests.length

/-- The resource of an instance that an operation is about. -/
def resource : Operation → Text
  | log _ => "log"
  | _ => "autoscale"

/-- The parameters of the query that an operation adds to those of the route. -/
def parameters (target : Text) : Operation → List (Text × Text)
  | log args => { args with target }.query
  | _ => []

/-- What an operation sends is a request for its resource. -/
theorem built_of_sends {operation : Operation} (sent : request ∈ operation.sends client target answer s) :
    ∃ method document readLimit u, run s (client.request method target operation.resource (operation.parameters target)
      document readLimit) = (.ok request, u) := by
  cases operation with
  | getAutoscale =>
    rw [sends, after, getAutoscale_eq_exchange] at sent
    refine ⟨_, _, _, built_of_exchange quiet_request (fun reply u => ?_) sent⟩
    rw [run_ofOutcome]
  | updateAutoscale policy =>
    rw [sends, after, updateAutoscale_eq_exchange] at sent
    exact ⟨_, _, _, built_of_exchange quiet_request (fun _ _ => rfl) sent⟩
  | removeAutoscale =>
    rw [sends, after, removeAutoscale_eq_exchange] at sent
    exact ⟨_, _, _, built_of_exchange quiet_request (fun _ _ => rfl) sent⟩
  | log args =>
    rw [sends, after, log_eq_exchange] at sent
    obtain ⟨u, built⟩ := built_of_exchange quiet_logRequest requests_of_writeArriving sent
    exact ⟨_, _, _, u, (request_of_logRequest built).2⟩

end Operation

/-- The path under which the API knows a resource of an instance. -/
def resourcePath (target resource : Text) : Text := "/resources/" ++ target ++ "/" ++ resource

/-- The resource that a request names to the proxy. -/
def callback? (request : Http.Request) : Option Text :=
  (Http.readQuery (request.url.query.getD [])).lookup ("callback" : Text)

section

variable {client : Client} {target service : Text} {answer : Http.Answer} {s : Session} {request : Http.Request}
  {operation : Operation}

/-- A proxied request names its resource as it is, whatever the instance is called. -/
theorem callback?_of_sends (route : client.route = .proxied service)
    (sent : request ∈ operation.sends client target answer s) :
    callback? request = some (resourcePath target operation.resource) := by
  obtain ⟨_, _, _, _, built⟩ := Operation.built_of_sends sent
  obtain ⟨_, _, _, _, path, query, base, resolved, _, below, _⟩ := request_eq_ok built
  rw [route] at resolved
  cases resolved
  obtain ⟨encoded, written, asked⟩ := Http.Url.query_of_below below (List.cons_ne_nil _ _)
  rw [callback?, asked, Http.escaped_of_encodeQuery written, Option.getD_some,
    Http.readQuery_of_encodeQuery (List.cons_ne_nil _ _) written]
  rfl

theorem plain_resource (operation : Operation) : Http.Plain operation.resource := by
  have log : Http.Plain ("log" : Text) :=
    ⟨by decide, by decide, Http.not_hasEscape_of_not_mem (by decide), by decide⟩
  have autoscale : Http.Plain ("autoscale" : Text) :=
    ⟨by decide, by decide, Http.not_hasEscape_of_not_mem (by decide), by decide⟩
  cases operation with
  | log args => exact log
  | getAutoscale => exact autoscale
  | updateAutoscale policy => exact autoscale
  | removeAutoscale => exact autoscale

/-- A direct request reaches its resource only if the name of the instance stands for itself in a URL. -/
theorem leadsTo_of_sends (route : client.route = .direct) (sent : request ∈ operation.sends client target answer s)
    (scheme : request.url.scheme ≠ []) : ∃ base, Http.Url.parseBase client.baseUrl = .ok base ∧
      (base.LeadsTo request.url (resourcePath target operation.resource) ↔ base.query = none ∧ Http.Plain target) := by
  obtain ⟨_, _, _, _, built⟩ := Operation.built_of_sends sent
  obtain ⟨_, _, _, _, path, query, base, resolved, parsed, below, _⟩ := request_eq_ok built
  rw [route] at resolved
  cases resolved
  refine ⟨base, parsed, ?_⟩
  have start : Http.Plain ("resources" : Text) :=
    ⟨by decide, by decide, Http.not_hasEscape_of_not_mem (by decide), by decide⟩
  have shape : resourcePath target operation.resource =
      .char '/' :: (("resources" : Text) ++ .char '/' :: (target ++ .char '/' :: operation.resource)) := by
    simp only [resourcePath, List.append_assoc]
    rfl
  have whole : Http.Plain (("resources" : Text) ++ .char '/' :: (target ++ .char '/' :: operation.resource)) ↔
      Http.Plain target := by
    rw [Http.plain_append, Http.plain_append]
    exact ⟨fun plain => plain.2.1, fun plain => ⟨start, plain, plain_resource operation⟩⟩
  replace below : base.below (resourcePath target operation.resource) ([] ++ operation.parameters target) =
      .ok request.url := below
  rw [shape] at below ⊢
  rw [← whole]
  exact Http.Url.leadsTo_iff rfl parsed below scheme

/-- Directly and through the proxy, the API sees the same resource of an instance exactly if the name of the instance
stands for itself in a URL, and the address of the API has no query. What the proxy is told is always right. -/
theorem same_resource_iff {direct proxied : Client} {t : Session} {other : Http.Answer} {told : Http.Request}
    (own : direct.route = .direct) (through : proxied.route = .proxied service)
    (sent : request ∈ operation.sends direct target answer s)
    (tells : told ∈ operation.sends proxied target other t) (scheme : request.url.scheme ≠ []) :
    ∃ base, Http.Url.parseBase direct.baseUrl = .ok base ∧
      callback? told = some (resourcePath target operation.resource) ∧
      ((∃ path, base.LeadsTo request.url path ∧ callback? told = some path) ↔
        base.query = none ∧ Http.Plain target) := by
  obtain ⟨base, parsed, leads⟩ := leadsTo_of_sends own sent scheme
  have named := callback?_of_sends through tells
  refine ⟨base, parsed, named, ?_⟩
  rw [← leads]
  constructor
  · rintro ⟨path, reached, same⟩
    rw [named] at same
    cases same
    exact reached
  · intro reached
    exact ⟨_, reached, named⟩

end

def nearby (route : Route) : Client :=
  { route, baseUrl := "http://rpaas.test", timeout := defaultTimeout, headers := [] }

def gone : Http.Answer := .ok { status := 204, reason := "No Content", headers := [], chunks := [] }

theorem same_resource_of_plain_name :
    ∃ request ∈ Operation.removeAutoscale.sends (nearby .direct) "my-instance" gone {},
      ∃ told ∈ Operation.removeAutoscale.sends (nearby (.proxied "rpaas")) "my-instance" gone {},
        ∃ base path, Http.Url.parseBase "http://rpaas.test" = .ok base ∧ base.LeadsTo request.url path ∧
          callback? told = some path := by
  have sends : (Operation.removeAutoscale.sends (nearby .direct) "my-instance" gone {}).map
      (fun request => request.url.scheme) = [("http" : Text)] := by decide +kernel
  have tells : (Operation.removeAutoscale.sends (nearby (.proxied "rpaas")) "my-instance" gone {}).map
      (fun request => request.url.scheme) = [("http" : Text)] := by decide +kernel
  have unasked : (Http.Url.parseBase "http://rpaas.test").toOption.map Http.Url.query = some none := by decide +kernel
  have plain : Http.Plain ("my-instance" : Text) :=
    ⟨by decide, by decide, Http.not_hasEscape_of_not_mem (by decide), by decide⟩
  obtain ⟨request, sent, scheme⟩ := List.mem_map.mp (sends ▸ List.mem_singleton_self _)
  obtain ⟨told, tell, _⟩ := List.mem_map.mp (tells ▸ List.mem_singleton_self _)
  obtain ⟨base, parsed, _, same⟩ := same_resource_iff rfl rfl sent tell (by rw [scheme]; decide)
  replace parsed : Http.Url.parseBase "http://rpaas.test" = .ok base := parsed
  have none : base.query = Option.none := by
    rw [parsed] at unasked
    exact Option.some.inj unasked
  obtain ⟨path, leads, named⟩ := same.mpr ⟨none, plain⟩
  exact ⟨request, sent, told, tell, base, path, parsed, leads, named⟩

/-- A question mark in its name makes an instance itself the resource that is removed. -/
theorem other_resource_of_question_mark :
    (Operation.removeAutoscale.sends (nearby .direct) "my-instance?" gone {}).map
        (fun request => (request.method, request.url.toText)) =
        [(Http.Method.delete, ("http://rpaas.test/resources/my-instance" : Text))] ∧
      (Operation.removeAutoscale.sends (nearby (.proxied "rpaas")) "my-instance?" gone {}).map callback? =
        [some ("/resources/my-instance?/autoscale" : Text)] := by
  constructor
  · decide +kernel
  · decide +kernel

end ProxyControl.Client
