import ProxyControl.Proofs.Resource

namespace ProxyControl

namespace Http

/-- No path holds the mark that begins a query. -/
theorem UrlParts.query_not_mem_path {parts : UrlParts} {url : Url} (built : parts.toUrl = .ok url) :
    .char '?' ∉ url.path := by
  unfold toUrl at built
  dsimp only at built
  obtain ⟨_, _, built⟩ := bind_eq_ok.mp built
  obtain ⟨_, _, built⟩ := bind_eq_ok.mp built
  obtain ⟨_, _, built⟩ := bind_eq_ok.mp built
  obtain ⟨_, _, built⟩ := bind_eq_ok.mp built
  obtain ⟨path, placed, built⟩ := bind_eq_ok.mp built
  obtain ⟨_, _, built⟩ := bind_eq_ok.mp built
  obtain ⟨_, _, built⟩ := bind_eq_ok.mp built
  cases built
  rw [mapError_eq_ok] at placed
  rw [percentEncode_eq_ok placed]
  intro member
  have kept : IsKept isPathSafe (.char '?') := isKept_of_mem_escaped (by decide) member
  revert kept
  decide

namespace Url

variable {url base : Url} {path : Text} {parameters : List (Text × Text)}

/-- What goes out with a request is cut where its path ends, whatever was written into the path. -/
theorem cut?_target {query : Text} (asked : url.query = some query) (unmarked : .char '?' ∉ url.path) :
    Text.cut? (.char '?') url.target = some (url.root, query) := by
  have root : .char '?' ∉ url.root := by
    unfold Url.root
    split
    · decide
    · exact unmarked
  have shape : url.target = url.root ++ .char '?' :: query := by
    rw [target, asked]
    rfl
  rw [shape, Text.cut?_append_self root]

/-- The parameters of a request below a base URL are read back from its query, and from what goes out with it. -/
theorem readQuery_of_below (built : base.below path parameters = .ok url) (given : parameters ≠ []) :
    ∃ query, url.query = some query ∧ Text.cut? (.char '?') url.target = some (url.root, query) ∧
      readQuery query = parameters := by
  obtain ⟨query, written, asked⟩ := query_of_below built given
  rw [escaped_of_encodeQuery written] at asked
  have unmarked : .char '?' ∉ url.path := by
    obtain ⟨_, _, built⟩ := bind_eq_ok.mp built
    obtain ⟨_, _, built⟩ := bind_eq_ok.mp built
    obtain ⟨_, built, _⟩ := withParameters_eq_ok built
    exact UrlParts.query_not_mem_path built
  exact ⟨query, asked, cut?_target asked unmarked, readQuery_of_encodeQuery given written⟩

end Url

end Http

namespace LogArgs

/-- The names that a log request may give to its parameters, in their order. -/
def parameterNames : List Text := ["follow", "color", "lines", "since", "pod", "container"]

theorem names_textParameter (name : Text) (value : Option Text) :
    ((textParameter name value).map Prod.fst).Sublist [name] := by
  unfold textParameter
  split
  · split
    · exact List.nil_sublist _
    · exact List.Sublist.refl _
  · exact List.nil_sublist _

theorem names_linesParameter (lines : Option Nat) : ((linesParameter lines).map Prod.fst).Sublist ["lines"] := by
  unfold linesParameter
  split
  · exact List.Sublist.refl _
  · exact List.nil_sublist _

theorem names_sinceParameter (since : Option Duration) :
    ((sinceParameter since).map Prod.fst).Sublist ["since"] := by
  unfold sinceParameter
  split
  · split
    · exact List.nil_sublist _
    · exact List.Sublist.refl _
  · exact List.nil_sublist _

/-- Each parameter of a log request is there once at most. -/
theorem names_query (args : LogArgs) : (args.query.map Prod.fst).Sublist parameterNames := by
  unfold query
  simp only [List.map_cons, List.map_append]
  refine .cons_cons _ (.cons_cons _ ?_)
  exact (((names_linesParameter _).append (names_sinceParameter _)).append (names_textParameter _ _)).append
    (names_textParameter _ _)

end LogArgs

namespace Client

open Session

/-- What the proxy is told besides the parameters of a request for a log. -/
def toldFor (target : Text) : Route → List (Text × Text)
  | .proxied _ => [("callback", resourcePath target "log")]
  | _ => []

/-- Whatever instance, service, pod and container are called: the query of a log request, as it goes out, is read as
the parameters of the log and nothing else, after a single callback if the request goes through the proxy. -/
theorem readQuery_of_log {client : Client} {args : LogArgs} {answer : Http.Answer} {s : Session}
    {request : Http.Request}
    (sent : request ∈ (run s (client.log args answer)).2.requests.drop s.requests.length) :
    ∃ query, request.url.query = some query ∧
      Text.cut? (.char '?') request.url.target = some (request.url.root, query) ∧
      Http.readQuery query = toldFor args.target client.route ++ args.query ∧
      ((Http.readQuery query).map Prod.fst).Nodup := by
  rw [log_eq_exchange] at sent
  obtain ⟨_, built⟩ := built_of_exchange quiet_logRequest requests_of_writeArriving sent
  obtain ⟨_, _, _, _, path, told, base, resolved, _, below, _⟩ := request_eq_ok (request_of_logRequest built).2
  have some : told ++ args.query ≠ [] := List.append_ne_nil_of_right_ne_nil _ (List.cons_ne_nil _ _)
  have route : told = toldFor args.target client.route := by
    cases way : client.route with
    | direct =>
      rw [way] at resolved
      cases resolved
      rfl
    | proxied service =>
      rw [way] at resolved
      cases resolved
      rfl
    | unknown =>
      rw [way] at resolved
      cases resolved
  obtain ⟨query, asked, cut, read⟩ := Http.Url.readQuery_of_below below some
  rw [route] at read
  refine ⟨query, asked, cut, read, ?_⟩
  have names : ((toldFor args.target client.route).map Prod.fst).Sublist ["callback"] := by
    cases client.route with
    | proxied service => exact List.Sublist.refl _
    | direct => exact List.nil_sublist _
    | unknown => exact List.nil_sublist _
  have distinct : (("callback" : Text) :: LogArgs.parameterNames).Nodup := by decide
  rw [read, List.map_append]
  exact (names.append args.names_query).nodup distinct

/-- A log whose every name tries to be more than a name. -/
def intruding : LogArgs :=
  { target := "a?callback=/b#%26lines=9", pod := some "p&follow=true", container := some "c+1=%3D", lines := some 5 }

theorem readQuery_of_intruding_log :
    ∃ request ∈ (run {} ((nearby (.proxied "rpaas?x=1&")).log intruding gone)).2.requests, ∃ query,
      request.url.query = some query ∧ Http.readQuery query =
        ([("callback", "/resources/a?callback=/b#%26lines=9/log"), ("follow", "false"), ("color", "true"),
          ("lines", "5"), ("pod", "p&follow=true"), ("container", "c+1=%3D")] : List (Text × Text)) := by
  have single : (run {} ((nearby (.proxied "rpaas?x=1&")).log intruding gone)).2.requests.length = 1 := by
    decide +kernel
  obtain ⟨request, only⟩ := List.length_eq_one_iff.mp single
  have sent : request ∈ (run {} ((nearby (.proxied "rpaas?x=1&")).log intruding gone)).2.requests := by
    rw [only]
    exact List.mem_singleton_self request
  have added : request ∈ (run {} ((nearby (.proxied "rpaas?x=1&")).log intruding gone)).2.requests.drop
      (({} : Session).requests.length) := by
    rw [show ({} : Session).requests.length = 0 from rfl, List.drop_zero]
    exact sent
  obtain ⟨query, asked, _, read, _⟩ := readQuery_of_log added
  exact ⟨request, sent, query, asked, read.trans (by decide +kernel)⟩

end Client

end ProxyControl
