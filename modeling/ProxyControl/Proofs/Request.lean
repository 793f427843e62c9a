import ProxyControl.Proofs.Session
import ProxyControl.Proofs.Text.Encoding

namespace ProxyControl

namespace LogArgs

variable {args : LogArgs}

/-- The parameters of a log request are there if the number of lines can be printed, and then they are the query. -/
theorem parameters_eq_ok {parameters : List (Text × Text)} :
    args.parameters = .ok parameters ↔ (∀ n ∈ args.lines, Json.Printable (n : Nat)) ∧ args.query = parameters := by
  rw [LogArgs.parameters, printing_eq_ok]
  cases args.lines with
  | none => simp
  | some n => simp

theorem parameters_of_unprintable (unprintable : ¬ ∀ n ∈ args.lines, Json.Printable (n : Nat)) :
    args.parameters = .error (.fault .value Text.unprintable) := by
  refine printing_of_unprintable fun printable => unprintable fun n given => ?_
  exact printable n (List.mem_map.mpr ⟨n, Option.mem_toList.mpr given, rfl⟩)

end LogArgs

namespace Client

open Session

variable {s t : Session}

theorem quiet_connect (client : Client) : Quiet client.connect := by
  unfold connect
  refine (quiet_ofOutcome _).bind fun base => Quiet.bind (fun _ => ⟨rfl, rfl⟩) fun session => ?_
  split
  · exact quiet_pure base
  · exact (quiet_ofOutcome _).bind fun _ => Quiet.bind (fun _ => ⟨rfl, rfl⟩) fun _ => quiet_pure base

/-- A connection is opened to the base URL of the client. -/
theorem parseBase_of_connect {client : Client} {base : Http.Url} (run : run s client.connect = (.ok base, t)) :
    Http.Url.parseBase client.baseUrl = .ok base := by
  unfold connect at run
  obtain ⟨parsed, _, first, run⟩ := run_bind_eq_ok.mp run
  rw [run_ofOutcome_eq_ok, mapError_eq_ok] at first
  suffices same : parsed = base by rw [← same, first.1]
  obtain ⟨session, _, _, run⟩ := run_bind_eq_ok.mp run
  split at run
  · exact (run_pure_eq_ok.mp run).1
  · obtain ⟨_, _, _, run⟩ := run_bind_eq_ok.mp run
    obtain ⟨_, _, _, run⟩ := run_bind_eq_ok.mp run
    exact (run_pure_eq_ok.mp run).1

/-- The failures of building a request: the request is refused, or a part of it has no encoding or no meaning. -/
inductive Unbuilt : Failure → Prop
  | refused (refusal : Refusal) : Unbuilt (.refused refusal)
  | fault (kind : Fault) (message : Text) : Unbuilt (.fault kind message)

theorem failsAs_url {α : Type} (outcome : Except Http.UrlError α) :
    FailsAs Unbuilt (ofOutcome (outcome.mapError Http.UrlError.failure)) := by
  refine failsAs_ofOutcome fun failure fails => ?_
  obtain ⟨error, _, rfl⟩ := mapError_eq_error.mp fails
  cases error with
  | unencodable e => exact .fault _ _
  | _ => exact .fault _ _

theorem failsAs_encoding {α : Type} (outcome : Except EncodingError α) :
    FailsAs Unbuilt (ofOutcome (outcome.mapError encodingFailure)) := by
  refine failsAs_ofOutcome fun failure fails => ?_
  obtain ⟨e, _, rfl⟩ := mapError_eq_error.mp fails
  exact .fault _ _

theorem failsAs_connect (client : Client) : FailsAs Unbuilt client.connect := by
  unfold connect
  refine (failsAs_url _).bind fun base => FailsAs.bind (failsAs_of_ok fun s => ⟨s, s, rfl⟩) fun session => ?_
  split
  · exact failsAs_pure base
  · exact (failsAs_encoding _).bind fun _ => FailsAs.bind (failsAs_of_ok fun _ => ⟨(), _, rfl⟩) fun _ =>
      failsAs_pure base

/-- A document that can be sent is sent as its text. -/
theorem contentOf_eq_ok {document : Json} {content : Text} :
    contentOf document = .ok content ↔
      (∀ n ∈ document.integers, Json.Printable n) ∧ content = document.render Json.wire ∧ content.IsUnicode := by
  unfold contentOf
  constructor
  · intro run
    obtain ⟨text, printed, run⟩ := bind_eq_ok.mp run
    obtain ⟨printable, rfl⟩ := printing_eq_ok.mp printed
    obtain ⟨bytes, encoded, same⟩ := bind_eq_ok.mp run
    cases same
    exact ⟨printable, rfl, (Text.toUtf8_eq_ok.mp (mapError_eq_ok.mp encoded)).1⟩
  · rintro ⟨printable, rfl, unicode⟩
    have encoded := Text.toUtf8_eq_ok.mpr ⟨unicode, rfl⟩
    exact bind_eq_ok.mpr ⟨_, printing_eq_ok.mpr ⟨printable, rfl⟩, bind_eq_ok.mpr ⟨_, mapError_eq_ok.mpr encoded, rfl⟩⟩

theorem unbuilt_of_contentOf {document : Json} {failure : Failure} (fails : contentOf document = .error failure) :
    Unbuilt failure := by
  unfold contentOf at fails
  rcases bind_eq_error.mp fails with unprinted | ⟨text, _, fails⟩
  · rw [printing_eq_error unprinted]
    exact .fault _ _
  · rcases bind_eq_error.mp fails with bare | ⟨_, _, impossible⟩
    · obtain ⟨e, _, rfl⟩ := mapError_eq_error.mp bare
      exact .fault _ _
    · cases impossible

theorem content_eq_ok {document : Option Json} {content : Option Text} (run : document.mapM contentOf = .ok content) :
    content = document.map (Json.render Json.wire) ∧ ∀ t ∈ content, t.IsUnicode := by
  cases document with
  | none =>
    cases run
    exact ⟨rfl, fun _ impossible => nomatch impossible⟩
  | some document =>
    obtain ⟨text, sent, rfl⟩ := map_eq_ok.mp run
    obtain ⟨_, rfl, unicode⟩ := contentOf_eq_ok.mp sent
    refine ⟨rfl, fun t given => ?_⟩
    cases given
    exact unicode

theorem failsAs_content (document : Option Json) : FailsAs Unbuilt (ofOutcome (document.mapM contentOf)) := by
  refine failsAs_ofOutcome fun failure fails => ?_
  cases document with
  | none => cases fails
  | some document =>
    cases sent : contentOf document with
    | ok content =>
      rw [Option.mapM_some, sent] at fails
      cases fails
    | error cause =>
      rw [Option.mapM_some, sent] at fails
      cases fails
      exact unbuilt_of_contentOf sent

section

variable {client : Client} {method : Http.Method} {target resource : Text} {parameters : List (Text × Text)}
  {document : Option Json} {readLimit : Option Binary64}

theorem quiet_request : Quiet (client.request method target resource parameters document readLimit) := by
  unfold Client.request
  dsimp only
  split
  · exact quiet_throw_bind _ _
  · refine (quiet_ofOutcome _).bind fun (path, query) => client.quiet_connect.bind fun base => ?_
    exact (quiet_ofOutcome _).bind fun _ => (quiet_ofOutcome _).bind fun _ => (quiet_ofOutcome _).bind fun _ =>
      client.quiet_connect.bind fun _ => quiet_pure _

theorem failsAs_request : FailsAs Unbuilt (client.request method target resource parameters document readLimit) := by
  unfold Client.request
  dsimp only
  split
  · exact failsAs_throw_bind _ (.refused _)
  · refine (failsAs_ofOutcome fun failure fails => ?_).bind fun (path, query) =>
      client.failsAs_connect.bind fun base => ?_
    · cases route : client.route with
      | direct =>
        rw [route] at fails
        cases fails
      | proxied service =>
        rw [route] at fails
        cases fails
      | unknown =>
        rw [route] at fails
        cases fails
        exact .fault _ _
    · exact (failsAs_url _).bind fun _ => (failsAs_content _).bind fun _ => (failsAs_encoding _).bind fun _ =>
        client.failsAs_connect.bind fun _ => failsAs_pure _

/-- What a request that was built is for, and where it goes. -/
theorem request_eq_ok {request : Http.Request}
    (run : run s (client.request method target resource parameters document readLimit) = (.ok request, t)) :
    target ≠ [] ∧ request.method = method ∧ request.content = document.map (Json.render Json.wire) ∧
      (∀ t ∈ request.content, t.IsUnicode) ∧
      ∃ path query base, client.route.resolve target resource = .ok (path, query) ∧
        Http.Url.parseBase client.baseUrl = .ok base ∧ base.below path (query ++ parameters) = .ok request.url ∧
        request.parameters = query ++ parameters := by
  unfold Client.request at run
  dsimp only at run
  split at run
  · rw [run_bind, run_throw] at run
    cases run
  rename_i nonempty
  obtain ⟨⟨path, query⟩, _, resolved, run⟩ := run_bind_eq_ok.mp run
  obtain ⟨base, _, connected, run⟩ := run_bind_eq_ok.mp run
  obtain ⟨url, _, below, run⟩ := run_bind_eq_ok.mp run
  obtain ⟨content, _, fits, run⟩ := run_bind_eq_ok.mp run
  obtain ⟨_, _, _, run⟩ := run_bind_eq_ok.mp run
  obtain ⟨_, _, _, run⟩ := run_bind_eq_ok.mp run
  rw [run_ofOutcome_eq_ok] at resolved below fits
  rw [mapError_eq_ok] at below
  obtain ⟨rfl, _⟩ := run_pure_eq_ok.mp run
  obtain ⟨same, unicode⟩ := content_eq_ok fits.1
  exact ⟨fun empty => nonempty (by rw [empty]; rfl), rfl, same, unicode, path, query, base, resolved.1,
    parseBase_of_connect connected, below.1, rfl⟩

end

section

variable {client : Client} {args : LogArgs}

theorem quiet_logRequest : Quiet (client.logRequest args) := (quiet_ofOutcome _).bind fun _ => quiet_request

theorem failsAs_logRequest : FailsAs Unbuilt (client.logRequest args) := by
  refine (failsAs_ofOutcome fun failure fails => ?_).bind fun _ => failsAs_request
  rw [printing_eq_error fails]
  exact .fault _ _

/-- A request for a log is one with the parameters of its arguments. -/
theorem request_of_logRequest {request : Http.Request}
    (built : run s (client.logRequest args) = (.ok request, t)) :
    (∀ n ∈ args.lines, Json.Printable (n : Nat)) ∧
      run s (client.request .get args.target "log" args.query none
        (if args.follow then none else some client.timeout)) = (.ok request, t) := by
  obtain ⟨parameters, _, printed, built⟩ := run_bind_eq_ok.mp built
  rw [run_ofOutcome_eq_ok, LogArgs.parameters_eq_ok] at printed
  obtain ⟨⟨printable, rfl⟩, rfl⟩ := printed
  exact ⟨printable, built⟩

end

end Client

end ProxyControl
