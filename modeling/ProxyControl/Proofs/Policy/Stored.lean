import ProxyControl.Proofs.CommandLine.Perform
import ProxyControl.Proofs.Json.Sorted
import ProxyControl.Proofs.Policy.Update
import ProxyControl.Proofs.Text.Utf8

namespace ProxyControl

open Json (KeysSorted Readable Reordered)
open Session (run run_bind run_bind_ok run_ofOutcome)

/-- An object with a member is read from the bytes of its text. -/
theorem documentOf_encodeLoosely {t : Text} {v : Json}
    (opens : ∃ rest, t = .char '\x7b' :: .char '"' :: rest) (parsed : Json.parse t = .ok v) :
    documentOf (Utf8.encodeLoosely t) = .ok v := by
  obtain ⟨rest, rfl⟩ := opens
  have bytes : Utf8.encodeLoosely (.char '\x7b' :: .char '"' :: rest) = 0x7B :: 0x22 :: Utf8.encodeLoosely rest := rfl
  have decoded : decodeDocument (0x7B :: 0x22 :: Utf8.encodeLoosely rest) =
      (Utf8.decode .pass (0x7B :: 0x22 :: Utf8.encodeLoosely rest)).mapError Utf8.Error.general := rfl
  rw [documentOf, bytes, decoded, ← bytes, Utf8.decode_encodeLoosely]
  exact mapError_eq_ok.mpr parsed

namespace Autoscale

variable {policy : Autoscale}

theorem render_opens (policy : Autoscale) (style : Json.Style) :
    ∃ rest, policy.payload.render style = .char '\x7b' :: .char '"' :: rest := ⟨_, rfl⟩

theorem documentOf_payload (readable : Readable false policy.payload) :
    documentOf (Utf8.encodeLoosely (policy.payload.render Json.wire)) = .ok policy.payload :=
  documentOf_encodeLoosely (render_opens policy Json.wire)
    (Json.parse_render Json.plain_wire readable policy.shallow_payload)

theorem parse_renderJson (readable : Readable true policy.payload) :
    Json.parse policy.renderJson = .ok policy.payload.sortKeys :=
  Json.parse_renderIndented readable.sortKeys policy.shallow_payload.sortKeys (by decide)

end Autoscale

namespace CommandLine.Command

variable {context later : Context} {service target service' target' : Option Text} {flags : UpdateFlags}
  {answer : Http.Answer} {patch get : Http.Request} {reply : Http.Reply} {body : Utf8.Bytes}

/-- Whatever the content of an update, it can be read back from its bytes. -/
theorem content_of_updatePolicy (printable : flags.Printable)
    (sent : patch ∈ (Session.run {} (perform context answer (.updatePolicy service target flags))).2.requests) :
    ∃ policy, flags.policy = .ok policy ∧ patch.method = .patch ∧
      patch.content = some (policy.payload.render Json.wire) ∧
        ∀ asciiOnly, Readable asciiOnly policy.payload := by
  obtain ⟨policy, client, u, v, described, _, built⟩ := request_of_updatePolicy sent
  obtain ⟨_, method, content, unicode, _⟩ := Client.request_eq_ok built
  rw [Option.map_some] at content
  have holds := UpdateFlags.holds_of_policy printable described
  have readable : Readable false policy.payload := holds.readable fun _ _ impossible => nomatch impossible
  exact ⟨policy, described, method, content, fun _ => readable.of_isUnicode rfl (unicode _ content)⟩

/-- If the content of an update is stored byte by byte and answers a later request for the policy, then the policy of
the update is fetched, and the object of the content is shown with sorted keys. -/
theorem showPolicy_of_stored_update (printable : flags.Printable)
    (sent : patch ∈ (Session.run {} (perform context answer (.updatePolicy service target flags))).2.requests)
    (stored : patch.content.map Utf8.encodeLoosely = some body) (answered : reply.body = .ok body)
    (success : reply.isError = false) (location : Client.checkLocation get reply = .ok ())
    (asked : get ∈ (Session.run {} (perform later (.ok reply) (.showPolicy service' target' true))).2.requests)
    (scheme : get.url.scheme ≠ []) :
    ∃ policy client fetched object shown, flags.policy = .ok policy ∧ later.client service' = .ok client ∧
      (Session.run {} (client.getAutoscale (target'.getD []) (.ok reply))).1 = .ok fetched ∧
      policy.sameValues fetched = true ∧
      documentOf body = .ok object ∧
      (Session.run {} (perform later (.ok reply) (.showPolicy service' target' true))).1 = .ok () ∧
      Json.parse (Session.run {} (perform later (.ok reply) (.showPolicy service' target' true))).2.written =
        .ok shown ∧
      Reordered object shown ∧ KeysSorted shown := by
  obtain ⟨policy, described, _, content, readable⟩ := content_of_updatePolicy printable sent
  rw [content] at stored
  cases stored
  obtain ⟨client, u, found, built, shows⟩ := run_showPolicy asked
  have quiet : u.written = [] := (Client.quiet_request.unchanged built).2
  have document := Autoscale.documentOf_payload (readable false)
  obtain ⟨v, written, received⟩ : ∃ v, v.written = u.written ∧
      Session.run {} (client.getAutoscale (target'.getD []) (.ok reply)) = Session.run v (Session.ofOutcome
        (do Autoscale.validate (← documentOf (← reply.body)))) :=
    Client.run_exchange built ⟨scheme, location, fun _ => ⟨_, answered⟩, success⟩
  have validated : (do Autoscale.validate (← documentOf (← reply.body)) : Outcome Autoscale) = .ok policy.sent := by
    rw [answered]
    exact bind_eq_ok.mpr ⟨_, rfl, bind_eq_ok.mpr ⟨_, document, policy.validate_payload⟩⟩
  rw [validated, run_ofOutcome] at received
  obtain ⟨_, run⟩ := shows received
  have text : Json.parse (v.written ++ policy.sent.renderJson) = .ok policy.payload.sortKeys := by
    rw [written, quiet, List.nil_append, Autoscale.renderJson, Autoscale.payload_sent]
    exact Autoscale.parse_renderJson (readable true)
  refine ⟨policy, client, policy.sent, policy.payload, policy.payload.sortKeys, described, found, ?_,
    policy.sameValues_sent, document, ?_, ?_, (readable true).reordered_sortKeys, (readable true).keysSorted_sortKeys⟩
  · rw [received]
  · rw [run]
  · rw [run]
    exact text

def nightFlags : UpdateFlags where
  minimum := 1
  maximum := 3
  cpu := some 50
  schedules :=
    ["\x7b\"minReplicas\": 2, \"start\": \"0 8 * * *\", \"end\": \"0 18 * * *\", \"timezone\": \"Zürich 𝄞\"\x7d"]

def nightContext : Context := { target := { rpaasUrl := some "http://rpaas.test" } }

/-- The answer of an API that has stored the content of the update. -/
def nightReply : Http.Reply where
  status := 200
  reason := "OK"
  headers := []
  chunks := [.bytes (Utf8.encodeLoosely
    "\x7b\"minReplicas\":1,\"maxReplicas\":3,\"cpu\":50,\"schedules\":[\x7b\"minReplicas\":2,\"start\":\"0 8 * * *\",\"end\":\"0 18 * * *\",\"timezone\":\"Zürich 𝄞\"\x7d]\x7d")]

theorem showPolicy_of_stored_night :
    ∃ policy client fetched object shown, nightFlags.policy = .ok policy ∧ nightContext.client none = .ok client ∧
      (Session.run {} (client.getAutoscale "i" (.ok nightReply))).1 = .ok fetched ∧
      policy.sameValues fetched = true ∧
      documentOf (Utf8.encodeLoosely (policy.payload.render Json.wire)) = .ok object ∧
      Json.parse (Session.run {} (perform nightContext (.ok nightReply) (.showPolicy none (some "i") true))).2.written =
        .ok shown ∧
      Reordered object shown ∧ KeysSorted shown := by
  have small : nightFlags.Printable := by
    have fits {n : Nat} (bound : n < Nat.pow 10 2) : Json.Printable n :=
      Nat.lt_of_lt_of_le bound (Json.pow_ten_le (by decide))
    refine ⟨fits (n := 1) (by decide), fits (n := 3) (by decide), fun n given => ?_, fun n given => ?_,
      fun n given => ?_⟩
    · cases given
      exact fits (n := 50) (by decide)
    · cases given
    · cases given
  have updates : (Session.run {}
      (perform nightContext (.ok nightReply) (.updatePolicy none (some "i") nightFlags))).2.requests.map
      (fun request => request.content.map Utf8.encodeLoosely) = [nightReply.body.toOption] := by decide +kernel
  have fetches : (nightContext.client none).toOption.map (fun client =>
      (Session.run {} (client.getAutoscale "i" (.ok nightReply))).2.requests.map fun request => request.url.scheme) =
        some [("http" : Text)] := by decide +kernel
  obtain ⟨reader, known, shows⟩ := Option.map_eq_some_iff.mp fetches
  rw [toOption_eq_some] at known
  obtain ⟨patch, sent, stored⟩ := List.mem_map.mp (updates ▸ List.mem_singleton_self _)
  obtain ⟨get, asked, scheme⟩ := List.mem_map.mp (shows ▸ List.mem_singleton_self _)
  have shown : get ∈
      (Session.run {} (perform nightContext (.ok nightReply) (.showPolicy none (some "i") true))).2.requests := by
    rw [requests_of_showPolicy known]
    exact asked
  obtain ⟨policy, described, _, content, _⟩ := content_of_updatePolicy small sent
  rw [content] at stored
  have answered := toOption_eq_some.mp stored.symm
  obtain ⟨policy', client, fetched, object, output, same, found, received, equal, read, _, parsed, reordered, sorted⟩ :=
    showPolicy_of_stored_update small sent (by rw [content]; rfl) answered rfl rfl shown
      (by rw [scheme]; decide)
  rw [described] at same
  cases same
  exact ⟨policy, client, fetched, object, output, described, found, received, equal, read, parsed, reordered, sorted⟩

end CommandLine.Command

end ProxyControl
