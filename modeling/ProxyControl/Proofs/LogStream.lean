import ProxyControl.Proofs.Exchange

namespace ProxyControl

open Utf8 (Bytes Replaced)

namespace Client

open Session

variable {client : Client} {args : LogArgs} {request : Http.Request} {reply : Http.Reply} {s u : Session}

/-- The reply with its body as another sequence of pieces. -/
def streaming (reply : Http.Reply) (chunks : List Http.Chunk) : Http.Answer := .ok { reply with chunks }

/-- An accepted log is written as its text arrives, and the call ends as the stream does. -/
theorem run_log (built : run s (client.logRequest args) = (.ok request, u)) (accepted : Accepted request reply true)
    (chunks : List Http.Chunk) :
    (run s (client.log args (streaming reply chunks))).1 =
        (Http.Reply.textFrom reply.charset .start chunks).2.elim (.ok ()) .error ∧
      (run s (client.log args (streaming reply chunks))).2.written =
        s.written ++ (Http.Reply.textFrom reply.charset .start chunks).1 := by
  have unwritten : u.written = s.written := (quiet_logRequest.unchanged built).2
  have streamed : Accepted request { reply with chunks } true :=
    ⟨accepted.scheme, accepted.location, fun impossible => (Bool.noConfusion impossible), accepted.success⟩
  obtain ⟨v, written, ends⟩ : ∃ v, v.written = u.written ∧
      run s (client.log args (streaming reply chunks)) = run v (writeArriving { reply with chunks }) := by
    rw [log_eq_exchange]
    exact run_exchange built streamed
  rw [ends, run_writeArriving]
  refine ⟨rfl, ?_⟩
  dsimp only
  rw [written, unwritten]
  rfl

/-- A log without a declared character set is written as its bytes say in UTF-8, in whatever pieces they arrive. Of a
stream that fails, all is written that its bytes say, but for one malformed sequence that they may end in, and that
stands at the beginning of what any continuation would have had written. -/
theorem log_writes_replaced (built : run s (client.logRequest args) = (.ok request, u))
    (accepted : Accepted request reply true) (undeclared : reply.declaredCharset? = none) (bytes : Bytes) :
    (∃ t, Replaced bytes t ∧ ∀ pieces : List Bytes, pieces.flatten = bytes →
      (run s (client.log args (streaming reply (pieces.map .bytes)))).1 = .ok () ∧
        (run s (client.log args (streaming reply (pieces.map .bytes)))).2.written = s.written ++ t) ∧
    ∃ before held, held.length ≤ 1 ∧ Replaced bytes (before ++ held) ∧
      (∀ more t, Replaced (bytes ++ more) t → before <+: t) ∧
      ∀ (pieces : List Bytes) (failure : Failure) (later : List Http.Chunk), pieces.flatten = bytes →
        (run s (client.log args (streaming reply (pieces.map .bytes ++ .failure failure :: later)))).1 =
            .error failure ∧
          (run s (client.log args (streaming reply (pieces.map .bytes ++ .failure failure :: later)))).2.written =
            s.written ++ before := by
  have utf8 : reply.charset = .utf8 := by rw [Http.Reply.charset, undeclared, Option.elim_none]
  constructor
  · refine ⟨_, Utf8.replaced_decodeLeniently bytes, fun pieces whole => ?_⟩
    obtain ⟨ends, written⟩ := run_log built accepted (pieces.map .bytes)
    rw [utf8, Http.Reply.textFrom_pieces, whole, Charset.decodeLeniently_utf8] at ends written
    exact ⟨ends, written⟩
  · -- At the failure only the sequence that is still open is held back.
    obtain ⟨held, short, whole⟩ := Charset.replaced_of_complete bytes
    refine ⟨_, held, short, whole, fun more t => Charset.complete_of_replaced, fun pieces failure later cut => ?_⟩
    obtain ⟨ends, written⟩ := run_log built accepted (pieces.map .bytes ++ .failure failure :: later)
    rw [utf8, Http.Reply.textFrom_failing, cut] at ends written
    exact ⟨ends, written⟩

/-- A client that reaches the API directly. -/
def nearbyLog : Client where
  route := .direct
  baseUrl := "http://rpaas.test"
  timeout := defaultTimeout
  headers := [("User-Agent", defaultUserAgent)]

/-- A character that arrives in two pieces is written as one, and not at all if the second piece does not arrive. -/
theorem log_writes_split_character :
    (run {} (nearbyLog.log { target := "my-instance" }
      (.ok ⟨200, "OK", [], [.bytes [0x68, 0xC3], .bytes [], .bytes [0xA9]]⟩))).2.written = ("hé" : Text) ∧
    (run {} (nearbyLog.log { target := "my-instance" }
      (.ok ⟨200, "OK", [], [.bytes [0x68, 0xC3], .failure (.broken .readError "reset")]⟩))).2.written <+:
        ("hé" : Text) := by
  have sends : (run {} (nearbyLog.logRequest { target := "my-instance" })).1.toOption.map
      (fun request => request.url.scheme) = some ("http" : Text) := by decide +kernel
  obtain ⟨request, built, scheme⟩ := Option.map_eq_some_iff.mp sends
  rw [toOption_eq_some] at built
  have accepted : Accepted request ⟨200, "OK", [], []⟩ true :=
    ⟨by rw [scheme]; decide, rfl, fun impossible => Bool.noConfusion impossible, rfl⟩
  have writes := log_writes_replaced (Prod.ext built rfl) accepted rfl
  have whole : Replaced [0x68, 0xC3, 0xA9] ("hé" : Text) := Utf8.replaced_iff.mpr (by decide)
  constructor
  · obtain ⟨⟨t, replaced, each⟩, _⟩ := writes [0x68, 0xC3, 0xA9]
    obtain rfl : t = ("hé" : Text) := (Utf8.replaced_iff.mp replaced).trans (Utf8.replaced_iff.mp whole).symm
    exact (each [[0x68, 0xC3], [], [0xA9]] rfl).2
  · obtain ⟨_, before, _, _, _, begins, each⟩ := writes [0x68, 0xC3]
    have written := (each [[0x68, 0xC3]] (.broken .readError "reset") [] rfl).2
    have begun : before <+: ("hé" : Text) := begins [0xA9] _ whole
    exact written ▸ begun

end Client

end ProxyControl
