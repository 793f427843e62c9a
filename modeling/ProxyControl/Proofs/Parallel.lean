import ProxyControl.Proofs.Session

namespace ProxyControl

/-- A request without the header that tells who sends it. -/
def Http.Request.anonymous (request : Http.Request) : Http.Request := { request with authorization := none }

namespace Session

/-- What can be told from a session without knowing who sent its requests. -/
def anonymous (session : Session) : Session :=
  { session with requests := session.requests.map Http.Request.anonymous }

variable {α β α' β' γ : Type} {s t : Session}

theorem anonymous_eq_iff : s.anonymous = t.anonymous ↔ s.connection = t.connection ∧
    s.requests.map Http.Request.anonymous = t.requests.map Http.Request.anonymous ∧ s.records = t.records ∧
      s.written = t.written := by
  rw [anonymous, anonymous, Session.mk.injEq]

/-- The ends of two calls that differ at most in who sent the requests: both succeed with related results, or both fail
in the same way. -/
inductive EndAlike (related : α → β → Prop) : Outcome α × Session → Outcome β × Session → Prop where
  | ok {a : α} {b : β} {s t : Session} (results : related a b) (sessions : s.anonymous = t.anonymous) :
    EndAlike related (.ok a, s) (.ok b, t)
  | error {s t : Session} (failure : Failure) (sessions : s.anonymous = t.anonymous) :
    EndAlike related (.error failure, s) (.error failure, t)

/-- Two calls that do the same, whoever sends the requests. -/
def Parallel (related : α → β → Prop) (left : Call α) (right : Call β) : Prop :=
  ∀ s t, s.anonymous = t.anonymous → EndAlike related (run s left) (run t right)

variable {related : α → β → Prop} {related' : α' → β' → Prop} {left : Call α} {right : Call β}

theorem parallel_pure {a : α} {b : β} (results : related a b) : Parallel related (pure a) (pure b) :=
  fun _ _ sessions => .ok results sessions

theorem parallel_throw (failure : Failure) : Parallel related (throw failure) (throw failure) :=
  fun _ _ sessions => .error failure sessions

theorem parallel_get : Parallel (fun s t : Session => s.anonymous = t.anonymous) get get :=
  fun _ _ sessions => .ok sessions sessions

theorem parallel_modify {f g : Session → Session}
    (kept : ∀ {s t}, s.anonymous = t.anonymous → (f s).anonymous = (g t).anonymous) :
    Parallel Eq (modify f : Call Unit) (modify g : Call Unit) :=
  fun _ _ sessions => .ok rfl (kept sessions)

theorem parallel_ofOutcome (outcome : Outcome α) : Parallel Eq (ofOutcome outcome) (ofOutcome outcome) := by
  cases outcome with
  | ok a => exact parallel_pure rfl
  | error failure => exact parallel_throw failure

theorem parallel_note (record : Record) : Parallel Eq (note record) (note record) := by
  refine parallel_modify fun sessions => ?_
  obtain ⟨connection, requests, records, written⟩ := anonymous_eq_iff.mp sessions
  exact anonymous_eq_iff.mpr ⟨connection, requests, congrArg (· ++ [record]) records, written⟩

theorem parallel_sent {first second : Http.Request} (same : first.anonymous = second.anonymous) :
    Parallel Eq (sent first) (sent second) := by
  refine parallel_modify fun {s t} sessions => ?_
  obtain ⟨connection, requests, records, written⟩ := anonymous_eq_iff.mp sessions
  refine anonymous_eq_iff.mpr ⟨connection, ?_, records, written⟩
  change (s.requests ++ [first]).map _ = (t.requests ++ [second]).map _
  rw [List.map_append, List.map_append, requests, List.map_singleton, List.map_singleton, same]

theorem Parallel.mono {wider : α → β → Prop} (parallel : Parallel related left right)
    (wide : ∀ {a b}, related a b → wider a b) : Parallel wider left right := by
  intro s t sessions
  have ends := parallel s t sessions
  generalize run s left = leftEnd at ends ⊢
  generalize run t right = rightEnd at ends ⊢
  cases ends with
  | ok results sessions => exact .ok (wide results) sessions
  | error failure sessions => exact .error failure sessions

theorem Parallel.bind {rest : α → Call α'} {rest' : β → Call β'} (first : Parallel related left right)
    (later : ∀ {a b}, related a b → Parallel related' (rest a) (rest' b)) :
    Parallel related' (left >>= rest) (right >>= rest') := by
  intro s t sessions
  have ends := first s t sessions
  rw [run_bind, run_bind]
  generalize run s left = leftEnd at ends ⊢
  generalize run t right = rightEnd at ends ⊢
  cases ends with
  | ok results sessions => exact later results _ _ sessions
  | error failure sessions => exact .error failure sessions

/-- After a call with the same result on both sides, the same follows. -/
theorem Parallel.bind_eq {left right : Call α} {rest : α → Call α'} {rest' : α → Call β'}
    (first : Parallel Eq left right)
    (later : ∀ a, Parallel related' (rest a) (rest' a)) : Parallel related' (left >>= rest) (right >>= rest') :=
  first.bind fun {a _} same => same ▸ later a

/-- Of what follows a call that always fails, nothing has to be known. -/
theorem Parallel.bind_failing {left right : Call α} (rest : α → Call α') (rest' : α → Call β')
    (first : Parallel (fun _ _ => False) left right) : Parallel related' (left >>= rest) (right >>= rest') :=
  first.bind False.elim

theorem parallel_write (text : Text) : Parallel Eq (write text) (write text) := by
  refine (parallel_ofOutcome _).bind_eq fun _ => parallel_modify fun sessions => ?_
  obtain ⟨connection, requests, records, written⟩ := anonymous_eq_iff.mp sessions
  exact anonymous_eq_iff.mpr ⟨connection, requests, records, congrArg (· ++ text) written⟩

theorem Parallel.tryCatch {handle handle' : Failure → Call α} {left right : Call α} (first : Parallel Eq left right)
    (later : ∀ failure, Parallel Eq (handle failure) (handle' failure)) :
    Parallel Eq (tryCatch left handle) (MonadExcept.tryCatch right handle') := by
  intro s t sessions
  have ends := first s t sessions
  rw [run_tryCatch, run_tryCatch]
  generalize run s left = leftEnd at ends ⊢
  generalize run t right = rightEnd at ends ⊢
  cases ends with
  | ok results sessions => exact .ok results sessions
  | error failure sessions => exact later failure _ _ sessions

theorem Parallel.forIn {list : List γ} {start : α} {step : γ → α → Call (ForInStep α)}
    (each : ∀ c a, Parallel Eq (step c a) (step c a)) :
    Parallel Eq (forIn list start step) (forIn list start step) := by
  induction list generalizing start with
  | nil => exact parallel_pure rfl
  | cons c list ih =>
    rw [List.forIn_cons]
    refine (each c start).bind_eq fun next => ?_
    cases next with
    | done a => exact parallel_pure rfl
    | yield a => exact ih

end Session

end ProxyControl
