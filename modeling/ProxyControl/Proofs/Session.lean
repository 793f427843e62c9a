import ProxyControl.Proofs.Outcome
import ProxyControl.Proofs.Text.Encoding
import ProxyControl.Session

namespace ProxyControl.Session

variable {α β : Type} {s s' t : Session}

theorem run_pure (a : α) : run s (pure a) = (.ok a, s) := rfl

theorem run_throw (failure : Failure) : run s (throw failure : Call α) = (.error failure, s) := rfl

theorem run_ofOutcome (outcome : Outcome α) : run s (ofOutcome outcome) = (outcome, s) := by cases outcome <;> rfl

theorem run_ofOutcome_eq_ok {outcome : Outcome α} {a : α} :
    run s (ofOutcome outcome) = (.ok a, t) ↔ outcome = .ok a ∧ s = t := by
  rw [run_ofOutcome, Prod.mk.injEq]

theorem run_pure_eq_ok {a b : α} : run s (pure a) = (.ok b, t) ↔ a = b ∧ s = t := by
  rw [run_pure, Prod.mk.injEq, Except.ok.injEq]

theorem run_get : run s (get : Call Session) = (.ok s, s) := rfl

theorem run_note (record : Record) : run s (note record) = (.ok (), { s with records := s.records ++ [record] }) := rfl

theorem run_sent (request : Http.Request) :
    run s (sent request) = (.ok (), { s with requests := s.requests ++ [request] }) := rfl

/-- A text that has an encoding is written. -/
theorem run_write {text : Text} (unicode : text.IsUnicode) :
    run s (write text) = (.ok (), { s with written := s.written ++ text }) := by
  rw [write, Text.toUtf8_eq_ok.mpr ⟨unicode, rfl⟩]
  rfl

/-- Of a text that has none, nothing is written. -/
theorem run_write_of_bare {text : Text} (bare : ¬ text.IsUnicode) :
    ∃ message, run s (write text) = (.error (.fault .encoding message), s) := by
  rw [write]
  cases encoded : text.toUtf8 with
  | ok bytes => exact absurd (Text.toUtf8_eq_ok.mp encoded).1 bare
  | error e => exact ⟨e.message, rfl⟩

theorem run_bind (x : Call α) (f : α → Call β) : run s (x >>= f) =
    match run s x with
    | (.ok a, s') => run s' (f a)
    | (.error failure, s') => (.error failure, s') := by
  change run s (ExceptT.mk (ExceptT.run x >>= ExceptT.bindCont f)) = _
  unfold run
  simp only [ExceptT.run, ExceptT.mk, StateT.run_bind, Id.run_bind]
  rcases Id.run (StateT.run x s) with ⟨_ | _, _⟩ <;> rfl

theorem run_bind_ok {x : Call α} {f : α → Call β} {a : α} (first : run s x = (.ok a, s')) :
    run s (x >>= f) = run s' (f a) := by
  rw [run_bind, first]

theorem run_bind_eq_ok {x : Call α} {f : α → Call β} {b : β} :
    run s (x >>= f) = (.ok b, t) ↔ ∃ a s', run s x = (.ok a, s') ∧ run s' (f a) = (.ok b, t) := by
  rw [run_bind]
  rcases run s x with ⟨_ | a, s'⟩
  · simp
  · constructor
    · intro rest
      exact ⟨a, s', rfl, rest⟩
    · rintro ⟨_, _, first, rest⟩
      cases first
      exact rest

theorem run_bind_pure (x : Call Unit) : run s (do x; pure ()) = run s x := by
  rw [run_bind]
  rcases run s x with ⟨failure | _, t⟩
  · rfl
  · rfl

theorem run_tryCatch (x : Call α) (handle : Failure → Call α) : run s (tryCatch x handle) =
    match run s x with
    | (.ok a, s') => (.ok a, s')
    | (.error failure, s') => run s' (handle failure) := by
  unfold run
  simp only [tryCatch, tryCatchThe, MonadExceptOf.tryCatch, ExceptT.tryCatch, ExceptT.run, ExceptT.mk, StateT.run_bind,
    Id.run_bind]
  rcases Id.run (StateT.run x s) with ⟨_ | _, _⟩ <;> rfl

/-- A call that sends no request and writes no output. -/
def Quiet (call : Call α) : Prop := ∀ s, (run s call).2.requests = s.requests ∧ (run s call).2.written = s.written

theorem Quiet.unchanged {call : Call α} {outcome : Outcome α} (quiet : Quiet call) (ends : run s call = (outcome, t)) :
    t.requests = s.requests ∧ t.written = s.written := by
  have same := quiet s
  rwa [ends] at same

theorem quiet_pure (a : α) : Quiet (pure a : Call α) := fun _ => ⟨rfl, rfl⟩

theorem quiet_throw (failure : Failure) : Quiet (throw failure : Call α) := fun _ => ⟨rfl, rfl⟩

theorem quiet_note (record : Record) : Quiet (note record) := fun _ => ⟨rfl, rfl⟩

theorem quiet_ofOutcome (outcome : Outcome α) : Quiet (ofOutcome outcome) := fun s => by
  rw [run_ofOutcome]
  exact ⟨rfl, rfl⟩

theorem Quiet.bind {x : Call α} {f : α → Call β} (first : Quiet x) (rest : ∀ a, Quiet (f a)) : Quiet (x >>= f) := by
  intro s
  have left := first s
  rw [run_bind]
  rcases outcome : run s x with ⟨_ | a, s'⟩
  · rw [outcome] at left
    exact left
  · rw [outcome] at left
    obtain ⟨requests, written⟩ := rest a s'
    exact ⟨requests.trans left.1, written.trans left.2⟩

/-- What would follow a call that always fails does not count. -/
theorem Quiet.bind_failing {x : Call α} (f : α → Call β) (quiet : Quiet x)
    (fails : ∀ {s a t}, run s x ≠ (.ok a, t)) : Quiet (x >>= f) := by
  intro s
  have left := quiet s
  rw [run_bind]
  rcases outcome : run s x with ⟨_ | a, s'⟩
  · rw [outcome] at left
    exact left
  · exact absurd outcome fails

theorem quiet_throw_bind (failure : Failure) (f : α → Call β) : Quiet (throw failure >>= f) := by
  refine (quiet_throw failure).bind_failing f fun {s a t} run => ?_
  cases run

theorem Quiet.forIn {γ : Type} {list : List γ} {start : β} {step : γ → β → Call (ForInStep β)}
    (each : ∀ c b, Quiet (step c b)) : Quiet (forIn list start step) := by
  induction list generalizing start with
  | nil => exact quiet_pure start
  | cons c list ih =>
    rw [List.forIn_cons]
    refine (each c start).bind fun next => ?_
    cases next with
    | done b => exact quiet_pure b
    | yield b => exact ih

/-- A call that sends no request, whatever it writes. -/
def Unsent (call : Call α) : Prop := ∀ s, (run s call).2.requests = s.requests

theorem Quiet.unsent {call : Call α} (quiet : Quiet call) : Unsent call := fun s => (quiet s).1

theorem unsent_write (text : Text) : Unsent (write text) := by
  intro s
  by_cases unicode : text.IsUnicode
  · rw [run_write unicode]
  · obtain ⟨_, fails⟩ := run_write_of_bare (s := s) unicode
    rw [fails]

theorem Unsent.bind {x : Call α} {f : α → Call β} (first : Unsent x) (rest : ∀ a, Unsent (f a)) : Unsent (x >>= f) := by
  intro s
  have left := first s
  rw [run_bind]
  rcases outcome : run s x with ⟨_ | a, s'⟩
  · rw [outcome] at left
    exact left
  · rw [outcome] at left
    exact (rest a s').trans left

/-- A call whose failures all have a property. -/
def FailsAs (holds : Failure → Prop) (call : Call α) : Prop :=
  ∀ s failure t, run s call = (.error failure, t) → holds failure

section

variable {holds : Failure → Prop}

theorem failsAs_of_ok {call : Call α} (succeeds : ∀ s, ∃ a t, run s call = (.ok a, t)) : FailsAs holds call := by
  intro s failure t ends
  obtain ⟨a, u, same⟩ := succeeds s
  rw [same] at ends
  cases ends

theorem failsAs_pure (a : α) : FailsAs holds (pure a : Call α) := failsAs_of_ok fun s => ⟨a, s, rfl⟩

theorem failsAs_note (record : Record) : FailsAs holds (note record) := failsAs_of_ok fun _ => ⟨(), _, rfl⟩

theorem failsAs_sent (request : Http.Request) : FailsAs holds (sent request) := failsAs_of_ok fun _ => ⟨(), _, rfl⟩

theorem failsAs_throw {failure : Failure} (held : holds failure) : FailsAs holds (throw failure : Call α) := by
  intro s other t ends
  cases ends
  exact held

theorem failsAs_ofOutcome {outcome : Outcome α} (held : ∀ failure, outcome = .error failure → holds failure) :
    FailsAs holds (ofOutcome outcome) := by
  intro s failure t ends
  rw [run_ofOutcome] at ends
  exact held failure (congrArg Prod.fst ends)

/-- Writing fails only for want of an encoding. -/
theorem failsAs_write (text : Text) (held : ∀ message, holds (.fault .encoding message)) :
    FailsAs holds (write text) := by
  intro s failure t ends
  by_cases unicode : text.IsUnicode
  · rw [run_write unicode] at ends
    cases ends
  · obtain ⟨message, fails⟩ := run_write_of_bare (s := s) unicode
    rw [fails] at ends
    cases ends
    exact held message

/-- Of two calls in a row, the second one counts with what the first one may give. -/
theorem FailsAs.bind_of_ok {x : Call α} {f : α → Call β} (first : FailsAs holds x)
    (rest : ∀ {s a t}, run s x = (.ok a, t) → FailsAs holds (f a)) : FailsAs holds (x >>= f) := by
  intro s failure t ends
  rw [run_bind] at ends
  rcases outcome : run s x with ⟨cause | a, s'⟩
  · rw [outcome] at ends
    cases ends
    exact first s failure t outcome
  · rw [outcome] at ends
    exact rest outcome s' failure t ends

theorem FailsAs.bind {x : Call α} {f : α → Call β} (first : FailsAs holds x) (rest : ∀ a, FailsAs holds (f a)) :
    FailsAs holds (x >>= f) := first.bind_of_ok fun _ => rest _

/-- What would follow a call that always fails does not count. -/
theorem FailsAs.bind_failing {x : Call α} (f : α → Call β) (first : FailsAs holds x)
    (fails : ∀ {s a t}, run s x ≠ (.ok a, t)) : FailsAs holds (x >>= f) :=
  first.bind_of_ok fun succeeds => absurd succeeds fails

theorem failsAs_throw_bind {failure : Failure} (f : α → Call β) (held : holds failure) :
    FailsAs holds (throw failure >>= f) := by
  intro s other t ends
  cases ends
  exact held

theorem FailsAs.forIn {γ : Type} {list : List γ} {start : β} {step : γ → β → Call (ForInStep β)}
    (each : ∀ c b, FailsAs holds (step c b)) : FailsAs holds (forIn list start step) := by
  induction list generalizing start with
  | nil => exact failsAs_pure start
  | cons c list ih =>
    rw [List.forIn_cons]
    refine (each c start).bind fun next => ?_
    cases next with
    | done b => exact failsAs_pure b
    | yield b => exact ih

end

end ProxyControl.Session
