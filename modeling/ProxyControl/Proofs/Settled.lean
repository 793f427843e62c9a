import ProxyControl.Proofs.Session

namespace ProxyControl.Session

variable {α β : Type} {held : Connection → Prop}

/-- A call that cannot tell apart the sessions whose connection has a property, and keeps that property: it comes to
the same end on all of them, and sends the same requests. -/
structure Uniform (held : Connection → Prop) (call : Call α) : Prop where
  keeps : ∀ s, held s.connection → held (run s call).2.connection
  ends : ∀ s t, held s.connection → held t.connection → (run s call).1 = (run t call).1
  sends : ∀ s t, held s.connection → held t.connection → ∃ more,
    (run s call).2.requests = s.requests ++ more ∧ (run t call).2.requests = t.requests ++ more

/-- Of two calls in a row, the second one counts only with what the first one may give. -/
theorem Uniform.bind_of_ok {x : Call α} {f : α → Call β} (first : Uniform held x)
    (rest : ∀ {s a t}, run s x = (.ok a, t) → Uniform held (f a)) : Uniform held (x >>= f) := by
  constructor
  · intro s kept
    have left := first.keeps s kept
    rw [run_bind]
    rcases outcome : run s x with ⟨failure | a, s'⟩
    · rwa [outcome] at left
    · rw [outcome] at left
      exact (rest outcome).keeps s' left
  · intro s t heldS heldT
    have same := first.ends s t heldS heldT
    have leftS := first.keeps s heldS
    have leftT := first.keeps t heldT
    rw [run_bind, run_bind]
    rcases outcomeS : run s x with ⟨failure | a, s'⟩ <;> rcases outcomeT : run t x with ⟨failure' | a', t'⟩
    all_goals
      rw [outcomeS, outcomeT] at same
      cases same
    · rfl
    · rw [outcomeS] at leftS
      rw [outcomeT] at leftT
      exact (rest outcomeS).ends s' t' leftS leftT
  · intro s t heldS heldT
    have same := first.ends s t heldS heldT
    have leftS := first.keeps s heldS
    have leftT := first.keeps t heldT
    obtain ⟨more, moreS, moreT⟩ := first.sends s t heldS heldT
    rw [run_bind, run_bind]
    rcases outcomeS : run s x with ⟨failure | a, s'⟩ <;> rcases outcomeT : run t x with ⟨failure' | a', t'⟩
    all_goals
      rw [outcomeS, outcomeT] at same
      rw [outcomeS] at moreS leftS
      rw [outcomeT] at moreT leftT
      cases same
    · exact ⟨more, moreS, moreT⟩
    · obtain ⟨others, othersS, othersT⟩ := (rest outcomeS).sends s' t' leftS leftT
      dsimp only at moreS moreT ⊢
      refine ⟨more ++ others, ?_, ?_⟩
      · rw [othersS, moreS, List.append_assoc]
      · rw [othersT, moreT, List.append_assoc]

/-- A call that, besides, always makes the connection live or always leaves it as it is. -/
structure Settled (held : Connection → Prop) (call : Call α) : Prop extends Uniform held call where
  moves : (∀ s, held s.connection → (run s call).2.connection = .live) ∨
    ∀ s, held s.connection → (run s call).2.connection = s.connection

/-- A call that leaves connection and requests alone, and whose end is always the same. -/
theorem settled_of_constant {call : Call α} (outcome : Outcome α) (ends : ∀ s, (run s call).1 = outcome)
    (connection : ∀ s, (run s call).2.connection = s.connection)
    (requests : ∀ s, (run s call).2.requests = s.requests) : Settled held call where
  keeps s kept := by rwa [connection s]
  ends s t _ _ := (ends s).trans (ends t).symm
  sends s t _ _ := ⟨[], by rw [requests, List.append_nil], by rw [requests, List.append_nil]⟩
  moves := .inr fun s _ => connection s

theorem settled_pure (a : α) : Settled held (pure a : Call α) :=
  settled_of_constant (.ok a) (fun _ => rfl) (fun _ => rfl) fun _ => rfl

theorem settled_throw (failure : Failure) : Settled held (throw failure : Call α) :=
  settled_of_constant (.error failure) (fun _ => rfl) (fun _ => rfl) fun _ => rfl

theorem settled_note (record : Record) : Settled held (note record) :=
  settled_of_constant (.ok ()) (fun _ => rfl) (fun _ => rfl) fun _ => rfl

theorem settled_ofOutcome (outcome : Outcome α) : Settled held (ofOutcome outcome) := by
  refine settled_of_constant outcome (fun s => ?_) (fun s => ?_) fun s => ?_
  · rw [run_ofOutcome]
  · rw [run_ofOutcome]
  · rw [run_ofOutcome]

theorem settled_sent (request : Http.Request) : Settled held (sent request) where
  keeps _ kept := kept
  ends _ _ _ _ := rfl
  sends _ _ _ _ := ⟨[request], rfl, rfl⟩
  moves := .inr fun _ _ => rfl

/-- If the first of two calls succeeds in one session, it succeeds in all of them with the same result. -/
theorem Uniform.run_bind_of_ok {x : Call α} {a : α} {s₀ t₀ : Session} (first : Uniform held x)
    (held₀ : held s₀.connection) (run₀ : run s₀ x = (.ok a, t₀)) (f : α → Call β) {s : Session}
    (kept : held s.connection) :
    ∃ t, run s (x >>= f) = run t (f a) ∧ held t.connection ∧ t.connection = (run s x).2.connection := by
  have same := first.ends s s₀ kept held₀
  have left := first.keeps s kept
  rcases outcome : run s x with ⟨result, t⟩
  rw [outcome, run₀] at same
  rw [outcome] at left
  cases same
  exact ⟨t, run_bind_ok outcome, left, rfl⟩

/-- Of two calls in a row, the second one settles what the first one leaves, where the first one succeeds. -/
theorem Settled.bind_of_ok {x : Call α} {f : α → Call β} (first : Settled held x)
    (rest : ∀ {s a t}, run s x = (.ok a, t) → Settled held (f a)) : Settled held (x >>= f) := by
  refine ⟨first.toUniform.bind_of_ok fun run => (rest run).toUniform, ?_⟩
  by_cases succeeds : ∃ s a t, held s.connection ∧ run s x = (.ok a, t)
  · obtain ⟨s₀, a, t₀, held₀, run₀⟩ := succeeds
    rcases (rest run₀).moves with connects | stays
    · refine .inl fun s kept => ?_
      obtain ⟨t, same, kept', _⟩ := first.run_bind_of_ok held₀ run₀ f kept
      rw [same]
      exact connects t kept'
    · have moves {s : Session} (kept : held s.connection) :
          (run s (x >>= f)).2.connection = (run s x).2.connection := by
        obtain ⟨t, same, kept', here⟩ := first.run_bind_of_ok held₀ run₀ f kept
        rw [same, stays t kept', here]
      exact first.moves.imp (fun connects s kept => (moves kept).trans (connects s kept)) fun still s kept =>
        (moves kept).trans (still s kept)
  · have moves {s : Session} (kept : held s.connection) :
        (run s (x >>= f)).2.connection = (run s x).2.connection := by
      rw [run_bind]
      rcases outcome : run s x with ⟨failure | a, t⟩
      · rfl
      · exact absurd ⟨s, a, t, kept, outcome⟩ succeeds
    exact first.moves.imp (fun connects s kept => (moves kept).trans (connects s kept)) fun still s kept =>
      (moves kept).trans (still s kept)

theorem Settled.bind {x : Call α} {f : α → Call β} (first : Settled held x) (rest : ∀ a, Settled held (f a)) :
    Settled held (x >>= f) := first.bind_of_ok fun _ => rest _

/-- What would follow a call that always fails does not count. -/
theorem Settled.bind_failing {x : Call α} (f : α → Call β) (first : Settled held x)
    (fails : ∀ {s a t}, run s x ≠ (.ok a, t)) : Settled held (x >>= f) :=
  first.bind_of_ok fun succeeds => absurd succeeds fails

theorem settled_throw_bind (failure : Failure) (f : α → Call β) : Settled held (throw failure >>= f) := by
  refine (settled_throw failure).bind_failing f fun {s a t} run => ?_
  cases run

theorem settled_write (text : Text) : Settled held (write text) :=
  (settled_ofOutcome _).bind fun _ => settled_of_constant (.ok ()) (fun _ => rfl) (fun _ => rfl) fun _ => rfl

end ProxyControl.Session
