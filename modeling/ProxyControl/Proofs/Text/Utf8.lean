import ProxyControl.Proofs.CodePoint
import ProxyControl.Text.Charset

namespace ProxyControl.Utf8

variable {surrogates : Surrogates}

/-- What a byte does to a state. -/
def step (surrogates : Surrogates) (state : State) (b : UInt8) : Step :=
  match state with
  | .start => lead surrogates b
  | .inside pending => continuation pending b

/-- From a state, bytes make up exactly one code point. -/
inductive Completes (surrogates : Surrogates) (p : CodePoint) : State → Bytes → Prop
  | last {state : State} {b : UInt8} (point : step surrogates state b = .point p) : Completes surrogates p state [b]
  | next {state : State} {b : UInt8} {pending : Pending} {bytes : Bytes}
      (more : step surrogates state b = .more pending)
      (rest : Completes surrogates p (.inside pending) bytes) : Completes surrogates p state (b :: bytes)

deriving instance DecidableEq for Step

theorem toNat_ofNat {k : Nat} (bound : k < 256) : (UInt8.ofNat k).toNat = k := UInt8.toNat_ofNat_of_lt' bound

theorem lead_one {n : Nat} (bound : n < 0x80) : lead surrogates (UInt8.ofNat n) = .point (.ofNat n) := by
  have value := toNat_ofNat (k := n) (by omega)
  have small : UInt8.ofNat n < 0x80 := UInt8.lt_iff_toNat_lt.mpr (by rw [value]; exact bound)
  rw [lead, if_pos small, value]

theorem lead_two : ∀ k < 0x20, 2 ≤ k →
    lead surrogates (UInt8.ofNat (0xC0 + k)) = .more ⟨k, 1, 0x80, 0xBF, [UInt8.ofNat (0xC0 + k)]⟩ := by
  cases surrogates with
  | refuse => decide
  | pass => decide

theorem lead_three : ∀ k < 0x10,
    lead surrogates (UInt8.ofNat (0xE0 + k)) = .more ⟨k, 2, if k = 0 then 0xA0 else 0x80,
      if k = 0xD ∧ surrogates = .refuse then 0x9F else 0xBF, [UInt8.ofNat (0xE0 + k)]⟩ := by
  cases surrogates with
  | refuse => decide
  | pass => decide

theorem lead_four : ∀ k < 5,
    lead surrogates (UInt8.ofNat (0xF0 + k)) = .more ⟨k, 3, if k = 0 then 0x90 else 0x80,
      if k = 4 then 0x8F else 0xBF, [UInt8.ofNat (0xF0 + k)]⟩ := by
  cases surrogates with
  | refuse => decide
  | pass => decide

/-- A byte within the bounds adds its six bits. -/
theorem continuation_eq {pending : Pending} {k : Nat} (bound : k < 0x40) (low : pending.low.toNat ≤ 0x80 + k)
    (high : 0x80 + k ≤ pending.high.toNat) : continuation pending (UInt8.ofNat (0x80 + k)) =
      if pending.more ≤ 1 then .point (.ofNat (pending.value * 0x40 + k))
      else .more ⟨pending.value * 0x40 + k, pending.more - 1, 0x80, 0xBF,
        pending.seen ++ [UInt8.ofNat (0x80 + k)]⟩ := by
  have value := toNat_ofNat (k := 0x80 + k) (by omega)
  have above : pending.low ≤ UInt8.ofNat (0x80 + k) := UInt8.le_iff_toNat_le.mpr (by rw [value]; exact low)
  have below : UInt8.ofNat (0x80 + k) ≤ pending.high := UInt8.le_iff_toNat_le.mpr (by rw [value]; exact high)
  have fits :
      (decide (pending.low ≤ UInt8.ofNat (0x80 + k)) && decide (UInt8.ofNat (0x80 + k) ≤ pending.high)) = true := by
    rw [decide_eq_true above, decide_eq_true below, Bool.and_self]
  rw [continuation, if_pos fits, value, Nat.add_sub_cancel_left]
  rcases pending with ⟨_, _ | _ | more, _, _, _⟩
  · rfl
  · rfl
  · rw [if_neg (by simp)]
    rfl

theorem step_last {pending : Pending} {k n : Nat} (bound : k < 0x40) (one : pending.more = 1)
    (low : pending.low.toNat ≤ 0x80 + k) (high : 0x80 + k ≤ pending.high.toNat) (value : pending.value * 0x40 + k = n) :
    step surrogates (.inside pending) (UInt8.ofNat (0x80 + k)) = .point (.ofNat n) := by
  rw [step, continuation_eq bound low high, if_pos (Nat.le_of_eq one), value]

theorem step_next {pending : Pending} {k n more : Nat} (bound : k < 0x40) (many : pending.more = more + 2)
    (low : pending.low.toNat ≤ 0x80 + k) (high : 0x80 + k ≤ pending.high.toNat) (value : pending.value * 0x40 + k = n) :
    step surrogates (.inside pending) (UInt8.ofNat (0x80 + k)) =
      .more ⟨n, more + 1, 0x80, 0xBF, pending.seen ++ [UInt8.ofNat (0x80 + k)]⟩ := by
  have left : pending.more - 1 = more + 1 := by omega
  rw [step, continuation_eq bound low high, if_neg (by omega), value, left]

theorem completes_two {n : Nat} (low : 0x80 ≤ n) (high : n < 0x800) : Completes surrogates (.ofNat n) .start
    [UInt8.ofNat (0xC0 + n / 0x40), UInt8.ofNat (0x80 + n % 0x40)] := by
  have first : lead surrogates _ = _ := lead_two (n / 0x40) (by omega) (by omega)
  have bounds : 0x80 ≤ 0x80 + n % 0x40 ∧ 0x80 + n % 0x40 ≤ 0xBF := by omega
  have value : n / 0x40 * 0x40 + n % 0x40 = n := by omega
  exact .next first (.last (step_last (by omega) rfl bounds.1 bounds.2 value))

theorem completes_three {n : Nat} (low : 0x800 ≤ n) (high : n < 0x10000)
    (fits : surrogates = .pass ∨ ¬ (0xD800 ≤ n ∧ n < 0xE000)) : Completes surrogates (.ofNat n) .start
    [UInt8.ofNat (0xE0 + n / 0x1000), UInt8.ofNat (0x80 + n / 0x40 % 0x40), UInt8.ofNat (0x80 + n % 0x40)] := by
  have first : lead surrogates _ = _ := lead_three (n / 0x1000) (by omega)
  have least : (if n / 0x1000 = 0 then (0xA0 : UInt8) else 0x80).toNat ≤ 0x80 + n / 0x40 % 0x40 := by
    split
    · change 0xA0 ≤ _
      omega
    · change 0x80 ≤ _
      omega
  have most : 0x80 + n / 0x40 % 0x40 ≤
      (if n / 0x1000 = 0xD ∧ surrogates = .refuse then (0x9F : UInt8) else 0xBF).toNat := by
    split
    · rename_i refused
      change _ ≤ 0x9F
      rcases fits with pass | scalar
      · rw [pass] at refused
        cases refused.2
      · omega
    · change _ ≤ 0xBF
      omega
  have second : n / 0x1000 * 0x40 + n / 0x40 % 0x40 = n / 0x40 := by omega
  have bounds : 0x80 ≤ 0x80 + n % 0x40 ∧ 0x80 + n % 0x40 ≤ 0xBF := by omega
  have value : n / 0x40 * 0x40 + n % 0x40 = n := by omega
  exact .next first (.next (step_next (by omega) rfl least most second)
    (.last (step_last (by omega) rfl bounds.1 bounds.2 value)))

theorem completes_four {n : Nat} (low : 0x10000 ≤ n) (high : n < 0x110000) : Completes surrogates (.ofNat n) .start
    [UInt8.ofNat (0xF0 + n / 0x40000), UInt8.ofNat (0x80 + n / 0x1000 % 0x40), UInt8.ofNat (0x80 + n / 0x40 % 0x40),
      UInt8.ofNat (0x80 + n % 0x40)] := by
  have first : lead surrogates _ = _ := lead_four (n / 0x40000) (by omega)
  have least : (if n / 0x40000 = 0 then (0x90 : UInt8) else 0x80).toNat ≤ 0x80 + n / 0x1000 % 0x40 := by
    split
    · change 0x90 ≤ _
      omega
    · change 0x80 ≤ _
      omega
  have most : 0x80 + n / 0x1000 % 0x40 ≤ (if n / 0x40000 = 4 then (0x8F : UInt8) else 0xBF).toNat := by
    split
    · change _ ≤ 0x8F
      omega
    · change _ ≤ 0xBF
      omega
  have second : n / 0x40000 * 0x40 + n / 0x1000 % 0x40 = n / 0x1000 := by omega
  have third : n / 0x1000 * 0x40 + n / 0x40 % 0x40 = n / 0x40 := by omega
  have inner : 0x80 ≤ 0x80 + n / 0x40 % 0x40 ∧ 0x80 + n / 0x40 % 0x40 ≤ 0xBF := by omega
  have bounds : 0x80 ≤ 0x80 + n % 0x40 ∧ 0x80 + n % 0x40 ≤ 0xBF := by omega
  have value : n / 0x40 * 0x40 + n % 0x40 = n := by omega
  exact .next first (.next (step_next (by omega) rfl least most second)
    (.next (step_next (by omega) rfl inner.1 inner.2 third)
      (.last (step_last (by omega) rfl bounds.1 bounds.2 value))))

/-- The bytes of a code point make it up again, a surrogate's only where surrogates pass. -/
theorem completes_encodePoint {p : CodePoint} (fits : surrogates = .pass ∨ Text.isScalar p = true) :
    Completes surrogates p .start (encodePoint p) := by
  have bound := p.toNat_lt
  rw [CodePoint.isScalar_iff] at fits
  suffices whole : Completes surrogates (.ofNat p.toNat) .start (encodePoint p) by rwa [CodePoint.ofNat_toNat] at whole
  unfold encodePoint
  dsimp only
  generalize p.toNat = n at *
  split
  · rename_i one
    exact .last (lead_one one)
  split
  · rename_i low high
    exact completes_two (Nat.not_lt.mp low) high
  split
  · rename_i low high
    exact completes_three (Nat.not_lt.mp low) high fits
  · rename_i low
    exact completes_four (Nat.not_lt.mp low) bound

theorem decodeFrom_completes {p : CodePoint} {state : State} {bytes : Bytes}
    (whole : Completes surrogates p state bytes)
    (position : Nat) (rest : Bytes) : decodeFrom surrogates position state (bytes ++ rest) =
      (decodeFrom surrogates (position + bytes.length) .start rest).map (p :: ·) := by
  induction whole generalizing position with
  | @last state b point =>
    cases state with
    | start =>
      rw [step] at point
      rw [List.singleton_append, decodeFrom, point]
      rfl
    | inside pending =>
      rw [step] at point
      rw [List.singleton_append, decodeFrom, point]
      rfl
  | @next state b pending bytes more _ ih =>
    have shift : position + (b :: bytes).length = position + 1 + bytes.length := by
      rw [List.length_cons]
      omega
    cases state with
    | start =>
      rw [step] at more
      rw [List.cons_append, decodeFrom, more, shift, ← ih]
    | inside pending =>
      rw [step] at more
      rw [List.cons_append, decodeFrom, more, shift, ← ih]

theorem encodeLoosely_cons (p : CodePoint) (t : Text) : encodeLoosely (p :: t) = encodePoint p ++ encodeLoosely t := rfl

theorem decodeFrom_encodeLoosely {t : Text} (fits : surrogates = .pass ∨ t.IsUnicode) (position : Nat) :
    decodeFrom surrogates position .start (encodeLoosely t) = .ok t := by
  induction t generalizing position with
  | nil => rfl
  | cons p t ih =>
    have first := completes_encodePoint (fits.imp_right fun unicode => unicode p List.mem_cons_self)
    rw [encodeLoosely_cons, decodeFrom_completes first, ih (fits.imp_right Text.IsUnicode.tail)]
    rfl

/-- Where surrogates pass, every text is decoded from its bytes. -/
theorem decode_encodeLoosely (t : Text) : decode .pass (encodeLoosely t) = .ok t :=
  decodeFrom_encodeLoosely (.inl rfl) 0

theorem encodePoint_ne_nil (p : CodePoint) : encodePoint p ≠ [] := by
  unfold encodePoint
  dsimp only
  split
  · simp
  split
  · simp
  split
  · simp
  · simp

theorem length_le_encodeLoosely (t : Text) : t.length ≤ (encodeLoosely t).length := by
  induction t with
  | nil => exact Nat.zero_le _
  | cons p t ih =>
    have one := List.length_pos_iff.mpr (encodePoint_ne_nil p)
    rw [encodeLoosely_cons, List.length_append, List.length_cons]
    omega

theorem feedAll_completes {p : CodePoint} {state : State} {bytes : Bytes} (whole : Completes .refuse p state bytes)
    (rest : Bytes) : feedAll state (bytes ++ rest) = (p :: (feedAll .start rest).1, (feedAll .start rest).2) := by
  induction whole with
  | @last state b point =>
    cases state with
    | start =>
      rw [step] at point
      rw [List.singleton_append, feedAll, feed, point]
      rfl
    | inside pending =>
      rw [step] at point
      rw [List.singleton_append, feedAll, feed, point]
      rfl
  | @next state b pending bytes more _ ih =>
    cases state with
    | start =>
      rw [step] at more
      rw [List.cons_append, feedAll, feed, more]
      exact ih
    | inside pending =>
      rw [step] at more
      rw [List.cons_append, feedAll, feed, more]
      exact ih

theorem feedAll_encodeLoosely {t : Text} (unicode : t.IsUnicode) (rest : Bytes) :
    feedAll .start (encodeLoosely t ++ rest) = (t ++ (feedAll .start rest).1, (feedAll .start rest).2) := by
  induction t with
  | nil => rfl
  | cons p t ih =>
    have first : Completes .refuse p .start _ := completes_encodePoint (.inr (unicode p List.mem_cons_self))
    rw [encodeLoosely_cons, List.append_assoc, feedAll_completes first, ih unicode.tail]
    rfl

/-- Lenient decoding is exact on the bytes of a Unicode text. -/
theorem decodeLeniently_encodeLoosely {t : Text} (unicode : t.IsUnicode) : decodeLeniently (encodeLoosely t) = t := by
  have whole := feedAll_encodeLoosely unicode []
  rw [List.append_nil] at whole
  rw [decodeLeniently, whole]
  simp [feedAll, finish]

/-- Within a code point, only continuation bytes are waited for. -/
def State.Sane : State → Prop
  | .start => True
  | .inside pending => 0x80 ≤ pending.low.toNat ∧ pending.high.toNat ≤ 0xBF

theorem State.sane_of_lead {b : UInt8} {pending : Pending} (more : lead surrogates b = .more pending) :
    State.Sane (.inside pending) := by
  unfold lead at more
  split at more
  · cases more
  split at more
  · cases more
  split at more
  · obtain rfl := Step.more.inj more
    exact ⟨Nat.le_refl 0x80, Nat.le_refl 0xBF⟩
  split at more
  · obtain rfl := Step.more.inj more
    constructor
    · dsimp only
      split
      · change 0x80 ≤ 0xA0
        omega
      · exact Nat.le_refl 0x80
    · dsimp only
      split
      · change 0x9F ≤ 0xBF
        omega
      · exact Nat.le_refl 0xBF
  split at more
  · obtain rfl := Step.more.inj more
    constructor
    · dsimp only
      split
      · change 0x80 ≤ 0x90
        omega
      · exact Nat.le_refl 0x80
    · dsimp only
      split
      · change 0x8F ≤ 0xBF
        omega
      · exact Nat.le_refl 0xBF
  · cases more

theorem State.sane_of_continuation {b : UInt8} {pending next : Pending} (more : continuation pending b = .more next) :
    State.Sane (.inside next) := by
  unfold continuation at more
  split at more
  · dsimp only at more
    split at more
    · cases more
    · cases more
    · obtain rfl := Step.more.inj more
      exact ⟨Nat.le_refl 0x80, Nat.le_refl 0xBF⟩
  · cases more

theorem feed_start (b : UInt8) :
    (feed .start b).1.length + (finish (feed .start b).2).length = 1 ∧ (feed .start b).2.Sane := by
  unfold feed
  cases fed : lead .refuse b with
  | point p => exact ⟨rfl, trivial⟩
  | more pending => exact ⟨rfl, State.sane_of_lead fed⟩
  | refused => exact ⟨rfl, trivial⟩

/-- A byte that cannot continue a code point cuts it short and is read anew. -/
theorem feed_refused {pending : Pending} {b : UInt8} (refused : continuation pending b = .refused) :
    feed (.inside pending) b = (finish (.inside pending) ++ (feed .start b).1, (feed .start b).2) := by
  simp only [feed, refused, finish, List.singleton_append]

/-- A byte gives at most one code point, now or when the bytes end. -/
theorem feed_length (state : State) (b : UInt8) :
    (feed state b).1.length + (finish (feed state b).2).length ≤ (finish state).length + 1 ∧ (feed state b).2.Sane := by
  obtain ⟨length, sane⟩ := feed_start b
  cases state with
  | start => exact ⟨by rw [length, finish]; exact Nat.le_refl 1, sane⟩
  | inside pending =>
    cases fed : continuation pending b with
    | point p =>
      simp only [feed, fed]
      exact ⟨Nat.le_succ 1, trivial⟩
    | more next =>
      simp only [feed, fed]
      exact ⟨Nat.le_succ 1, State.sane_of_continuation fed⟩
    | refused =>
      rw [feed_refused fed]
      refine ⟨?_, sane⟩
      dsimp only
      rw [List.length_append]
      omega

/-- No code point begins with a continuation byte. -/
theorem encodePoint_head {p : CodePoint} {b : UInt8} {bytes : Bytes} (shape : encodePoint p = b :: bytes) :
    b.toNat < 0x80 ∨ 0xC0 ≤ b.toNat := by
  have bound := p.toNat_lt
  unfold encodePoint at shape
  dsimp only at shape
  generalize p.toNat = n at *
  split at shape
  · rw [List.cons.injEq] at shape
    rw [← shape.1, toNat_ofNat (by omega)]
    omega
  split at shape
  · rw [List.cons.injEq] at shape
    rw [← shape.1, toNat_ofNat (by omega)]
    omega
  split at shape
  · rw [List.cons.injEq] at shape
    rw [← shape.1, toNat_ofNat (by omega)]
    omega
  · rw [List.cons.injEq] at shape
    rw [← shape.1, toNat_ofNat (by omega)]
    omega

/-- The bytes of a code point end what came before and make it up again. -/
theorem feedAll_encodePoint {p : CodePoint} {state : State} (scalar : Text.isScalar p = true) (sane : state.Sane)
    (rest : Bytes) : feedAll state (encodePoint p ++ rest) =
      (finish state ++ p :: (feedAll .start rest).1, (feedAll .start rest).2) := by
  have whole : feedAll .start _ = _ := feedAll_completes (completes_encodePoint (.inr scalar)) rest
  cases state with
  | start => exact whole
  | inside pending =>
    obtain ⟨b, bytes, shape⟩ := List.exists_cons_of_ne_nil (encodePoint_ne_nil p)
    have refused : continuation pending b = .refused := by
      have outside := encodePoint_head shape
      have low := sane.1
      have high := sane.2
      refine if_neg ?_
      rw [Bool.and_eq_true, decide_eq_true_eq, decide_eq_true_eq, UInt8.le_iff_toNat_le, UInt8.le_iff_toNat_le]
      omega
    rw [shape, List.cons_append, feedAll] at whole ⊢
    rw [feed_refused refused]
    simp only [Prod.mk.injEq] at whole ⊢
    rw [List.append_assoc, whole.1]
    exact ⟨rfl, whole.2⟩

end ProxyControl.Utf8
