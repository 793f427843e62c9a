import ProxyControl.Proofs.Text.Utf8

namespace ProxyControl.Utf8

/-- Bytes that the encoding of some scalar value begins with. -/
def Begins (bytes : Bytes) : Prop := ∃ p, Text.isScalar p = true ∧ bytes <+: encodePoint p

/-- Bytes at which no scalar value stands, cut off as one malformed sequence: they are the longest run from there
with which an encoding begins, or a single byte if there is no such run. -/
structure Malformed (bad rest : Bytes) : Prop where
  ill : ∀ p, Text.isScalar p = true → ¬ encodePoint p <+: bad ++ rest
  nonempty : bad ≠ []
  begins : Begins bad ∨ bad.length = 1
  longest : ∀ bytes, bytes <+: bad ++ rest → Begins bytes → bytes.length ≤ bad.length

/-- What a byte sequence says as UTF-8, with every malformed sequence replaced. -/
inductive Replaced : Bytes → Text → Prop
  | nil : Replaced [] []
  | point {p : CodePoint} {rest : Bytes} {t : Text} (scalar : Text.isScalar p = true) (after : Replaced rest t) :
      Replaced (encodePoint p ++ rest) (p :: t)
  | malformed {bad rest : Bytes} {t : Text} (cut : Malformed bad rest) (after : Replaced rest t) :
      Replaced (bad ++ rest) (.char '\uFFFD' :: t)

/-- The same bytes are cut in one way only. -/
theorem Malformed.unique {bad rest bad' rest' : Bytes} (cut : Malformed bad rest) (cut' : Malformed bad' rest')
    (same : bad ++ rest = bad' ++ rest') : bad = bad' ∧ rest = rest' := by
  have bounded {bad rest bad' rest' : Bytes} (cut : Malformed bad rest) (cut' : Malformed bad' rest')
      (same : bad ++ rest = bad' ++ rest') : bad.length ≤ bad'.length := by
    rcases cut.begins with begins | one
    · exact cut'.longest bad (same ▸ List.prefix_append bad rest) begins
    · rw [one]
      exact List.length_pos_iff.mpr cut'.nonempty
  exact List.append_inj same (Nat.le_antisymm (bounded cut cut' same) (bounded cut' cut same.symm))

/-- A state is left for another one when bytes are taken and complete nothing. -/
inductive Took : State → Bytes → State → Prop
  | nil {state : State} : Took state [] state
  | next {state state' : State} {b : UInt8} {pending : Pending} {bytes : Bytes}
      (more : step .refuse state b = .more pending) (rest : Took (.inside pending) bytes state') :
      Took state (b :: bytes) state'

section

variable {state state' : State} {seen bytes : Bytes} {b : UInt8} {p : CodePoint} {pending : Pending}

theorem Completes.ne_nil (whole : Completes .refuse p state bytes) : bytes ≠ [] := by
  cases whole with
  | last => exact List.cons_ne_nil _ _
  | next => exact List.cons_ne_nil _ _

theorem Completes.ne_refused (whole : Completes .refuse p state (b :: bytes)) : step .refuse state b ≠ .refused := by
  intro refused
  cases whole with
  | last point =>
    rw [point] at refused
    cases refused
  | next more _ =>
    rw [more] at refused
    cases refused

theorem Took.completes (took : Took state seen state') (whole : Completes .refuse p state' bytes) :
    Completes .refuse p state (seen ++ bytes) := by
  induction took with
  | nil => exact whole
  | next more _ ih => exact .next more (ih whole)

/-- What is taken completes nothing, so that a code point over the same bytes goes beyond it. -/
theorem Took.rest_of_completes {more later : Bytes} (took : Took state seen state')
    (whole : Completes .refuse p state bytes) (same : bytes ++ more = seen ++ later) :
    ∃ rest, bytes = seen ++ rest ∧ Completes .refuse p state' rest := by
  induction took generalizing bytes with
  | nil => exact ⟨bytes, rfl, whole⟩
  | next taken _ ih =>
    cases whole with
    | last point =>
      obtain ⟨rfl, _⟩ := List.cons.inj same
      rw [taken] at point
      cases point
    | next taken' whole =>
      obtain ⟨rfl, tail⟩ := List.cons.inj same
      rw [taken] at taken'
      cases taken'
      obtain ⟨rest, rfl, completed⟩ := ih whole tail
      exact ⟨rest, rfl, completed⟩

theorem feedAll_took (took : Took state seen state') (rest : Bytes) :
    feedAll state (seen ++ rest) = feedAll state' rest := by
  induction took with
  | nil => rfl
  | @next state _ b pending bytes more _ ih =>
    rw [← ih]
    cases state with
    | start =>
      rw [step] at more
      simp only [List.cons_append, feedAll, feed, more, List.nil_append]
    | inside pending =>
      rw [step] at more
      simp only [List.cons_append, feedAll, feed, more, List.nil_append]

/-- From a state, bytes make up a code point, or all of them are taken, or one of them does not fit. -/
theorem scan (state : State) (bytes : Bytes) :
    (∃ p first rest, bytes = first ++ rest ∧ Completes .refuse p state first) ∨ (∃ state', Took state bytes state') ∨
      ∃ seen b rest state', bytes = seen ++ b :: rest ∧ Took state seen state' ∧ step .refuse state' b = .refused := by
  induction bytes generalizing state with
  | nil => exact .inr (.inl ⟨state, .nil⟩)
  | cons b bytes ih =>
    cases taken : step .refuse state b with
    | point p => exact .inl ⟨p, [b], bytes, rfl, .last taken⟩
    | refused => exact .inr (.inr ⟨[], b, bytes, state, rfl, .nil, taken⟩)
    | more pending =>
      rcases ih (.inside pending) with ⟨p, first, rest, rfl, whole⟩ | ⟨state', took⟩ |
        ⟨seen, c, rest, state', rfl, took, refused⟩
      · exact .inl ⟨p, b :: first, rest, rfl, .next taken whole⟩
      · exact .inr (.inl ⟨state', .next taken took⟩)
      · exact .inr (.inr ⟨b :: seen, c, rest, state', rfl, .next taken took, refused⟩)

end

/-- The first byte of several, with what it says about the others. -/
theorem lead_cases {b : UInt8} {pending : Pending} (more : lead .refuse b = .more pending) :
    (∃ k, 2 ≤ k ∧ k < 0x20 ∧ b = UInt8.ofNat (0xC0 + k)) ∨ (∃ k, k < 0x10 ∧ b = UInt8.ofNat (0xE0 + k)) ∨
      ∃ k, k < 5 ∧ b = UInt8.ofNat (0xF0 + k) := by
  have shifted {start : Nat} (above : start ≤ b.toNat) : b = UInt8.ofNat (start + (b.toNat - start)) := by
    rw [Nat.add_sub_cancel' above, UInt8.ofNat_toNat]
  unfold lead at more
  simp only [UInt8.lt_iff_toNat_lt] at more
  split at more
  · cases more
  split at more
  · cases more
  rename_i _ low
  replace low : ¬ b.toNat < 0xC2 := low
  split at more
  · rename_i high
    replace high : b.toNat < 0xE0 := high
    exact .inl ⟨b.toNat - 0xC0, by omega, by omega, shifted (by omega)⟩
  rename_i low
  replace low : ¬ b.toNat < 0xE0 := low
  split at more
  · rename_i high
    replace high : b.toNat < 0xF0 := high
    exact .inr (.inl ⟨b.toNat - 0xE0, by omega, shifted (by omega)⟩)
  rename_i low
  replace low : ¬ b.toNat < 0xF0 := low
  split at more
  · rename_i high
    replace high : b.toNat < 0xF5 := high
    exact .inr (.inr ⟨b.toNat - 0xF0, by omega, shifted (by omega)⟩)
  · cases more

section

variable {pending : Pending} {bytes : Bytes} {p : CodePoint}

theorem Completes.head_fits (whole : Completes .refuse p (.inside pending) bytes)
    (sane : State.Sane (.inside pending)) :
    ∃ k rest, bytes = UInt8.ofNat (0x80 + k) :: rest ∧ k < 0x40 ∧ pending.low.toNat ≤ 0x80 + k ∧
      0x80 + k ≤ pending.high.toNat := by
  obtain ⟨b, rest, rfl⟩ := List.exists_cons_of_ne_nil whole.ne_nil
  have fits : pending.low.toNat ≤ b.toNat ∧ b.toNat ≤ pending.high.toNat := by
    refine Classical.byContradiction fun outside => whole.ne_refused (if_neg ?_)
    rwa [Bool.and_eq_true, decide_eq_true_eq, decide_eq_true_eq, UInt8.le_iff_toNat_le, UInt8.le_iff_toNat_le]
  obtain ⟨low, high⟩ := sane
  have value : 0x80 + (b.toNat - 0x80) = b.toNat := by omega
  exact ⟨b.toNat - 0x80, rest, by rw [value, UInt8.ofNat_toNat], by omega, by omega, by omega⟩

/-- The last byte inside a code point adds its six bits. -/
theorem Completes.last_cases (whole : Completes .refuse p (.inside pending) bytes) (one : pending.more = 1)
    (sane : State.Sane (.inside pending)) :
    ∃ k, k < 0x40 ∧ pending.low.toNat ≤ 0x80 + k ∧ 0x80 + k ≤ pending.high.toNat ∧
      bytes = [UInt8.ofNat (0x80 + k)] ∧ p = .ofNat (pending.value * 0x40 + k) := by
  obtain ⟨k, rest, rfl, bound, low, high⟩ := whole.head_fits sane
  have stepped : step .refuse (.inside pending) _ = _ := step_last bound one low high rfl
  cases whole with
  | last point =>
    rw [stepped] at point
    cases point
    exact ⟨k, bound, low, high, rfl, rfl⟩
  | next more _ =>
    rw [stepped] at more
    cases more

/-- Every other byte adds them, too, and one byte fewer remains to come. -/
theorem Completes.next_cases {more : Nat} (whole : Completes .refuse p (.inside pending) bytes)
    (many : pending.more = more + 2) (sane : State.Sane (.inside pending)) :
    ∃ k rest, k < 0x40 ∧ pending.low.toNat ≤ 0x80 + k ∧ 0x80 + k ≤ pending.high.toNat ∧
      bytes = UInt8.ofNat (0x80 + k) :: rest ∧
      Completes .refuse p (.inside ⟨pending.value * 0x40 + k, more + 1, 0x80, 0xBF,
        pending.seen ++ [UInt8.ofNat (0x80 + k)]⟩) rest := by
  obtain ⟨k, rest, rfl, bound, low, high⟩ := whole.head_fits sane
  have stepped : step .refuse (.inside pending) _ = _ := step_next bound many low high rfl
  cases whole with
  | last point =>
    rw [stepped] at point
    cases point
  | next taken whole =>
    rw [stepped] at taken
    cases taken
    exact ⟨k, rest, bound, low, high, rfl, whole⟩

end

theorem encodePoint_one {n : Nat} (bound : n < 0x80) :
    Text.isScalar (.ofNat n) = true ∧ encodePoint (.ofNat n) = [UInt8.ofNat n] := by
  have value : (CodePoint.ofNat n).toNat = n := CodePoint.toNat_ofNat (by omega)
  refine ⟨(CodePoint.isScalar_iff _).mpr (by omega), ?_⟩
  rw [encodePoint, value]
  exact if_pos bound

theorem encodePoint_two {k j : Nat} (low : 2 ≤ k) (high : k < 0x20) (second : j < 0x40) :
    Text.isScalar (.ofNat (k * 0x40 + j)) = true ∧
      encodePoint (.ofNat (k * 0x40 + j)) = [UInt8.ofNat (0xC0 + k), UInt8.ofNat (0x80 + j)] := by
  have value : (CodePoint.ofNat (k * 0x40 + j)).toNat = k * 0x40 + j := CodePoint.toNat_ofNat (by omega)
  refine ⟨(CodePoint.isScalar_iff _).mpr (by omega), ?_⟩
  have parts : (k * 0x40 + j) / 0x40 = k ∧ (k * 0x40 + j) % 0x40 = j := by omega
  rw [encodePoint, value]
  dsimp only
  rw [if_neg (by omega), if_pos (by omega), parts.1, parts.2]

theorem encodePoint_three {k j i : Nat} (first : k < 0x10) (second : j < 0x40) (third : i < 0x40)
    (least : k = 0 → 0x20 ≤ j) (most : k = 0xD → j < 0x20) :
    Text.isScalar (.ofNat ((k * 0x40 + j) * 0x40 + i)) = true ∧
      encodePoint (.ofNat ((k * 0x40 + j) * 0x40 + i)) =
        [UInt8.ofNat (0xE0 + k), UInt8.ofNat (0x80 + j), UInt8.ofNat (0x80 + i)] := by
  have value : (CodePoint.ofNat ((k * 0x40 + j) * 0x40 + i)).toNat = (k * 0x40 + j) * 0x40 + i :=
    CodePoint.toNat_ofNat (by omega)
  refine ⟨(CodePoint.isScalar_iff _).mpr (by omega), ?_⟩
  generalize whole : (k * 0x40 + j) * 0x40 + i = n at *
  have parts : n / 0x1000 = k ∧ n / 0x40 % 0x40 = j ∧ n % 0x40 = i := by omega
  rw [encodePoint, value]
  dsimp only
  rw [if_neg (by omega), if_neg (by omega), if_pos (by omega), parts.1, parts.2.1, parts.2.2]

theorem encodePoint_four {k j i h : Nat} (first : k < 5) (second : j < 0x40) (third : i < 0x40) (fourth : h < 0x40)
    (least : k = 0 → 0x10 ≤ j) (most : k = 4 → j < 0x10) :
    Text.isScalar (.ofNat (((k * 0x40 + j) * 0x40 + i) * 0x40 + h)) = true ∧
      encodePoint (.ofNat (((k * 0x40 + j) * 0x40 + i) * 0x40 + h)) =
        [UInt8.ofNat (0xF0 + k), UInt8.ofNat (0x80 + j), UInt8.ofNat (0x80 + i), UInt8.ofNat (0x80 + h)] := by
  have value : (CodePoint.ofNat (((k * 0x40 + j) * 0x40 + i) * 0x40 + h)).toNat =
      ((k * 0x40 + j) * 0x40 + i) * 0x40 + h := CodePoint.toNat_ofNat (by omega)
  refine ⟨(CodePoint.isScalar_iff _).mpr (by omega), ?_⟩
  generalize whole : ((k * 0x40 + j) * 0x40 + i) * 0x40 + h = n at *
  have parts : n / 0x40000 = k ∧ n / 0x1000 % 0x40 = j ∧ n / 0x40 % 0x40 = i ∧ n % 0x40 = h := by omega
  rw [encodePoint, value]
  dsimp only
  rw [if_neg (by omega), if_neg (by omega), if_neg (by omega), parts.1, parts.2.1, parts.2.2.1, parts.2.2.2]

/-- What makes up a code point is the encoding of a scalar value. -/
theorem encodePoint_of_completes {bytes : Bytes} {p : CodePoint} (whole : Completes .refuse p .start bytes) :
    Text.isScalar p = true ∧ encodePoint p = bytes := by
  have wide (value more : Nat) (seen : Bytes) : State.Sane (.inside ⟨value, more, 0x80, 0xBF, seen⟩) :=
    ⟨Nat.le_refl 0x80, Nat.le_refl 0xBF⟩
  cases whole with
  | @last _ b point =>
    rw [step, lead] at point
    split at point
    · rename_i small
      cases point
      rw [UInt8.lt_iff_toNat_lt] at small
      have shape := encodePoint_one small
      rwa [UInt8.ofNat_toNat] at shape
    split at point
    · cases point
    split at point
    · cases point
    split at point
    · cases point
    split at point
    · cases point
    · cases point
  | @next _ b pending bytes more rest =>
    rw [step] at more
    have sane := State.sane_of_lead more
    rcases lead_cases more with ⟨k, low, high, rfl⟩ | ⟨k, high, rfl⟩ | ⟨k, high, rfl⟩
    · rw [lead_two k high low] at more
      cases more
      obtain ⟨j, second, _, _, rfl, rfl⟩ := rest.last_cases rfl sane
      exact encodePoint_two low high second
    · rw [lead_three k high] at more
      cases more
      obtain ⟨j, _, second, least, most, rfl, tail⟩ := rest.next_cases rfl sane
      obtain ⟨i, third, _, _, rfl, rfl⟩ := tail.last_cases rfl (wide _ _ _)
      refine encodePoint_three high second third (fun zero => ?_) (fun surrogate => ?_)
      · rw [if_pos zero] at least
        exact Nat.le_of_add_le_add_left (least : 0x80 + 0x20 ≤ 0x80 + j)
      · rw [if_pos (show k = 0xD ∧ Surrogates.refuse = .refuse from ⟨surrogate, rfl⟩)] at most
        exact Nat.lt_of_add_lt_add_left (Nat.lt_succ_of_le most : 0x80 + j < 0x80 + 0x20)
    · rw [lead_four k high] at more
      cases more
      obtain ⟨j, _, second, least, most, rfl, tail⟩ := rest.next_cases rfl sane
      obtain ⟨i, _, third, _, _, rfl, last⟩ := tail.next_cases rfl (wide _ _ _)
      obtain ⟨h, fourth, _, _, rfl, rfl⟩ := last.last_cases rfl (wide _ _ _)
      refine encodePoint_four high second third fourth (fun zero => ?_) (fun beyond => ?_)
      · rw [if_pos zero] at least
        exact Nat.le_of_add_le_add_left (least : 0x80 + 0x10 ≤ 0x80 + j)
      · rw [if_pos beyond] at most
        exact Nat.lt_of_add_lt_add_left (Nat.lt_succ_of_le most : 0x80 + j < 0x80 + 0x10)

theorem continuation_bounds : (0x80 : UInt8).toNat ≤ (0xBF : UInt8).toNat := by decide

/-- Some byte can come next. -/
structure Pending.IsOpen (pending : Pending) : Prop where
  waits : ∃ more, pending.more = more + 1
  sane : State.Sane (.inside pending)
  bounds : pending.low.toNat ≤ pending.high.toNat

theorem Pending.isOpen_of_lead {b : UInt8} {pending : Pending} (more : lead .refuse b = .more pending) :
    pending.IsOpen := by
  have sane := State.sane_of_lead more
  rcases lead_cases more with ⟨k, low, high, rfl⟩ | ⟨k, high, rfl⟩ | ⟨k, high, rfl⟩
  · rw [lead_two k high low] at more
    cases more
    exact ⟨⟨0, rfl⟩, sane, continuation_bounds⟩
  · rw [lead_three k high] at more
    cases more
    refine ⟨⟨1, rfl⟩, sane, ?_⟩
    dsimp only
    split
    · split
      · omega
      · decide
    · split
      · decide
      · decide
  · rw [lead_four k high] at more
    cases more
    refine ⟨⟨2, rfl⟩, sane, ?_⟩
    dsimp only
    split
    · split
      · omega
      · decide
    · split
      · decide
      · decide

theorem Pending.isOpen_of_continuation {b : UInt8} {before pending : Pending}
    (more : continuation before b = .more pending) : pending.IsOpen := by
  have sane := State.sane_of_continuation more
  unfold continuation at more
  split at more
  · dsimp only at more
    split at more
    · cases more
    · cases more
    · rename_i above _
      obtain rfl := Step.more.inj more
      exact ⟨Nat.exists_eq_succ_of_ne_zero above, sane, continuation_bounds⟩
  · cases more

theorem Pending.IsOpen.exists_bits {pending : Pending} (opened : pending.IsOpen) :
    ∃ k, k < 0x40 ∧ pending.low.toNat ≤ 0x80 + k ∧ 0x80 + k ≤ pending.high.toNat := by
  obtain ⟨_, ⟨low, high⟩, bounds⟩ := opened
  exact ⟨pending.low.toNat - 0x80, by omega, by omega, by omega⟩

/-- Every code point that was begun can be completed. -/
theorem Pending.IsOpen.completes {pending : Pending} (opened : pending.IsOpen) :
    ∃ p bytes, Completes .refuse p (.inside pending) bytes := by
  obtain ⟨more, left⟩ := opened.waits
  induction more generalizing pending with
  | zero =>
    obtain ⟨k, bound, low, high⟩ := opened.exists_bits
    exact ⟨_, _, .last (step_last bound left low high rfl)⟩
  | succ more ih =>
    obtain ⟨k, bound, low, high⟩ := opened.exists_bits
    have taken : step .refuse _ _ = _ := step_next bound left low high rfl
    have next : Pending.IsOpen ⟨pending.value * 0x40 + k, more + 1, 0x80, 0xBF,
        pending.seen ++ [UInt8.ofNat (0x80 + k)]⟩ :=
      ⟨⟨more, rfl⟩, ⟨Nat.le_refl 0x80, Nat.le_refl 0xBF⟩, continuation_bounds⟩
    obtain ⟨p, bytes, whole⟩ := ih next rfl
    exact ⟨p, _, .next taken whole⟩

theorem Took.completable {state state' : State} {seen : Bytes} (took : Took state seen state') (taken : seen ≠ []) :
    ∃ p bytes, Completes .refuse p state' bytes := by
  induction took with
  | nil => exact absurd rfl taken
  | @next state state' b pending bytes more rest ih =>
    cases rest with
    | nil =>
      refine Pending.IsOpen.completes ?_
      cases state with
      | start => exact Pending.isOpen_of_lead more
      | inside before => exact Pending.isOpen_of_continuation more
    | next _ _ => exact ih (List.cons_ne_nil _ _)

/-- Bytes that were taken from the start begin the encoding of a scalar value. -/
theorem Took.begins {seen : Bytes} {state : State} (took : Took .start seen state) (taken : seen ≠ []) :
    Begins seen := by
  obtain ⟨p, bytes, whole⟩ := took.completable taken
  obtain ⟨scalar, shape⟩ := encodePoint_of_completes (took.completes whole)
  exact ⟨p, scalar, bytes, shape.symm⟩

/-- Where a byte does not fit, no encoding goes on beyond what was taken. -/
theorem Took.length_le_of_begins {seen rest bytes : Bytes} {b : UInt8} {state : State} (took : Took .start seen state)
    (refused : step .refuse state b = .refused) (within : bytes <+: seen ++ b :: rest) (begins : Begins bytes) :
    bytes.length ≤ seen.length := by
  obtain ⟨p, scalar, more, shape⟩ := begins
  -- In a longer run the byte that was refused would go on towards a code point.
  refine Nat.le_of_not_lt fun longer => ?_
  obtain ⟨later, same⟩ := within
  obtain ⟨beyond, rfl⟩ : seen <+: bytes :=
    List.prefix_of_prefix_length_le (List.prefix_append seen (b :: rest)) ⟨later, same⟩ (Nat.le_of_lt longer)
  have whole : Completes .refuse p .start (encodePoint p) := completes_encodePoint (.inr scalar)
  have covers : encodePoint p ++ [] = seen ++ (beyond ++ more) := by
    rw [List.append_nil, ← shape, List.append_assoc]
  obtain ⟨left, split, completes⟩ := took.rest_of_completes whole covers
  rw [← shape, List.append_assoc, List.append_cancel_left_eq] at split
  rw [List.append_assoc, List.append_cancel_left_eq] at same
  obtain ⟨c, beyond, rfl⟩ : ∃ c tail, beyond = c :: tail := by
    refine List.exists_cons_of_ne_nil fun empty => ?_
    rw [empty, List.append_nil] at longer
    exact Nat.lt_irrefl _ longer
  obtain ⟨rfl, _⟩ := List.cons.inj same
  rw [← split] at completes
  exact completes.ne_refused refused

/-- Where all bytes were taken, or the next one does not fit, no encoding of a scalar value stands. -/
theorem Took.ill {seen rest : Bytes} {state : State} (took : Took .start seen state)
    (stops : ∀ b later, rest = b :: later → step .refuse state b = .refused) {p : CodePoint}
    (scalar : Text.isScalar p = true) : ¬ encodePoint p <+: seen ++ rest := by
  rintro ⟨more, same⟩
  obtain ⟨left, shape, whole⟩ := took.rest_of_completes (completes_encodePoint (.inr scalar)) same
  obtain ⟨b, left, rfl⟩ := List.exists_cons_of_ne_nil whole.ne_nil
  rw [shape, List.append_assoc, List.append_cancel_left_eq] at same
  exact whole.ne_refused (stops b _ same.symm)

theorem Took.inside {state state' : State} {seen : Bytes} (took : Took state seen state') (taken : seen ≠ []) :
    ∃ pending, state' = .inside pending := by
  induction took with
  | nil => exact absurd rfl taken
  | @next _ _ _ pending _ _ rest ih =>
    cases rest with
    | nil => exact ⟨pending, rfl⟩
    | next _ _ => exact ih (List.cons_ne_nil _ _)

/-- The next cut of a byte sequence, and what lenient decoding makes of it. -/
theorem decodeLeniently_cut {bytes : Bytes} (nonempty : bytes ≠ []) :
    (∃ p rest, Text.isScalar p = true ∧ bytes = encodePoint p ++ rest ∧
        decodeLeniently bytes = p :: decodeLeniently rest) ∨
      ∃ bad rest, Malformed bad rest ∧ bytes = bad ++ rest ∧
        decodeLeniently bytes = .char '\uFFFD' :: decodeLeniently rest := by
  rcases scan .start bytes with ⟨p, first, rest, rfl, whole⟩ | ⟨state, took⟩ |
    ⟨seen, b, rest, state, rfl, took, refused⟩
  · obtain ⟨scalar, rfl⟩ := encodePoint_of_completes whole
    refine .inl ⟨p, rest, scalar, rfl, ?_⟩
    simp only [decodeLeniently, feedAll_completes whole rest, List.cons_append]
  · obtain ⟨pending, rfl⟩ := took.inside nonempty
    refine .inr ⟨bytes, [], ⟨?_, nonempty, .inl (took.begins nonempty), ?_⟩, (List.append_nil bytes).symm, ?_⟩
    · intro p scalar
      exact took.ill (fun _ _ impossible => (List.cons_ne_nil _ _ impossible.symm).elim) scalar
    · intro run within _
      rw [List.append_nil] at within
      exact within.length_le
    · have fed := feedAll_took took []
      rw [List.append_nil] at fed
      rw [decodeLeniently, fed]
      rfl
  · have ill {p : CodePoint} (scalar : Text.isScalar p = true) : ¬ encodePoint p <+: seen ++ b :: rest := by
      refine took.ill (fun c later same => ?_) scalar
      obtain ⟨rfl, _⟩ := List.cons.inj same
      exact refused
    have bound {run : Bytes} (within : run <+: seen ++ b :: rest) (begins : Begins run) : run.length ≤ seen.length :=
      took.length_le_of_begins refused within begins
    -- A byte that does not fit is bad by itself if nothing was begun. Otherwise it is read again.
    by_cases taken : seen = []
    · subst taken
      cases took
      rw [step] at refused
      refine .inr ⟨[b], rest, ⟨fun p scalar => ill scalar, List.cons_ne_nil _ _, .inr rfl, fun run within begins => ?_⟩,
        rfl, ?_⟩
      · exact Nat.le_succ_of_le (bound within begins)
      · simp only [decodeLeniently, List.nil_append, feedAll, feed, refused, List.cons_append]
    · obtain ⟨pending, rfl⟩ := took.inside taken
      rw [step] at refused
      refine .inr ⟨seen, b :: rest, ⟨fun p scalar => ill scalar, taken, .inl (took.begins taken),
        fun run within begins => bound within begins⟩, rfl, ?_⟩
      simp only [decodeLeniently, feedAll_took took, feedAll, feed_refused refused, finish, List.cons_append,
        List.nil_append]

/-- Lenient decoding replaces what is malformed. -/
theorem replaced_decodeLeniently (bytes : Bytes) : Replaced bytes (decodeLeniently bytes) := by
  -- On the length: a cut takes several bytes, so that its rest is not the tail of the list.
  induction length : bytes.length using Nat.strongRecOn generalizing bytes with
  | _ n ih =>
    by_cases empty : bytes = []
    · rw [empty]
      exact .nil
    subst length
    rcases decodeLeniently_cut empty with ⟨p, rest, scalar, rfl, decoded⟩ | ⟨bad, rest, cut, rfl, decoded⟩
    · have shorter : rest.length < (encodePoint p ++ rest).length := by
        rw [List.length_append]
        exact Nat.lt_add_of_pos_left (List.length_pos_iff.mpr (encodePoint_ne_nil p))
      rw [decoded]
      exact .point scalar (ih _ shorter rest rfl)
    · have shorter : rest.length < (bad ++ rest).length := by
        rw [List.length_append]
        exact Nat.lt_add_of_pos_left (List.length_pos_iff.mpr cut.nonempty)
      rw [decoded]
      exact .malformed cut (ih _ shorter rest rfl)

/-- What a byte sequence says is what lenient decoding makes of it. -/
theorem replaced_iff {bytes : Bytes} {t : Text} : Replaced bytes t ↔ t = decodeLeniently bytes := by
  constructor
  · intro replaced
    induction replaced with
    | nil => rfl
    | @point p rest t scalar _ ih =>
      have whole : Completes .refuse p .start (encodePoint p) := completes_encodePoint (.inr scalar)
      rw [ih, decodeLeniently, decodeLeniently, feedAll_completes whole rest]
      rfl
    | @malformed bad rest t cut _ ih =>
      have nonempty : bad ++ rest ≠ [] := List.append_ne_nil_of_left_ne_nil cut.nonempty rest
      -- The decoder cuts these bytes too. It finds no character, and malformed sequences are cut in one way only.
      rcases decodeLeniently_cut nonempty with ⟨p, after, scalar, shape, _⟩ | ⟨bad', rest', cut', shape, decoded⟩
      · exact absurd ⟨after, shape.symm⟩ (cut.ill p scalar)
      · obtain ⟨rfl, rfl⟩ := cut.unique cut' shape
        rw [decoded, ih]
  · rintro rfl
    exact replaced_decodeLeniently bytes

end ProxyControl.Utf8
