import ProxyControl.Http.Percent
import ProxyControl.Proofs.Outcome
import ProxyControl.Proofs.Text.Encoding
import ProxyControl.Proofs.Text.Utf8

namespace ProxyControl.Http

/-- The two digits of a byte, most significant first. -/
def byteDigits (b : UInt8) : CodePoint × CodePoint :=
  ((hexDigit (b.toNat / 16 % 16)).asciiUpper, (hexDigit (b.toNat % 16)).asciiUpper)

theorem percentByte_eq (b : UInt8) : percentByte b = [.char '%', (byteDigits b).1, (byteDigits b).2] := rfl

theorem upperDigit_spec : ∀ n < 16, (hexDigit n).asciiUpper.hexValue? = some n ∧
    isUnreserved (hexDigit n).asciiUpper = true := by decide

theorem byteDigits_spec (b : UInt8) : ∃ h l, (byteDigits b).1.hexValue? = some h ∧ (byteDigits b).2.hexValue? = some l ∧
    UInt8.ofNat (h * 16 + l) = b := by
  have bound := b.toNat_lt
  refine ⟨b.toNat / 16 % 16, b.toNat % 16, (upperDigit_spec _ (Nat.mod_lt _ (by decide))).1,
    (upperDigit_spec _ (Nat.mod_lt _ (by decide))).1, ?_⟩
  have value : b.toNat / 16 % 16 * 16 + b.toNat % 16 = b.toNat := by omega
  rw [value, UInt8.ofNat_toNat]

/-- A text that begins with a `%` and two digits. -/
def BeginsEscape (t : Text) : Prop :=
  ∃ high low rest, t = .char '%' :: high :: low :: rest ∧ high.hexValue?.isSome = true ∧ low.hexValue?.isSome = true

/-- A text with a `%` and two digits anywhere. -/
def HasEscape (t : Text) : Prop := ∃ s, s <:+ t ∧ BeginsEscape s

theorem hasEscape_cons {p : CodePoint} {t : Text} : HasEscape (p :: t) ↔ BeginsEscape (p :: t) ∨ HasEscape t := by
  constructor
  · rintro ⟨s, suffix, begins⟩
    rcases List.suffix_cons_iff.mp suffix with rfl | later
    · exact .inl begins
    · exact .inr ⟨s, later, begins⟩
  · rintro (begins | ⟨s, suffix, begins⟩)
    · exact ⟨_, List.suffix_rfl, begins⟩
    · exact ⟨s, suffix.trans (List.suffix_cons p t), begins⟩

theorem not_beginsEscape {p : CodePoint} {t : Text} (other : p ≠ .char '%') : ¬ BeginsEscape (p :: t) := by
  rintro ⟨_, _, _, shape, _⟩
  exact other (List.cons.inj shape).1

theorem not_hasEscape_nil : ¬ HasEscape [] := by
  rintro ⟨s, suffix, begins⟩
  obtain rfl := List.suffix_nil.mp suffix
  obtain ⟨_, _, _, shape, _⟩ := begins
  cases shape

theorem not_hasEscape_of_not_mem {t : Text} (absent : .char '%' ∉ t) : ¬ HasEscape t := by
  induction t with
  | nil => exact not_hasEscape_nil
  | cons p t ih =>
    rw [List.mem_cons, not_or] at absent
    rw [hasEscape_cons, not_or]
    exact ⟨not_beginsEscape (Ne.symm absent.1), ih absent.2⟩

section

variable {separator : CodePoint} (digitless : separator.hexValue? = none)

include digitless

theorem beginsEscape_append {p : CodePoint} {t u : Text} :
    BeginsEscape (p :: (t ++ separator :: u)) ↔ BeginsEscape (p :: t) := by
  constructor
  · rintro ⟨high, low, rest, shape, first, second⟩
    rcases t with _ | ⟨q, _ | ⟨r, t⟩⟩
    · cases shape
      rw [digitless] at first
      cases first
    · cases shape
      rw [digitless] at second
      cases second
    · cases shape
      exact ⟨high, low, t, rfl, first, second⟩
  · rintro ⟨high, low, rest, shape, first, second⟩
    cases shape
    exact ⟨high, low, rest ++ separator :: u, rfl, first, second⟩

/-- No escape goes across a separator. -/
theorem hasEscape_append (other : separator ≠ .char '%') {t u : Text} :
    HasEscape (t ++ separator :: u) ↔ HasEscape t ∨ HasEscape u := by
  induction t with
  | nil =>
    rw [List.nil_append, hasEscape_cons]
    exact or_congr (iff_of_false (not_beginsEscape other) not_hasEscape_nil) Iff.rfl
  | cons p t ih => rw [List.cons_append, hasEscape_cons, beginsEscape_append digitless, ih, hasEscape_cons, or_assoc]

end

theorem percentBytes_escape {high low : CodePoint} {h l : Nat} (first : high.hexValue? = some h)
    (second : low.hexValue? = some l) (rest : Text) :
    percentBytes 0 (.char '%' :: high :: low :: rest) = UInt8.ofNat (h * 16 + l) :: percentBytes 0 rest := by
  rw [percentBytes, first, second]
  rfl

theorem percentBytes_plain {p : CodePoint} {rest : Text} (plain : ¬ BeginsEscape (p :: rest)) :
    percentBytes 0 (p :: rest) = Utf8.encodePoint p ++ percentBytes 0 rest := by
  rw [percentBytes.eq_def]
  dsimp only
  split
  · rename_i high low others
    split
    · rename_i first second
      exact absurd ⟨high, low, others, rfl, by rw [first]; rfl, by rw [second]; rfl⟩ plain
    · rfl
  · rfl

/-- Induction along the escapes of a text. -/
theorem escape_induction {motive : Text → Prop} (nil : motive [])
    (escape : ∀ (high low : CodePoint) (h l : Nat) (rest : Text), high.hexValue? = some h → low.hexValue? = some l →
      motive rest → motive (.char '%' :: high :: low :: rest))
    (plain : ∀ (p : CodePoint) (rest : Text), ¬ BeginsEscape (p :: rest) → motive rest → motive (p :: rest))
    (t : Text) :
    motive t := by
  induction length : t.length using Nat.strongRecOn generalizing t with
  | ind n ih =>
    cases t with
    | nil => exact nil
    | cons p rest =>
      rw [List.length_cons] at length
      by_cases begins : BeginsEscape (p :: rest)
      · obtain ⟨high, low, others, shape, first, second⟩ := begins
        obtain ⟨h, first⟩ := Option.isSome_iff_exists.mp first
        obtain ⟨l, second⟩ := Option.isSome_iff_exists.mp second
        cases shape
        simp only [List.length_cons] at length
        exact escape high low h l others first second (ih _ (by omega) others rfl)
      · exact plain p rest begins (ih _ (by omega) rest rfl)

theorem percentBytes_flatMap (bytes : Utf8.Bytes) (rest : Text) :
    percentBytes 0 (bytes.flatMap percentByte ++ rest) = bytes ++ percentBytes 0 rest := by
  induction bytes with
  | nil => rfl
  | cons b bytes ih =>
    obtain ⟨h, l, first, second, value⟩ := byteDigits_spec b
    rw [List.flatMap_cons, percentByte_eq, List.append_assoc, List.cons_append, List.cons_append, List.cons_append,
      List.nil_append, percentBytes_escape first second, ih, value, List.cons_append]

/-- Without escapes, a text stands for itself. -/
theorem percentBytes_of_not_hasEscape {t : Text} (plain : ¬ HasEscape t) : percentBytes 0 t = Utf8.encodeLoosely t := by
  induction t with
  | nil => rfl
  | cons p t ih =>
    rw [hasEscape_cons, not_or] at plain
    rw [percentBytes_plain plain.1, ih plain.2, Utf8.encodeLoosely_cons]

theorem percentDecode_of_not_hasEscape {t : Text} (unicode : t.IsUnicode) (plain : ¬ HasEscape t) :
    percentDecode t = t := by
  rw [percentDecode, percentBytes_of_not_hasEscape plain, Utf8.decodeLeniently_encodeLoosely unicode]

/-- How many code points bytes give in all, what they end within included. -/
def readLength (state : Utf8.State) (bytes : Utf8.Bytes) : Nat :=
  (Utf8.feedAll state bytes).1.length + (Utf8.finish (Utf8.feedAll state bytes).2).length

theorem readLength_point {p : CodePoint} {state : Utf8.State} (scalar : Text.isScalar p = true) (sane : state.Sane)
    (bytes : Utf8.Bytes) : readLength state (Utf8.encodePoint p ++ bytes) =
      (Utf8.finish state).length + 1 + readLength .start bytes := by
  rw [readLength, Utf8.feedAll_encodePoint scalar sane, readLength]
  dsimp only
  rw [List.length_append, List.length_cons]
  omega

theorem readLength_byte (state : Utf8.State) (b : UInt8) (bytes : Utf8.Bytes) :
    readLength state (b :: bytes) = (Utf8.feed state b).1.length + readLength (Utf8.feed state b).2 bytes := by
  rw [readLength, Utf8.feedAll, readLength]
  dsimp only
  rw [List.length_append]
  omega

/-- A code point, as well as an escape, gives at most one code point. -/
theorem readLength_le {t : Text} (unicode : t.IsUnicode) (state : Utf8.State) (sane : state.Sane) :
    readLength state (percentBytes 0 t) ≤ (Utf8.finish state).length + t.length ∧
      (HasEscape t → readLength state (percentBytes 0 t) < (Utf8.finish state).length + t.length) := by
  induction t using escape_induction generalizing state with
  | nil =>
    refine ⟨?_, ?_⟩
    · change [].length + _ ≤ _
      rw [List.length_nil, Nat.zero_add]
      exact Nat.le_add_right _ _
    · intro has
      exact absurd has not_hasEscape_nil
  | escape high low h l rest first second ih =>
    obtain ⟨fed, stays⟩ := Utf8.feed_length state (UInt8.ofNat (h * 16 + l))
    obtain ⟨bound, _⟩ := ih unicode.tail.tail.tail _ stays
    rw [percentBytes_escape first second, readLength_byte]
    simp only [List.length_cons]
    constructor
    · omega
    · intro _
      omega
  | plain p rest plain ih =>
    obtain ⟨bound, strict⟩ := ih unicode.tail .start trivial
    rw [percentBytes_plain plain, readLength_point (unicode p List.mem_cons_self) sane, List.length_cons]
    rw [Utf8.finish, List.length_nil] at bound strict
    constructor
    · omega
    · intro later
      have less := strict ((hasEscape_cons.mp later).resolve_left plain)
      omega

theorem length_percentDecode (t : Text) : (percentDecode t).length = readLength .start (percentBytes 0 t) := by
  rw [percentDecode, Utf8.decodeLeniently, readLength, List.length_append]

theorem length_percentDecode_le {t : Text} (unicode : t.IsUnicode) : (percentDecode t).length ≤ t.length := by
  have bound := (readLength_le unicode .start trivial).1
  rw [Utf8.finish, List.length_nil, Nat.zero_add] at bound
  rw [length_percentDecode]
  exact bound

/-- An escape shortens the text that it is decoded in. -/
theorem length_percentDecode_lt {t : Text} (unicode : t.IsUnicode) (has : HasEscape t) :
    (percentDecode t).length < t.length := by
  have bound := (readLength_le unicode .start trivial).2 has
  rw [Utf8.finish, List.length_nil, Nat.zero_add] at bound
  rw [length_percentDecode]
  exact bound

section

variable {isSafe : CodePoint → Bool}

/-- How a code point is written in a part of a URL. -/
def escapedPoint (isSafe : CodePoint → Bool) (p : CodePoint) : Text :=
  if isUnreserved p || isSafe p then [p] else (Utf8.encodePoint p).flatMap percentByte

def escaped (isSafe : CodePoint → Bool) (t : Text) : Text := t.flatMap (escapedPoint isSafe)

theorem percentPoint_eq_ok {p : CodePoint} {e : Text} (encoded : percentPoint isSafe p = .ok e) :
    e = escapedPoint isSafe p := by
  unfold percentPoint at encoded
  unfold escapedPoint
  split at encoded
  · cases encoded
    rw [if_pos ‹_›]
  · obtain ⟨bytes, sent, rfl⟩ := map_eq_ok.mp encoded
    obtain ⟨_, rfl⟩ := Text.toUtf8_eq_ok.mp sent
    rw [if_neg ‹_›, Utf8.encodeLoosely, List.flatMap_singleton]

theorem percentEncode_eq_ok {t e : Text} (encoded : percentEncode isSafe t = .ok e) : e = escaped isSafe t := by
  obtain ⟨pieces, run, rfl⟩ := map_eq_ok.mp encoded
  clear encoded
  induction t generalizing pieces with
  | nil =>
    cases run
    rfl
  | cons p t ih =>
    rw [List.mapM_cons] at run
    obtain ⟨first, here, run⟩ := bind_eq_ok.mp run
    obtain ⟨others, rest, same⟩ := bind_eq_ok.mp run
    cases same
    rw [List.flatten_cons, ih others rest, percentPoint_eq_ok here]
    rfl

theorem toNat_lt_of_isUnreserved {p : CodePoint} (unreserved : isUnreserved p = true) : p.toNat < 0x80 := by
  simp only [isUnreserved, CodePoint.isAsciiAlphanumeric, CodePoint.isAsciiLetter, CodePoint.isAsciiUpper,
    CodePoint.isAsciiLower, CodePoint.isAsciiDigit, Bool.or_eq_true, Bool.and_eq_true, decide_eq_true_eq] at unreserved
  rcases unreserved with (((((_ | _) | _) | rfl) | rfl) | rfl) | rfl
  · omega
  · omega
  · omega
  · decide
  · decide
  · decide
  · decide

/-- Only Unicode text is ever escaped. -/
theorem isUnicode_of_percentEncode (ascii : ∀ p, isSafe p = true → p.toNat < 0x80) {t e : Text}
    (encoded : percentEncode isSafe t = .ok e) : t.IsUnicode := by
  obtain ⟨pieces, run, rfl⟩ := map_eq_ok.mp encoded
  clear encoded
  induction t generalizing pieces with
  | nil =>
    intro p member
    cases member
  | cons p t ih =>
    rw [List.mapM_cons] at run
    obtain ⟨first, here, run⟩ := bind_eq_ok.mp run
    obtain ⟨others, rest, _⟩ := bind_eq_ok.mp run
    intro q member
    rcases List.mem_cons.mp member with rfl | later
    · unfold percentPoint at here
      split at here
      · rename_i kept
        have bound : q.toNat < 0x80 := (Bool.or_eq_true_iff.mp kept).elim toNat_lt_of_isUnreserved (ascii q)
        rw [CodePoint.isScalar_iff]
        omega
      · obtain ⟨bytes, sent, _⟩ := map_eq_ok.mp here
        exact (Text.toUtf8_eq_ok.mp sent).1 q List.mem_cons_self
    · exact ih others rest q later

/-- A point that a part of a URL takes as it is. -/
def IsKept (isSafe : CodePoint → Bool) (p : CodePoint) : Prop := (isUnreserved p || isSafe p) = true

instance (p : CodePoint) : Decidable (IsKept isSafe p) := inferInstanceAs (Decidable (_ = true))

theorem isKept_of_digit {p : CodePoint} (digit : p.hexValue?.isSome = true) : IsKept isSafe p := by
  refine Bool.or_eq_true_iff.mpr (.inl ?_)
  simp only [CodePoint.hexValue?] at digit
  simp only [isUnreserved, CodePoint.isAsciiAlphanumeric, CodePoint.isAsciiLetter, CodePoint.isAsciiUpper,
    CodePoint.isAsciiLower, CodePoint.isAsciiDigit, Bool.or_eq_true, Bool.and_eq_true, decide_eq_true_eq]
  split at digit
  · omega
  split at digit
  · omega
  split at digit
  · omega
  · cases digit

theorem escapedPoint_of_isKept {p : CodePoint} (kept : IsKept isSafe p) : escapedPoint isSafe p = [p] := if_pos kept

theorem escaped_cons (p : CodePoint) (t : Text) : escaped isSafe (p :: t) = escapedPoint isSafe p ++ escaped isSafe t :=
  List.flatMap_cons

theorem escaped_append (t u : Text) : escaped isSafe (t ++ u) = escaped isSafe t ++ escaped isSafe u :=
  List.flatMap_append

theorem escaped_of_isKept {t : Text} (kept : ∀ p ∈ t, IsKept isSafe p) : escaped isSafe t = t := by
  induction t with
  | nil => rfl
  | cons p t ih =>
    rw [escaped_cons, escapedPoint_of_isKept (kept p List.mem_cons_self),
      ih fun q member => kept q (List.mem_cons_of_mem _ member), List.singleton_append]

theorem mem_escaped {t : Text} {p : CodePoint} (member : p ∈ escaped isSafe t) :
    p ∈ t ∨ p = .char '%' ∨ p.hexValue?.isSome = true := by
  obtain ⟨q, within, inside⟩ := List.mem_flatMap.mp member
  unfold escapedPoint at inside
  split at inside
  · obtain rfl := List.mem_singleton.mp inside
    exact .inl within
  · obtain ⟨b, _, digit⟩ := List.mem_flatMap.mp inside
    rw [percentByte_eq] at digit
    obtain ⟨h, l, first, second, _⟩ := byteDigits_spec b
    simp only [List.mem_cons, List.not_mem_nil, or_false] at digit
    rcases digit with rfl | rfl | rfl
    · exact .inr (.inl rfl)
    · exact .inr (.inr (by rw [first]; rfl))
    · exact .inr (.inr (by rw [second]; rfl))

/-- What shows no `%` when it is escaped was not escaped. -/
theorem escaped_of_percent_not_mem {t : Text} (absent : .char '%' ∉ escaped isSafe t) : escaped isSafe t = t := by
  refine escaped_of_isKept fun p member => ?_
  by_contra other
  obtain ⟨b, bytes, shape⟩ := List.exists_cons_of_ne_nil (Utf8.encodePoint_ne_nil p)
  refine absent (List.mem_flatMap.mpr ⟨p, member, ?_⟩)
  rw [escapedPoint, if_neg (show ¬ (isUnreserved p || isSafe p) = true from other), shape, List.flatMap_cons,
    percentByte_eq]
  exact List.mem_cons_self

/-- What an escaped text begins with, its text begins with as well, if it is a digit. -/
theorem head_of_escaped_head {t : Text} {p : CodePoint} {more : Text} (digit : p.hexValue?.isSome = true)
    (shape : escaped isSafe t = p :: more) : ∃ rest, t = p :: rest ∧ more = escaped isSafe rest := by
  cases t with
  | nil => cases shape
  | cons q t =>
    rw [escaped_cons] at shape
    unfold escapedPoint at shape
    split at shape
    · cases shape
      exact ⟨t, rfl, rfl⟩
    · obtain ⟨b, bytes, some⟩ := List.exists_cons_of_ne_nil (Utf8.encodePoint_ne_nil q)
      rw [some, List.flatMap_cons, percentByte_eq] at shape
      cases shape
      cases digit

theorem not_beginsEscape_escaped {p : CodePoint} {t : Text} (plain : ¬ BeginsEscape (p :: t)) :
    ¬ BeginsEscape (p :: escaped isSafe t) := by
  rintro ⟨high, low, rest, shape, first, second⟩
  rw [List.cons.injEq] at shape
  obtain ⟨rfl, shape⟩ := shape
  obtain ⟨u, rfl, more⟩ := head_of_escaped_head first shape
  obtain ⟨v, rfl, _⟩ := head_of_escaped_head second more.symm
  exact plain ⟨high, low, v, rfl, first, second⟩

variable (percent : isSafe (.char '%') = true)

include percent

theorem isKept_percent : IsKept isSafe (.char '%') := by
  rw [IsKept, percent, Bool.or_true]

theorem isKept_of_mem_percentByte {b : UInt8} {p : CodePoint} (member : p ∈ percentByte b) : IsKept isSafe p := by
  rw [percentByte_eq] at member
  simp only [List.mem_cons, List.not_mem_nil, or_false] at member
  rcases member with rfl | rfl | rfl
  · exact isKept_percent percent
  · exact Bool.or_eq_true_iff.mpr (.inl (upperDigit_spec _ (Nat.mod_lt _ (by decide))).2)
  · exact Bool.or_eq_true_iff.mpr (.inl (upperDigit_spec _ (Nat.mod_lt _ (by decide))).2)

theorem isKept_of_mem_escaped {t : Text} {p : CodePoint} (member : p ∈ escaped isSafe t) : IsKept isSafe p := by
  obtain ⟨q, _, inside⟩ := List.mem_flatMap.mp member
  unfold escapedPoint at inside
  split at inside
  · rename_i kept
    obtain rfl := List.mem_singleton.mp inside
    exact kept
  · obtain ⟨b, _, digit⟩ := List.mem_flatMap.mp inside
    exact isKept_of_mem_percentByte percent digit

/-- Escaping does not change the bytes that a text stands for. -/
theorem percentBytes_escaped (t : Text) : percentBytes 0 (escaped isSafe t) = percentBytes 0 t := by
  induction t using escape_induction with
  | nil => rfl
  | escape high low h l rest first second ih =>
    rw [escaped_cons, escaped_cons, escaped_cons, escapedPoint_of_isKept (isKept_percent percent),
      escapedPoint_of_isKept (isKept_of_digit (by rw [first]; rfl)),
      escapedPoint_of_isKept (isKept_of_digit (by rw [second]; rfl)), List.singleton_append, List.singleton_append,
      List.singleton_append, percentBytes_escape first second, percentBytes_escape first second, ih]
  | plain p rest plain ih =>
    rw [escaped_cons, percentBytes_plain plain]
    unfold escapedPoint
    split
    · rw [List.singleton_append, percentBytes_plain (not_beginsEscape_escaped plain), ih]
    · rw [percentBytes_flatMap, ih]

theorem percentDecode_escaped (t : Text) : percentDecode (escaped isSafe t) = percentDecode t :=
  congrArg Utf8.decodeLeniently (percentBytes_escaped percent t)

end

end ProxyControl.Http
