import Mathlib.Data.List.Chain
import ProxyControl.Proofs.CodePoint

namespace ProxyControl.Json

/-- A high surrogate right before a low one. Their escapes would be read as those of one code point. -/
def isSplitPair (p q : CodePoint) : Bool := isHighSurrogate p.toNat && isLowSurrogate q.toNat

/-- A text without split pairs, which its escapes spell unambiguously. -/
def Unsplit (t : Text) : Prop := t.IsChain fun p q => isSplitPair p q = false

/-- The text with its split pairs joined, which is how its escapes are read. -/
def joined : Text → Text
  | p :: q :: rest =>
    if isSplitPair p q then .ofNat (0x10000 + (p.toNat - 0xD800) * 0x400 + (q.toNat - 0xDC00)) :: joined rest
    else p :: joined (q :: rest)
  | [p] => [p]
  | [] => []

theorem isHighSurrogate_iff (n : Nat) : isHighSurrogate n = true ↔ 0xD800 ≤ n ∧ n ≤ 0xDBFF := by
  simp [isHighSurrogate]

theorem isLowSurrogate_iff (n : Nat) : isLowSurrogate n = true ↔ 0xDC00 ≤ n ∧ n ≤ 0xDFFF := by
  simp [isLowSurrogate]

theorem isSplitPair_iff (p q : CodePoint) :
    isSplitPair p q = true ↔ isHighSurrogate p.toNat = true ∧ isLowSurrogate q.toNat = true := by
  simp [isSplitPair]

theorem Unsplit.tail {p : CodePoint} {t : Text} (unsplit : Unsplit (p :: t)) : Unsplit t := List.IsChain.tail unsplit

/-- Joining a pair gives a code point beyond the surrogates. -/
theorem toNat_joinedPair {p q : CodePoint} (pair : isSplitPair p q = true) :
    (CodePoint.ofNat (0x10000 + (p.toNat - 0xD800) * 0x400 + (q.toNat - 0xDC00))).toNat =
      0x10000 + (p.toNat - 0xD800) * 0x400 + (q.toNat - 0xDC00) := by
  obtain ⟨high, low⟩ := (isSplitPair_iff p q).mp pair
  rw [isHighSurrogate_iff] at high
  rw [isLowSurrogate_iff] at low
  exact CodePoint.toNat_ofNat (by omega)

theorem joined_head {p : CodePoint} {t : Text} : ∃ q rest, joined (p :: t) = q :: rest ∧
    (q = p ∨ 0x10000 ≤ q.toNat) := by
  cases t with
  | nil => exact ⟨p, [], rfl, .inl rfl⟩
  | cons next rest =>
    rw [joined]
    split
    · rename_i pair
      refine ⟨_, _, rfl, .inr ?_⟩
      rw [toNat_joinedPair pair]
      omega
    · exact ⟨p, _, rfl, .inl rfl⟩

theorem unsplit_joined (t : Text) : Unsplit (joined t) := by
  fun_induction joined t with
  | case1 p q rest pair ih =>
    have beyond := toNat_joinedPair pair
    cases after : joined rest with
    | nil => exact List.IsChain.singleton _
    | cons next more =>
      rw [after] at ih
      refine List.IsChain.cons_cons ?_ ih
      simp only [isSplitPair, beyond, isHighSurrogate, Bool.and_eq_false_imp]
      simp
      omega
  | case2 p q rest notPair ih =>
    obtain ⟨next, more, after, same⟩ := joined_head (p := q) (t := rest)
    rw [after] at ih ⊢
    refine List.IsChain.cons_cons ?_ ih
    rcases same with rfl | beyond
    · simpa using notPair
    · simp only [isSplitPair, isLowSurrogate, Bool.and_eq_false_imp]
      simp
      omega
  | case3 p => exact List.IsChain.singleton _
  | case4 => exact List.IsChain.nil

theorem joined_of_unsplit {t : Text} (unsplit : Unsplit t) : joined t = t := by
  fun_induction joined t with
  | case1 p q rest pair ih =>
    have apart := (List.isChain_cons_cons.mp unsplit).1
    rw [pair] at apart
    cases apart
  | case2 p q rest notPair ih => rw [ih unsplit.tail]
  | case3 p => rfl
  | case4 => rfl

/-- A text of Unicode characters has no surrogates at all. -/
theorem unsplit_of_isUnicode {t : Text} (unicode : t.IsUnicode) : Unsplit t := by
  induction t with
  | nil => exact List.IsChain.nil
  | cons p t ih =>
    cases t with
    | nil => exact List.IsChain.singleton _
    | cons q rest =>
      refine List.IsChain.cons_cons ?_ (ih unicode.tail)
      have scalar := (CodePoint.isScalar_iff p).mp (unicode p List.mem_cons_self)
      simp only [isSplitPair, isHighSurrogate, Bool.and_eq_false_imp]
      simp
      omega

theorem simpleEscape?_lt {c q : CodePoint} (meant : simpleEscape? c = some q) : q.toNat < 0x80 := by
  unfold simpleEscape? at meant
  split at meant <;> cases meant <;> decide

/-- The four ways in which a code point is written: by a short escape, as it is, as one 16 bit unit, and as
the two units of a pair. -/
theorem escapePoint_cases (asciiOnly : Bool) (p : CodePoint) :
    (∃ c : Char, c ≠ 'u' ∧ simpleEscape? (.char c) = some p ∧
      escapePoint asciiOnly p = [.char '\\', .char c]) ∨
    (p ≠ .char '"' ∧ p ≠ .char '\\' ∧ 0x20 ≤ p.toNat ∧ (asciiOnly = true → p.toNat < 0x7F) ∧
      escapePoint asciiOnly p = [p]) ∨
    (p.toNat < 0x10000 ∧ (asciiOnly = true ∨ p.toNat < 0x20) ∧ escapePoint asciiOnly p = unitEscape p.toNat) ∨
    (0x10000 ≤ p.toNat ∧ escapePoint asciiOnly p =
      unitEscape (0xD800 + (p.toNat - 0x10000) / 0x400) ++ unitEscape (0xDC00 + (p.toNat - 0x10000) % 0x400)) := by
  have short {n : Nat} (c : Char) (same : p.toNat = n) (other : c ≠ 'u')
      (meant : simpleEscape? (.char c) = some (.ofNat n)) (written : escapePoint asciiOnly p = [.char '\\', .char c]) :
      ∃ c : Char, c ≠ 'u' ∧ simpleEscape? (.char c) = some p ∧ escapePoint asciiOnly p = [.char '\\', .char c] :=
    ⟨c, other, by rw [meant, ← same, CodePoint.ofNat_toNat], written⟩
  by_cases quote : p.toNat = 0x22
  · exact .inl (short '"' quote (by decide) rfl (by simp only [escapePoint, quote]; rfl))
  by_cases backslash : p.toNat = 0x5C
  · exact .inl (short '\\' backslash (by decide) rfl (by simp only [escapePoint, backslash]; rfl))
  by_cases lineFeed : p.toNat = 0x0A
  · exact .inl (short 'n' lineFeed (by decide) rfl (by simp only [escapePoint, lineFeed]; rfl))
  by_cases carriage : p.toNat = 0x0D
  · exact .inl (short 'r' carriage (by decide) rfl (by simp only [escapePoint, carriage]; rfl))
  by_cases tab : p.toNat = 0x09
  · exact .inl (short 't' tab (by decide) rfl (by simp only [escapePoint, tab]; rfl))
  by_cases formFeed : p.toNat = 0x0C
  · exact .inl (short 'f' formFeed (by decide) rfl (by simp only [escapePoint, formFeed]; rfl))
  by_cases backspace : p.toNat = 0x08
  · exact .inl (short 'b' backspace (by decide) rfl (by simp only [escapePoint, backspace]; rfl))
  right
  simp only [escapePoint, quote, backslash, lineFeed, carriage, tab, formFeed, backspace, if_false]
  by_cases plain : 0x20 ≤ p.toNat ∧ (p.toNat < 0x7F ∨ (!asciiOnly) = true)
  · refine .inl ⟨fun same => quote (by rw [same]; rfl), fun same => backslash (by rw [same]; rfl), plain.1, ?_,
      by rw [if_pos plain]⟩
    rintro rfl
    simpa using plain.2
  · rw [if_neg plain]
    by_cases unit : p.toNat < 0x10000
    · refine .inr (.inl ⟨unit, ?_, by rw [if_pos unit]⟩)
      cases asciiOnly with
      | true => exact .inl rfl
      | false => exact .inr (by simpa using plain)
    · exact .inr (.inr ⟨by omega, by rw [if_neg unit]⟩)

theorem unitEscape_eq (unit : Nat) : unitEscape unit = .char '\\' :: .char 'u' :: hexDigits 4 unit := rfl

theorem lowHalf?_unitEscape {unit : Nat} (bound : unit < 0x10000) (tail : Text) :
    lowHalf? (unitEscape unit ++ tail) =
      if isLowSurrogate unit = true ∧ 4 < (hexDigits 4 unit ++ tail).length then some unit else none := by
  rw [unitEscape_eq, List.cons_append, List.cons_append, lowHalf?, hexUnit?_hexDigits bound]

/-- Escapes that do not begin with that of a low surrogate are not taken for the second half of a pair. -/
theorem lowHalf?_escaped {asciiOnly : Bool} {t : Text} (rest : Text)
    (alone : ∀ q ∈ t.head?, isLowSurrogate q.toNat = false) :
    lowHalf? (t.flatMap (escapePoint asciiOnly) ++ .char '"' :: rest) = none := by
  cases t with
  | nil => rfl
  | cons q t =>
    have notLow := alone q rfl
    rw [List.flatMap_cons, List.append_assoc]
    rcases escapePoint_cases asciiOnly q with ⟨c, other, _, written⟩ | ⟨_, plain, _, _, written⟩ |
      ⟨unit, _, written⟩ | ⟨beyond, written⟩
    · rw [written]
      simp only [List.cons_append, lowHalf?]
      split
      · rename_i same
        simp only [List.cons.injEq, CodePoint.char.injEq] at same
        exact absurd same.2.1 other
      · rfl
    · rw [written]
      simp only [List.cons_append, lowHalf?]
      split
      · rename_i same
        simp only [List.cons.injEq] at same
        exact absurd same.1 plain
      · rfl
    · rw [written, lowHalf?_unitEscape unit]
      simp [notLow]
    · have range := q.toNat_lt
      have high : isLowSurrogate (0xD800 + (q.toNat - 0x10000) / 0x400) = false := by
        simp only [isLowSurrogate, Bool.and_eq_false_imp, decide_eq_true_eq, decide_eq_false_iff_not]
        omega
      rw [written, List.append_assoc, lowHalf?_unitEscape (by omega), high]
      simp

theorem stringFrom_skip (opening position : Nat) (passed tail : Text) :
    stringFrom opening position passed.length (passed ++ tail) =
      stringFrom opening (position + passed.length) 0 tail := by
  induction passed generalizing position with
  | nil => rfl
  | cons p passed ih =>
    rw [List.length_cons, List.cons_append, stringFrom]
    rw [ih, Nat.add_right_comm, Nat.add_assoc]

/-- What was read before the rest of a string, with the rest. -/
def prepend (p : CodePoint) (rest : Read (Text × Place)) : Read (Text × Place) :=
  rest.map fun (t, after) => (p :: t, after)

theorem stringFrom_quote (opening position : Nat) (rest : Text) :
    stringFrom opening position 0 (.char '"' :: rest) = .ok ([], ⟨position + 1, rest⟩) := by
  rw [stringFrom.eq_def]
  rfl

theorem stringFrom_plain {opening position : Nat} {p : CodePoint} (notQuote : p ≠ .char '"')
    (notBackslash : p ≠ .char '\\') (printable : 0x20 ≤ p.toNat) (tail : Text) :
    stringFrom opening position 0 (p :: tail) = prepend p (stringFrom opening (position + 1) 0 tail) := by
  rw [stringFrom.eq_def]
  simp only [notQuote, notBackslash, if_false, Nat.not_lt.mpr printable]
  rfl

theorem stringFrom_shortEscape {opening position : Nat} {c : Char} {p : CodePoint} (other : c ≠ 'u')
    (meant : simpleEscape? (.char c) = some p) (tail : Text) :
    stringFrom opening position 0 (.char '\\' :: .char c :: tail) =
      prepend p (stringFrom opening (position + 2) 0 tail) := by
  have notUnit : CodePoint.char c ≠ .char 'u' := by simpa using other
  rw [stringFrom.eq_5 _ _ _ _ _ notUnit]
  simp only [if_true, CodePoint.char.injEq, Char.reduceEq, if_false, meant]
  rw [show stringFrom opening (position + 1) 1 (.char c :: tail) = stringFrom opening (position + 2) 0 tail from
    stringFrom_skip opening (position + 1) [.char c] tail]
  rfl

/-- The escape of a unit stands for the code point of that number, unless it begins a pair. -/
theorem stringFrom_unitEscape {opening position unit : Nat} (bound : unit < 0x10000) {tail : Text}
    (nonempty : tail ≠ []) (alone : isHighSurrogate unit = true → lowHalf? tail = none) :
    stringFrom opening position 0 (unitEscape unit ++ tail) =
      prepend (.ofNat unit) (stringFrom opening (position + 6) 0 tail) := by
  have more : ¬ (hexDigits 4 unit ++ tail).length ≤ 4 := by
    have := List.length_pos_of_ne_nil nonempty
    simp only [List.length_append, length_hexDigits]
    omega
  have noPair : (if isHighSurrogate unit = true then lowHalf? tail else none) = none := by
    split
    · rename_i high
      exact alone high
    · rfl
  have skipped := stringFrom_skip opening (position + 1) (.char 'u' :: hexDigits 4 unit) tail
  simp only [List.length_cons, length_hexDigits, List.cons_append] at skipped
  rw [unitEscape_eq, List.cons_append, List.cons_append, stringFrom.eq_4]
  simp only [if_true, CodePoint.char.injEq, Char.reduceEq, if_false, hexUnit?_hexDigits bound, more,
    List.drop_left' (length_hexDigits 4 unit), noPair]
  rw [skipped]
  rfl

/-- The escapes of two halves stand for the one code point that they make up. -/
theorem stringFrom_pairEscape {opening position high low : Nat} (isHigh : isHighSurrogate high = true)
    (isLow : isLowSurrogate low = true) {tail : Text} (nonempty : tail ≠ []) :
    stringFrom opening position 0 (unitEscape high ++ (unitEscape low ++ tail)) =
      prepend (.ofNat (0x10000 + (high - 0xD800) * 0x400 + (low - 0xDC00)))
        (stringFrom opening (position + 12) 0 tail) := by
  have highBound := (isHighSurrogate_iff high).mp isHigh
  have lowBound := (isLowSurrogate_iff low).mp isLow
  have present := List.length_pos_of_ne_nil nonempty
  have more : ¬ (hexDigits 4 high ++ (unitEscape low ++ tail)).length ≤ 4 := by
    simp only [List.length_append, length_hexDigits]
    omega
  have pair : lowHalf? (unitEscape low ++ tail) = some low := by
    rw [lowHalf?_unitEscape (by omega), if_pos]
    refine ⟨isLow, ?_⟩
    simp only [List.length_append, length_hexDigits]
    omega
  have skipped := stringFrom_skip opening (position + 1)
    (.char 'u' :: hexDigits 4 high ++ unitEscape low) tail
  simp only [unitEscape_eq, List.length_append, List.length_cons, length_hexDigits, List.cons_append,
    List.append_assoc] at skipped
  rw [unitEscape_eq high, List.cons_append, List.cons_append, stringFrom.eq_4]
  simp only [if_true, CodePoint.char.injEq, Char.reduceEq, if_false, hexUnit?_hexDigits (by omega : high < 0x10000),
    more, List.drop_left' (length_hexDigits 4 high), isHigh, pair]
  rw [unitEscape_eq low, List.cons_append, List.cons_append, skipped]
  rfl

/-- One code point as it is written inside a literal is read as that code point. The escape of a high
surrogate must not be followed by that of a low one. -/
theorem stringFrom_escapePoint {asciiOnly : Bool} {opening position : Nat} {p : CodePoint} {tail : Text}
    (nonempty : tail ≠ [])
    (alone : asciiOnly = true → isHighSurrogate p.toNat = true → lowHalf? tail = none) :
    stringFrom opening position 0 (escapePoint asciiOnly p ++ tail) =
      prepend p (stringFrom opening (position + (escapePoint asciiOnly p).length) 0 tail) := by
  rcases escapePoint_cases asciiOnly p with ⟨c, other, meant, written⟩ |
    ⟨notQuote, notBackslash, printable, _, written⟩ | ⟨unit, why, written⟩ | ⟨beyond, written⟩
  · rw [written]
    exact stringFrom_shortEscape other meant tail
  · rw [written]
    exact stringFrom_plain notQuote notBackslash printable tail
  · have alone' (high : isHighSurrogate p.toNat = true) : lowHalf? tail = none := by
      rcases why with ascii | control
      · exact alone ascii high
      · rw [isHighSurrogate_iff] at high
        omega
    rw [written, stringFrom_unitEscape unit nonempty alone', CodePoint.ofNat_toNat]
    rfl
  · have range := p.toNat_lt
    have high : isHighSurrogate (0xD800 + (p.toNat - 0x10000) / 0x400) = true := by
      rw [isHighSurrogate_iff]
      omega
    have low : isLowSurrogate (0xDC00 + (p.toNat - 0x10000) % 0x400) = true := by
      rw [isLowSurrogate_iff]
      omega
    have whole : 0x10000 + (0xD800 + (p.toNat - 0x10000) / 0x400 - 0xD800) * 0x400 +
        (0xDC00 + (p.toNat - 0x10000) % 0x400 - 0xDC00) = p.toNat := by omega
    rw [written, List.append_assoc, stringFrom_pairEscape high low nonempty, whole, CodePoint.ofNat_toNat]
    rfl

/-- A text is read from its literal, whatever follows the closing quote. -/
theorem stringFrom_escaped {asciiOnly : Bool} {opening position : Nat} {t : Text} (rest : Text)
    (unsplit : asciiOnly = true → Unsplit t) :
    stringFrom opening position 0 (t.flatMap (escapePoint asciiOnly) ++ .char '"' :: rest) =
      .ok (t, ⟨position + (t.flatMap (escapePoint asciiOnly)).length + 1, rest⟩) := by
  induction t generalizing position with
  | nil => exact stringFrom_quote opening position rest
  | cons p t ih =>
    have alone (ascii : asciiOnly = true) (high : isHighSurrogate p.toNat = true) :
        lowHalf? (t.flatMap (escapePoint asciiOnly) ++ .char '"' :: rest) = none := by
      apply lowHalf?_escaped
      intro q first
      cases t with
      | nil => cases first
      | cons next t =>
        cases first
        have apart := (List.isChain_cons_cons.mp (unsplit ascii)).1
        simpa [isSplitPair, high] using apart
    rw [List.flatMap_cons, List.append_assoc, stringFrom_escapePoint (by simp) alone,
      ih fun ascii => (unsplit ascii).tail]
    simp only [prepend, Except.map, List.length_append]
    rw [Nat.add_assoc position]

/-- Beyond ASCII, every code point is written in units. -/
theorem escapePoint_beyondAscii {p : CodePoint} (beyond : 0x7F ≤ p.toNat) :
    escapePoint true p =
      if p.toNat < 0x10000 then unitEscape p.toNat
      else unitEscape (0xD800 + (p.toNat - 0x10000) / 0x400) ++ unitEscape (0xDC00 + (p.toNat - 0x10000) % 0x400) := by
  unfold escapePoint
  repeat rw [if_neg (by omega)]
  rw [if_neg (by simp; omega)]

theorem escapePoint_joinedPair {p q : CodePoint} (pair : isSplitPair p q = true) :
    escapePoint true (.ofNat (0x10000 + (p.toNat - 0xD800) * 0x400 + (q.toNat - 0xDC00))) =
      escapePoint true p ++ escapePoint true q := by
  have value := toNat_joinedPair pair
  obtain ⟨high, low⟩ := (isSplitPair_iff p q).mp pair
  rw [isHighSurrogate_iff] at high
  rw [isLowSurrogate_iff] at low
  have first : 0xD800 + (0x10000 + (p.toNat - 0xD800) * 0x400 + (q.toNat - 0xDC00) - 0x10000) / 0x400 = p.toNat := by
    omega
  have second : 0xDC00 + (0x10000 + (p.toNat - 0xD800) * 0x400 + (q.toNat - 0xDC00) - 0x10000) % 0x400 = q.toNat := by
    omega
  rw [escapePoint_beyondAscii (by omega), escapePoint_beyondAscii (p := p) (by omega),
    escapePoint_beyondAscii (p := q) (by omega), value, if_neg (by omega), if_pos (by omega), if_pos (by omega),
    first, second]

/-- Escapes do not tell a split pair from the code point that its halves make up. -/
theorem literal_joined (t : Text) : literal true (joined t) = literal true t := by
  have escaped : (joined t).flatMap (escapePoint true) = t.flatMap (escapePoint true) := by
    fun_induction joined t with
    | case1 p q rest pair ih =>
      rw [List.flatMap_cons, ih, escapePoint_joinedPair pair, List.append_assoc]
      rfl
    | case2 p q rest notPair ih => rw [List.flatMap_cons, ih]; rfl
    | case3 p => rfl
    | case4 => rfl
  rw [literal, literal, escaped]

end ProxyControl.Json
