import ProxyControl.Proofs.CodePoint

namespace ProxyControl

theorem Text.ofNat_eq_digits (n : Nat) : Text.ofNat n = (Nat.toDigits 10 n).map .char := by
  rw [Text.ofNat, Text.ofString, Nat.toList_repr]

namespace CodePoint

theorem isAsciiDigit_iff (p : CodePoint) : p.isAsciiDigit = true ↔ 0x30 ≤ p.toNat ∧ p.toNat ≤ 0x39 := by
  simp [isAsciiDigit]

theorem isAsciiDigit_char {c : Char} (digit : c.isDigit = true) : (char c).isAsciiDigit = true := by
  simp only [Char.isDigit, Bool.and_eq_true, decide_eq_true_eq, ge_iff_le, UInt32.le_iff_toNat_le] at digit
  rw [isAsciiDigit_iff, toNat_char]
  exact digit

end CodePoint

namespace Text

theorem isAsciiDigit_of_mem_ofNat {n : Nat} {p : CodePoint} (member : p ∈ Text.ofNat n) : p.isAsciiDigit = true := by
  rw [ofNat_eq_digits] at member
  obtain ⟨c, digit, rfl⟩ := List.mem_map.mp member
  exact CodePoint.isAsciiDigit_char (Nat.isDigit_of_mem_toDigits (by decide) (by decide) digit)

theorem ofNat_ne_nil (n : Nat) : Text.ofNat n ≠ [] := by
  rw [ofNat_eq_digits]
  exact fun empty => Nat.toDigits_ne_nil (List.map_eq_nil_iff.mp empty)

theorem eq_zero_of_digitChar : ∀ n < 10, Nat.digitChar n = '0' → n = 0 := by decide

/-- Only zero is written with a zero in front. -/
theorem eq_zero_of_head_ofNat {n : Nat} (zero : (Text.ofNat n).head? = some (.char '0')) : n = 0 := by
  rw [ofNat_eq_digits] at zero
  simp only [List.head?_map, Option.map_eq_some_iff, CodePoint.char.injEq, exists_eq_right] at zero
  induction n using Nat.strongRecOn with
  | ind n ih =>
    rw [Nat.toDigits_eq_if (by decide)] at zero
    split at zero
    · rename_i small
      exact eq_zero_of_digitChar n small (Option.some.inj zero)
    · obtain ⟨first, others, digits⟩ := List.exists_cons_of_ne_nil (Nat.toDigits_ne_nil (n := n / 10) (b := 10))
      rw [digits] at zero
      have := ih (n / 10) (by omega) (by rw [digits]; exact zero)
      omega

end Text

namespace Json

theorem pow_ten_le {m n : Nat} (le : m ≤ n) : Nat.pow 10 m ≤ Nat.pow 10 n := Nat.pow_le_pow_right (by decide) le

theorem printable_zero : Printable 0 := Nat.lt_of_lt_of_le Nat.one_pos (pow_ten_le (Nat.zero_le digitLimit))

theorem digitsValue_foldl (digits : List Char) (start : Nat) :
    (digits.map CodePoint.char).foldl (fun n p => n * 10 + p.digitValue) start = Nat.ofDigitChars 10 digits start := by
  induction digits generalizing start with
  | nil => rfl
  | cons c digits ih =>
    rw [List.map_cons, List.foldl_cons, ih, Nat.ofDigitChars_cons]
    rw [Nat.mul_comm]
    rfl

theorem digitsValue_ofNat (n : Nat) : digitsValue (Text.ofNat n) = n := by
  rw [Text.ofNat_eq_digits, digitsValue, digitsValue_foldl, Nat.ofDigitChars_toDigits (by decide) (by decide)]

theorem length_ofNat_le {n limit : Nat} (small : n < Nat.pow 10 limit) (some : 0 < limit) :
    (Text.ofNat n).length ≤ limit := by
  rw [Text.ofNat_eq_digits, List.length_map]
  exact (Nat.length_toDigits_le_iff (by decide) some).mpr small

/-- What may follow a whole number so that reading it ends there. -/
def EndsNumber (rest : Text) : Prop :=
  ∀ p ∈ rest.head?, p.isAsciiDigit = false ∧ p ≠ .char '.' ∧ p ≠ .char 'e' ∧ p ≠ .char 'E'

/-- A run of ASCII digits. -/
def Digits (t : Text) : Prop := ∀ p ∈ t, p.isAsciiDigit = true

instance (t : Text) : Decidable (Digits t) := inferInstanceAs (Decidable (∀ p ∈ t, p.isAsciiDigit = true))

theorem digits_append {t u : Text} : Digits (t ++ u) ↔ Digits t ∧ Digits u := List.forall_mem_append

/-- What may follow a run of digits so that the run ends there. -/
def EndsDigits (rest : Text) : Prop := ∀ p ∈ rest.head?, p.isAsciiDigit = false

theorem EndsNumber.digits {rest : Text} (ends : EndsNumber rest) : EndsDigits rest := fun p first => (ends p first).1

theorem takeWhile_digits {digits rest : Text} (all : Digits digits) (ends : EndsDigits rest) :
    (digits ++ rest).takeWhile CodePoint.isAsciiDigit = digits := by
  rw [List.takeWhile_append_of_pos all]
  cases rest with
  | nil => simp
  | cons p rest => rw [List.takeWhile_cons_of_neg (by simp [ends p rfl]), List.append_nil]

theorem fractionPart?_eq_none {rest : Text} (ends : EndsNumber rest) : fractionPart? rest = none := by
  unfold fractionPart?
  split
  · exact absurd rfl (ends _ rfl).2.1
  · rfl

theorem exponentPart?_eq_none {rest : Text} (ends : EndsNumber rest) : exponentPart? rest = none := by
  cases rest with
  | nil => rfl
  | cons p rest =>
    obtain ⟨_, _, small, capital⟩ := ends p rfl
    simp only [exponentPart?, small, capital, or_self, if_false]

theorem wholePart_digits {digits rest : Text} (all : Digits digits) (nonempty : digits ≠ [])
    (plain : digits.head? = some (.char '0') → digits = [.char '0']) (ends : EndsDigits rest) :
    wholePart (digits ++ rest) = digits := by
  unfold wholePart
  split
  · rename_i same
    obtain ⟨first, others, rfl⟩ := List.exists_cons_of_ne_nil nonempty
    have zero := (List.cons.inj same).1
    rw [plain (congrArg some zero)]
    rfl
  · exact takeWhile_digits all ends

/-- The sign of a number. -/
def signText (negative : Bool) : Text := if negative then [.char '-'] else []

/-- A sign before digits is told apart from them. -/
theorem head_signed (negative : Bool) {digits rest : Text} (all : Digits digits) (nonempty : digits ≠ []) :
    ((signText negative ++ (digits ++ rest)).head? == some (.char '-')) = negative := by
  obtain ⟨first, others, rfl⟩ := List.exists_cons_of_ne_nil nonempty
  cases negative with
  | true => rfl
  | false =>
    have notMinus : first ≠ .char '-' := by
      rintro rfl
      exact absurd (all _ List.mem_cons_self) (by decide)
    simpa [signText] using notMinus

theorem drop_signed (negative : Bool) (body : Text) :
    (if negative = true then (signText negative ++ body).drop 1 else signText negative ++ body) = body := by
  cases negative <;> rfl

theorem length_signText (negative : Bool) : (signText negative).length = if negative then 1 else 0 := by
  cases negative <;> rfl

/-- A run of digits is read as a whole number if it does not begin with a zero too many. -/
theorem number_digits {place : Place} (negative : Bool) {digits rest : Text}
    (start : place.rest = signText negative ++ (digits ++ rest)) (all : Digits digits) (nonempty : digits ≠ [])
    (plain : digits.head? = some (.char '0') → digits = [.char '0'])
    (limit : digits.length ≤ digitLimit) (ends : EndsNumber rest) :
    number place = .ok (.int (if negative then -(digitsValue digits : Int) else digitsValue digits),
      place.skip ((if negative then 1 else 0) + digits.length)) := by
  have present : digits.isEmpty = false := by simpa using nonempty
  simp only [number, start, head_signed negative all nonempty, drop_signed,
    wholePart_digits all nonempty plain ends.digits, present, List.drop_left, fractionPart?_eq_none ends,
    Option.elim_none, List.drop_zero, exponentPart?_eq_none ends, Option.isNone_none, and_self, if_true,
    Nat.not_lt.mpr limit, Bool.false_eq_true, if_false, Nat.add_zero]

/-- How the text of a number begins: with a digit, or with a sign and a digit. -/
def Numeric (s : Text) : Prop := ∃ negative p more, s = signText negative ++ p :: more ∧ p.isAsciiDigit = true

theorem numeric_signed (negative : Bool) {digits : Text} (all : Digits digits) (nonempty : digits ≠ []) (rest : Text) :
    Numeric (signText negative ++ (digits ++ rest)) := by
  obtain ⟨first, others, rfl⟩ := List.exists_cons_of_ne_nil nonempty
  exact ⟨negative, first, others ++ rest, rfl, all first List.mem_cons_self⟩

theorem digits_ofNat (n : Nat) : Digits (Text.ofNat n) := fun _ => Text.isAsciiDigit_of_mem_ofNat

theorem numeric_ofInt (n : Int) : Numeric (Text.ofInt n) := by
  have numeric (negative : Bool) (m : Nat) := numeric_signed negative (digits_ofNat m) (Text.ofNat_ne_nil m) []
  simp only [List.append_nil] at numeric
  cases n with
  | ofNat m => exact numeric false m
  | negSucc m => exact numeric true (m + 1)

theorem number_ofInt (place : Place) {n : Int} {rest : Text} (start : place.rest = Text.ofInt n ++ rest)
    (printable : Printable n) (ends : EndsNumber rest) :
    number place = .ok (.int n, place.skip (Text.ofInt n).length) := by
  have plain (m : Nat) (zero : (Text.ofNat m).head? = some (.char '0')) : Text.ofNat m = [.char '0'] := by
    rw [Text.eq_zero_of_head_ofNat zero]
    rfl
  cases n with
  | ofNat m =>
    have digits := number_digits false start (digits_ofNat m)
      (Text.ofNat_ne_nil m) (plain m) (length_ofNat_le printable (by decide)) ends
    simpa [digitsValue_ofNat, Text.ofInt] using digits
  | negSucc m =>
    have digits := number_digits true start (digits_ofNat (m + 1))
      (Text.ofNat_ne_nil (m + 1)) (plain (m + 1)) (length_ofNat_le printable (by decide)) ends
    rw [digits, digitsValue_ofNat]
    simp [Text.ofInt, Nat.add_comm, Int.negSucc_eq]

end Json

end ProxyControl
