import ProxyControl.Json.Parse
import ProxyControl.Text.Encoding

namespace ProxyControl

namespace CodePoint

@[simp] theorem toNat_char (c : Char) : (char c).toNat = c.toNat := rfl

theorem toNat_lt (p : CodePoint) : p.toNat < 0x110000 := by
  cases p with
  | char c =>
    have valid := c.valid
    simp only [UInt32.isValidChar, Nat.isValidChar] at valid
    simp only [toNat_char, Char.toNat]
    omega
  | surrogate unit => simp only [toNat]; omega

/-- A scalar value is outside the range of the surrogates, and a surrogate within it. -/
theorem isScalar_iff (p : CodePoint) : Text.isScalar p = true ↔ ¬ (0xD800 ≤ p.toNat ∧ p.toNat < 0xE000) := by
  cases p with
  | char c =>
    have valid := c.valid
    simp only [UInt32.isValidChar, Nat.isValidChar] at valid
    simp only [Text.isScalar, toNat_char, Char.toNat, true_iff]
    omega
  | surrogate unit => simp only [Text.isScalar, toNat]; simp; omega

@[simp] theorem ofNat_toNat (p : CodePoint) : ofNat p.toNat = p := by
  cases p with
  | char c =>
    have valid : c.toNat.isValidChar := c.valid
    unfold ofNat
    rw [dif_pos (show (char c).toNat.isValidChar from valid)]
    exact congrArg char (Char.ext (UInt32.toNat_inj.mp rfl))
  | surrogate unit =>
    have bounds : 0xD800 ≤ (surrogate unit).toNat ∧ (surrogate unit).toNat < 0xE000 := by
      simp only [toNat]
      omega
    have invalid : ¬ (surrogate unit).toNat.isValidChar := by
      simp only [Nat.isValidChar]
      omega
    unfold ofNat
    rw [dif_neg invalid, dif_pos bounds]
    exact congrArg surrogate (Fin.ext (by simp [toNat]))

theorem toNat_ofNat {n : Nat} (bound : n < 0x110000) : (ofNat n).toNat = n := by
  unfold ofNat
  by_cases valid : n.isValidChar
  · rw [dif_pos valid]
    rfl
  · rw [dif_neg valid]
    simp only [Nat.isValidChar] at valid
    rw [dif_pos (by omega)]
    simp only [toNat]
    omega

end CodePoint

/-- A text of Unicode characters: no code point in it is a surrogate, so that an encoding of it exists. -/
def Text.IsUnicode (t : Text) : Prop := ∀ p ∈ t, Text.isScalar p = true

instance (t : Text) : Decidable t.IsUnicode := inferInstanceAs (Decidable (∀ p ∈ t, Text.isScalar p = true))

namespace Text.IsUnicode

theorem nil : IsUnicode [] := fun _ impossible => nomatch impossible

theorem cons {p : CodePoint} {t : Text} (unicode : t.IsUnicode) (scalar : isScalar p = true) : IsUnicode (p :: t) := by
  intro q member
  rcases List.mem_cons.mp member with rfl | member
  · exact scalar
  · exact unicode q member

theorem append {t u : Text} (first : t.IsUnicode) (second : u.IsUnicode) : IsUnicode (t ++ u) := by
  intro p member
  rcases List.mem_append.mp member with member | member
  · exact first p member
  · exact second p member

theorem of_begins {t u : Text} (unicode : u.IsUnicode) (begins : t <+: u) : t.IsUnicode :=
  fun p member => unicode p (begins.subset member)

theorem drop {t : Text} (unicode : t.IsUnicode) (n : Nat) : IsUnicode (t.drop n) :=
  fun p member => unicode p (List.mem_of_mem_drop member)

theorem tail {p : CodePoint} {t : Text} (unicode : IsUnicode (p :: t)) : t.IsUnicode :=
  fun q member => unicode q (List.mem_cons_of_mem p member)

end Text.IsUnicode

theorem Text.present_eq_some {given : Option Text} {value : Text} :
    Text.present given = some value ↔ given = some value ∧ value ≠ [] := by
  unfold Text.present
  rw [Option.filter_eq_some_iff]
  cases value <;> simp

theorem hexDigit_toNat {n : Nat} (bound : n < 16) :
    (hexDigit n).toNat = if n < 10 then 0x30 + n else 0x61 + (n - 10) := by
  unfold hexDigit
  exact CodePoint.toNat_ofNat (by split <;> omega)

theorem hexValue?_hexDigit {n : Nat} (bound : n < 16) : (hexDigit n).hexValue? = some n := by
  simp only [CodePoint.hexValue?, hexDigit_toNat bound]
  by_cases small : n < 10
  · simp only [small, if_true]
    rw [if_pos (by omega)]
    congr 1
    omega
  · simp only [small, if_false]
    rw [if_neg (by omega), if_neg (by omega), if_pos (by omega)]
    congr 1
    omega

@[simp] theorem length_hexDigits (width n : Nat) : (hexDigits width n).length = width := by
  induction width generalizing n with
  | zero => rfl
  | succ width ih => simp [hexDigits, ih]

/-- The four digits of a 16 bit unit are read back, whatever follows them. -/
theorem Json.hexUnit?_hexDigits {unit : Nat} (bound : unit < 0x10000) (rest : Text) :
    hexUnit? (hexDigits 4 unit ++ rest) = some unit := by
  have digits : hexDigits 4 unit = [hexDigit (unit / 16 / 16 / 16 % 16), hexDigit (unit / 16 / 16 % 16),
      hexDigit (unit / 16 % 16), hexDigit (unit % 16)] := rfl
  simp only [digits, List.cons_append, List.nil_append, hexUnit?]
  simp only [hexValue?_hexDigit (Nat.mod_lt _ (by decide : 0 < 16)), Option.pure_def, Option.bind_eq_bind,
    Option.bind_some, Option.some.injEq]
  omega

end ProxyControl
