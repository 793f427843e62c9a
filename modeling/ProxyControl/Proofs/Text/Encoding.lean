import ProxyControl.Proofs.CodePoint
import Mathlib.Data.List.TakeWhile

namespace ProxyControl.Text

theorem drop_length_takeWhile (isTaken : CodePoint → Bool) (t : Text) :
    t.drop (t.takeWhile isTaken).length = t.dropWhile isTaken := by
  induction t with
  | nil => rfl
  | cons p t ih =>
    rw [List.takeWhile_cons, List.dropWhile_cons]
    split
    · rw [List.length_cons, List.drop_succ_cons, ih]
    · rfl

theorem unencodable?_eq_none {encoding reason : Text} {isEncodable : CodePoint → Bool} {t : Text} :
    unencodable? encoding reason isEncodable t = none ↔ ∀ p ∈ t, isEncodable p = true := by
  rw [← List.dropWhile_eq_nil_iff, unencodable?, drop_length_takeWhile]
  cases t.dropWhile isEncodable with
  | nil => simp
  | cons p rest => simp

/-- A text can be sent exactly if it holds no bare surrogate. -/
theorem toUtf8_eq_ok {t : Text} {bytes : Utf8.Bytes} :
    t.toUtf8 = .ok bytes ↔ t.IsUnicode ∧ bytes = Utf8.encodeLoosely t := by
  unfold toUtf8
  split
  · rename_i e found
    constructor
    · intro impossible
      cases impossible
    · rintro ⟨unicode, _⟩
      rw [unencodable?_eq_none.mpr unicode] at found
      cases found
  · rename_i found
    have unicode := unencodable?_eq_none.mp found
    constructor
    · intro same
      cases same
      exact ⟨unicode, rfl⟩
    · rintro ⟨_, rfl⟩
      rfl

theorem toAscii_of_ascii {t : Text} (ascii : ∀ p ∈ t, p.isAscii = true) : t.toAscii = .ok (Utf8.encodeLoosely t) := by
  rw [toAscii, unencodable?_eq_none.mpr ascii]

end ProxyControl.Text
