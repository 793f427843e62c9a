import ProxyControl.Proofs.Json.Parsed
import ProxyControl.Proofs.Text.Split
import ProxyControl.Proofs.Text.Utf8
import ProxyControl.Validation.Coerce

namespace ProxyControl.Validation

open Json (Printable digitLimit)

variable {α β : Type} {onInt : Int → Prop} {onText : Text → Prop}

theorem with_eq_ok {f : Checked (α → β)} {a : Checked α} {b : β} :
    f.with a = .ok b ↔ ∃ g x, f = .ok g ∧ a = .ok x ∧ g x = b := by
  cases f with
  | ok g => cases a with
    | ok x => simp [Checked.with]
    | error problems => simp [Checked.with]
  | error problems => cases a with
    | ok x => simp [Checked.with]
    | error more => simp [Checked.with]

theorem under_eq_ok {step : Step} {checked : Checked α} {a : α} :
    Checked.under step checked = .ok a ↔ checked = .ok a := mapError_eq_ok

theorem entries_eq_ok {model : Text} {input : Datum} {found : List (Datum × Datum)} :
    entries model input = .ok found ↔ input = .mapping found := by
  cases input with
  | mapping list => simp [entries]
  | _ => simp [entries, reject]

/-- Of data that meet the conditions on integers and texts, a check lets through only values that meet `kept`. -/
def Passes (onInt : Int → Prop) (onText : Text → Prop) (check : Datum → Checked α) (kept : α → Prop) : Prop :=
  ∀ input a, input.Each onInt onText → check input = .ok a → kept a

theorem groupedDigits?_eq_some {free : Bool} {t digits : Text} (found : groupedDigits? free t = some digits) :
    digits.length ≤ t.length ∧ ∀ p ∈ digits, p.isAsciiDigit = true := by
  induction t generalizing free digits with
  | nil =>
    rw [groupedDigits?] at found
    split at found
    · cases found
      simp
    · cases found
  | cons p t ih =>
    rw [groupedDigits?] at found
    split at found
    · rename_i digit
      rw [Option.map_eq_some_iff] at found
      obtain ⟨more, inner, rfl⟩ := found
      obtain ⟨length, all⟩ := ih inner
      refine ⟨by simpa using length, fun q member => ?_⟩
      rcases List.mem_cons.mp member with rfl | later
      · exact digit
      · exact all q later
    · split at found
      · obtain ⟨length, all⟩ := ih found
        exact ⟨by rw [List.length_cons]; omega, all⟩
      · cases found

theorem integerOfText?_printable {t : Text} {n : Int} (limit : t.length ≤ digitLimit)
    (found : integerOfText? t = some n) : Printable n := by
  unfold integerOfText? at found
  extract_lets trimmed at found
  have trim : trimmed.length ≤ t.length := Text.length_trimBy_le Text.isNumberBlank t
  clear_value trimmed
  split at found
  rename_i negative body signed
  have unsigned : body.length ≤ trimmed.length := by
    split at signed <;> cases signed <;> simp_all
  split at found
  rename_i whole zero parts
  have front : whole.length ≤ body.length := by
    split at parts
    · cases parts
      exact Nat.le_refl _
    · rename_i before after pointed
      cases parts
      rw [(Text.cut?_eq_some pointed).1, List.length_append]
      exact Nat.le_add_right _ _
  split at found
  · cases found
  split at found
  · cases found
  · rename_i digits grouped
    cases found
    obtain ⟨length, all⟩ := groupedDigits?_eq_some grouped
    exact Json.printable_of_digits all (by omega) negative

theorem printable_of_small {n : Int} (low : -0x8000000000000000 ≤ n) (high : n ≤ 0x8000000000000000) : Printable n := by
  have small : n.natAbs < Nat.pow 10 20 := by
    change n.natAbs < 100000000000000000000
    omega
  exact Nat.lt_of_lt_of_le small (Json.pow_ten_le (by decide))

theorem encodable_eq_ok {input : Datum} {t u : Text} : encodable input t = .ok u ↔ t.IsUnicode ∧ u = t := by
  have surrogate : (t.any fun p => 0xD800 ≤ p.toNat && p.toNat < 0xE000) = true ↔ ¬ t.IsUnicode := by
    simp only [List.any_eq_true, Bool.and_eq_true, decide_eq_true_eq, Text.IsUnicode, CodePoint.isScalar_iff]
    grind
  rw [encodable]
  split
  · rename_i some
    constructor
    · intro run
      cases run
    · intro sound
      exact absurd sound.1 (surrogate.mp some)
  · rename_i none
    have unicode := Classical.not_not.mp (mt surrogate.mpr none)
    rw [Except.ok.injEq]
    exact ⟨fun same => ⟨unicode, same.symm⟩, fun sound => sound.2.symm⟩

theorem integerOfFloat_eq_ok {x : Binary64} {n : Int} : integerOfFloat x = .ok n ↔
    x.truncate? = some (n, true) ∧ -0x8000000000000000 < n ∧ n < 0x8000000000000000 := by
  rw [integerOfFloat]
  split
  · rename_i infinite
    rw [infinite]
    exact ⟨fun run => (by cases run), fun ⟨same, _⟩ => (by cases same)⟩
  · rename_i m exact truncated
    rw [truncated]
    split
    · rename_i fraction
      refine ⟨fun run => (by cases run), fun ⟨same, _⟩ => ?_⟩
      cases same
      cases fraction
    · rename_i whole
      rw [Bool.not_eq_true', Bool.not_eq_false] at whole
      subst whole
      split
      · rename_i bounds
        constructor
        · intro run
          cases run
          exact ⟨rfl, bounds⟩
        · rintro ⟨same, _⟩
          cases same
          rfl
      · rename_i beyond
        refine ⟨fun run => (by cases run), fun ⟨same, bounds⟩ => ?_⟩
        cases same
        exact absurd bounds beyond

theorem integerOfWording_eq_ok {input : Datum} {t : Text} {n : Int} : integerOfWording input t = .ok n ↔
    (Utf8.encodeLoosely t).length ≤ integerTextLimit ∧ integerOfText? t = some n := by
  rw [integerOfWording]
  split
  · rename_i long
    constructor
    · intro run
      cases run
    · intro sound
      exact absurd long (Nat.not_lt.mpr sound.1)
  · rename_i short
    split
    · rename_i m written
      rw [written, Except.ok.injEq, Option.some.injEq]
      exact ⟨fun same => ⟨Nat.not_lt.mp short, same⟩, And.right⟩
    · rename_i unwritten
      rw [unwritten]
      constructor
      · intro run
        cases run
      · rintro ⟨_, same⟩
        cases same

theorem integer_float (x : Binary64) : integer (.float x) =
    match integerOfFloat x with
    | .ok n => .ok n
    | .error defect => reject (.float x) defect := rfl

theorem integer_float_eq_ok {x : Binary64} {n : Int} : integer (.float x) = .ok n ↔
    x.truncate? = some (n, true) ∧ -0x8000000000000000 < n ∧ n < 0x8000000000000000 := by
  rw [integer_float, ← integerOfFloat_eq_ok]
  cases integerOfFloat x with
  | ok m => rw [Except.ok.injEq, Except.ok.injEq]
  | error defect =>
    constructor
    · intro run
      cases run
    · intro run
      cases run

theorem integer_text_eq_ok {t : Text} {n : Int} : integer (.text t) = .ok n ↔
    t.IsUnicode ∧ (Utf8.encodeLoosely t).length ≤ integerTextLimit ∧ integerOfText? t = some n := by
  rw [← integerOfWording_eq_ok]
  constructor
  · intro run
    obtain ⟨wording, worded, run⟩ := bind_eq_ok.mp run
    obtain ⟨u, encoded, rfl⟩ := map_eq_ok.mp worded
    obtain ⟨unicode, rfl⟩ := encodable_eq_ok.mp encoded
    exact ⟨unicode, run⟩
  · rintro ⟨unicode, run⟩
    exact bind_eq_ok.mpr ⟨some t, map_eq_ok.mpr ⟨t, encodable_eq_ok.mpr ⟨unicode, rfl⟩, rfl⟩, run⟩

/-- Whatever the validator takes for an integer has no more digits than can be written. -/
theorem passes_integer : Passes Printable onText integer Printable := by
  intro input n each run
  cases each with
  | int meets =>
    cases run
    exact meets
  | bool b =>
    cases run
    cases b with
    | false => exact printable_of_small (by decide) (by decide)
    | true => exact printable_of_small (by decide) (by decide)
  | float x =>
    obtain ⟨_, low, high⟩ := integer_float_eq_ok.mp run
    exact printable_of_small (Int.le_of_lt low) (Int.le_of_lt high)
  | @text t meets =>
    obtain ⟨_, short, written⟩ := integer_text_eq_ok.mp run
    exact integerOfText?_printable (Nat.le_trans (Utf8.length_le_encodeLoosely t) short) written
  | none => cases run
  | list each => cases run
  | mapping each => cases run

theorem passes_count : Passes Printable onText count fun n => Printable n := by
  intro input n each run
  obtain ⟨whole, found, run⟩ := bind_eq_ok.mp run
  have printable := passes_integer input whole each found
  cases whole with
  | ofNat m =>
    cases run
    exact printable
  | negSucc m => cases run

theorem passes_text : Passes onInt onText text onText := by
  intro input t each run
  cases each with
  | text meets =>
    cases run
    exact meets
  | none => cases run
  | bool b => cases run
  | int meets => cases run
  | float x => cases run
  | list each => cases run
  | mapping each => cases run

theorem Passes.optional {check : Datum → Checked α} {kept : α → Prop} (passes : Passes onInt onText check kept) :
    Passes onInt onText (optional check) fun found => ∀ a ∈ found, kept a := by
  intro input found each run
  unfold Validation.optional at run
  split at run
  · cases run
    simp
  · obtain ⟨a, checked, rfl⟩ := map_eq_ok.mp run
    intro b same
    cases same
    exact passes _ a each checked

theorem Passes.itemsFrom {check : Datum → Checked α} {kept : α → Prop} (passes : Passes onInt onText check kept)
    {position : Nat} {items : List Datum} {found : List α} (each : ∀ item ∈ items, item.Each onInt onText)
    (run : itemsFrom check position items = .ok found) : ∀ a ∈ found, kept a := by
  induction items generalizing position found with
  | nil =>
    cases run
    simp
  | cons item items ih =>
    rw [Validation.itemsFrom] at run
    obtain ⟨_, others, first, rest, rfl⟩ := with_eq_ok.mp run
    obtain ⟨_, a, build, checked, rfl⟩ := with_eq_ok.mp first
    cases build
    intro b member
    rcases List.mem_cons.mp member with rfl | later
    · exact passes item _ (each item List.mem_cons_self) (under_eq_ok.mp checked)
    · exact ih (fun item member => each item (List.mem_cons_of_mem _ member)) rest b later

theorem Passes.listOf {check : Datum → Checked α} {kept : α → Prop} (passes : Passes onInt onText check kept) :
    Passes onInt onText (listOf check) fun found => ∀ a ∈ found, kept a := by
  intro input found each run
  cases each with
  | list each => exact passes.itemsFrom each run
  | none => cases run
  | bool b => cases run
  | int meets => cases run
  | float x => cases run
  | text meets => cases run
  | mapping each => cases run

theorem lookup?_mem {key : Text} {entries : List (Datum × Datum)} {value : Datum}
    (found : Datum.lookup? key entries = some value) : (.text key, value) ∈ entries := by
  fun_induction Datum.lookup? key entries with
  | case1 => cases found
  | case2 value' rest =>
    cases found
    exact List.mem_cons_self
  | case3 k value' rest other ih => exact List.mem_cons_of_mem _ (ih found)
  | case4 entry rest notText ih => exact List.mem_cons_of_mem _ (ih found)

theorem find?_mem {keys : List Text} {entries : List (Datum × Datum)} {key : Text} {value : Datum}
    (found : find? keys entries = some (key, value)) : (.text key, value) ∈ entries := by
  rw [find?] at found
  obtain ⟨k, _, entry⟩ := List.exists_of_findSome?_eq_some found
  simp only [Option.map_eq_some_iff, Prod.mk.injEq] at entry
  obtain ⟨_, present, rfl, rfl⟩ := entry
  exact lookup?_mem present

section

variable {check : Datum → Checked α} {kept : α → Prop} {keys : List Text} {entries : List (Datum × Datum)}

theorem Passes.field (passes : Passes onInt onText check kept) (each : ∀ entry ∈ entries, entry.2.Each onInt onText)
    {found : Option α} (run : field keys check entries = .ok found) : ∀ a ∈ found, kept a := by
  rw [Validation.field] at run
  split at run
  · cases run
    simp
  · rename_i present
    obtain ⟨a, checked, rfl⟩ := map_eq_ok.mp (under_eq_ok.mp run)
    intro b same
    cases same
    exact passes _ _ (each _ (find?_mem present)) checked

theorem Passes.required (passes : Passes onInt onText check kept)
    (each : ∀ entry ∈ entries, entry.2.Each onInt onText) {a : α} (run : required keys check entries = .ok a) :
    kept a := by
  rw [Validation.required] at run
  split at run
  · cases under_eq_ok.mp run
  · rename_i present
    exact passes _ _ (each _ (find?_mem present)) (under_eq_ok.mp run)

end

end ProxyControl.Validation
