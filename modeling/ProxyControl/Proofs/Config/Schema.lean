import ProxyControl.Config
import ProxyControl.Proofs.Validation

namespace ProxyControl

namespace Validation

variable {α β : Type}

def Accepts (check : Datum → Checked α) (input : Datum) : Prop := ∃ a, check input = .ok a

/-- The input is a mapping whose keys are all names of the given fields, and whatever stands under the name of a field
is valid for it. -/
def Fits (fields : List (Text × (Datum → Prop))) (input : Datum) : Prop :=
  ∃ entries, input = .mapping entries ∧ (∀ entry ∈ entries, ∃ field ∈ fields, entry.1 = .text field.1) ∧
    ∀ field ∈ fields, ∀ value, Datum.lookup? field.1 entries = some value → field.2 value

theorem exists_with {f : Checked (α → β)} {a : Checked α} :
    (∃ b, f.with a = .ok b) ↔ (∃ g, f = .ok g) ∧ ∃ x, a = .ok x := by
  constructor
  · rintro ⟨b, run⟩
    obtain ⟨g, x, first, second, _⟩ := with_eq_ok.mp run
    exact ⟨⟨g, first⟩, x, second⟩
  · rintro ⟨⟨g, first⟩, x, second⟩
    exact ⟨g x, with_eq_ok.mpr ⟨g, x, first, second, rfl⟩⟩

theorem exists_entries {model : Text} {input : Datum} {rest : List (Datum × Datum) → Checked α} :
    (∃ a, (entries model input >>= rest) = .ok a) ↔ ∃ list, input = .mapping list ∧ ∃ a, rest list = .ok a := by
  constructor
  · rintro ⟨a, run⟩
    obtain ⟨list, found, run⟩ := bind_eq_ok.mp run
    exact ⟨list, entries_eq_ok.mp found, a, run⟩
  · rintro ⟨list, same, a, run⟩
    exact ⟨a, bind_eq_ok.mpr ⟨list, entries_eq_ok.mpr same, run⟩⟩

theorem exists_field {name : Text} {check : Datum → Checked α} {entries : List (Datum × Datum)} :
    (∃ found, field [name] check entries = .ok found) ↔
      ∀ value, Datum.lookup? name entries = some value → Accepts check value := by
  have only : find? [name] entries = (Datum.lookup? name entries).map fun value => (name, value) := by
    cases found : Datum.lookup? name entries with
    | none => simp [find?, found]
    | some value => simp [find?, found]
  rw [field, only]
  cases Datum.lookup? name entries with
  | none => simp
  | some value =>
    simp only [Option.map_some, Option.some.injEq, forall_eq', under_eq_ok, map_eq_ok]
    constructor
    · rintro ⟨_, a, accepted, _⟩
      exact ⟨a, accepted⟩
    · rintro ⟨a, accepted⟩
      exact ⟨some a, a, accepted, rfl⟩

theorem exists_noOthers {known : List Text} {entries : List (Datum × Datum)} :
    (∃ done, noOthers known entries = .ok done) ↔ ∀ entry ∈ entries, ∃ name ∈ known, entry.1 = .text name := by
  unfold noOthers
  extract_lets problems
  have clean : problems.isEmpty = true ↔ ∀ entry ∈ entries, ∃ name ∈ known, entry.1 = .text name := by
    rw [List.isEmpty_iff, List.flatMap_eq_nil_iff]
    refine forall₂_congr fun (key, value) _ => ?_
    cases key with
    | text t =>
      by_cases isKnown : t ∈ known
      · simp [isKnown]
      · simp [isKnown]
    | _ => simp
  rw [← clean]
  cases problems.isEmpty with
  | false => simp
  | true => simp

section

variable {entries : List (Datum × Datum)} {fields : List (Text × (Datum → Prop))}

/-- A model is built from entries exactly if whatever stands under the name of one of its fields is valid for it. -/
def Builds (entries : List (Datum × Datum)) (fields : List (Text × (Datum → Prop))) (built : Checked α) : Prop :=
  (∃ a, built = .ok a) ↔ ∀ field ∈ fields, ∀ value, Datum.lookup? field.1 entries = some value → field.2 value

theorem builds_nothing {build : α} : Builds entries [] (.ok build) := by simp [Builds]

theorem Builds.field {built : Checked (Option α → β)} {name : Text} {check : Datum → Checked α} {valid : Datum → Prop}
    (builds : Builds entries fields built) (same : ∀ value, Accepts check value ↔ valid value) :
    Builds entries (fields ++ [(name, valid)]) (built.with (field [name] check entries)) := by
  unfold Builds at builds ⊢
  rw [exists_with, builds, exists_field]
  simp only [same, List.forall_mem_append, List.forall_mem_singleton]

/-- What lies between opening a mapping and refusing its other keys decides which mappings a model takes. -/
theorem accepts_model {model : Text} {known : List Text} {build : List (Datum × Datum) → Checked (Unit → α)}
    {input : Datum} (names : fields.map Prod.fst = known) (builds : ∀ entries, Builds entries fields (build entries)) :
    Accepts (fun input => do
      let entries ← Validation.entries model input
      (build entries).with (noOthers known entries)) input ↔ Fits fields input := by
  subst names
  unfold Accepts Fits
  rw [exists_entries]
  refine exists_congr fun entries => and_congr_right fun _ => ?_
  have built := builds entries
  unfold Builds at built
  rw [exists_with, built, exists_noOthers, and_comm]
  simp

end

/-- The input stands for a text: it is that text, or bytes that encode it. -/
def Wording (t : Text) (input : Datum) : Prop :=
  input = .text t ∨ ∃ content, input = .bytes content ∧ Utf8.decode .refuse content = .ok t

theorem text_eq_ok {input : Datum} {t : Text} : text input = .ok t ↔ Wording t input := by
  cases input with
  | text other => simp [text, Wording]
  | bytes content =>
    cases decoding : Utf8.decode .refuse content with
    | ok other => simp [text, decoded, Wording, decoding]
    | error e => simp [text, decoded, Wording, decoding, reject]
  | _ => simp [text, Wording, reject]

theorem positiveNumber_eq_ok {input : Datum} {x : Binary64} :
    positiveNumber input = .ok x ↔ number input = .ok x ∧ x.isPositive = true := by
  rw [positiveNumber, bind_eq_ok]
  constructor
  · rintro ⟨y, read, run⟩
    split at run
    · rename_i positive
      cases run
      exact ⟨read, positive⟩
    · cases run
  · rintro ⟨read, positive⟩
    exact ⟨x, read, by rw [if_pos positive]⟩

theorem accepts_optional {check : Datum → Checked α} {input : Datum} :
    Accepts (optional check) input ↔ input = .none ∨ Accepts check input := by
  unfold Accepts optional
  split
  · simp
  · rename_i notNone
    simp only [map_eq_ok]
    constructor
    · rintro ⟨_, a, accepted, _⟩
      exact .inr ⟨a, accepted⟩
    · rintro (rfl | ⟨a, accepted⟩)
      · exact absurd rfl notNone
      · exact ⟨some a, a, accepted, rfl⟩

end Validation

open Validation

/-- What is valid for the settings of the log file. -/
def LogFile.Valid : Datum → Prop :=
  Fits [("enabled", Accepts boolean), ("path", fun input => ∃ t, Wording t input), ("max_bytes", Accepts integer),
    ("backup_count", Accepts integer)]

namespace LogSettings

def ValidConsole : Datum → Prop := Fits [("enabled", Accepts boolean)]

def ValidHandlers : Datum → Prop := Fits [("console", ValidConsole), ("file", LogFile.Valid)]

/-- What is valid for the settings of the logging; any text is a level. -/
def Valid : Datum → Prop :=
  Fits [("level", fun input => ∃ t, Wording t input),
    ("format", fun input => Wording LogFormat.console.name input ∨ Wording LogFormat.json.name input),
    ("handlers", ValidHandlers)]

end LogSettings

namespace Config

def ValidClient : Datum → Prop :=
  Fits [("timeout", fun input => ∃ x, number input = .ok x ∧ x.isPositive = true),
    ("user_agent", fun input => input = .none ∨ ∃ t, Wording t input)]

/-- What is valid for the settings file. -/
def Valid : Datum → Prop := Fits [("client", ValidClient), ("logging", LogSettings.Valid)]

end Config

theorem accepts_text (input : Datum) : Accepts text input ↔ ∃ t, Wording t input :=
  exists_congr fun _ => text_eq_ok

theorem LogFile.accepts_check (input : Datum) : Accepts LogFile.check input ↔ LogFile.Valid input :=
  accepts_model rfl fun _ =>
    builds_nothing |>.field (fun _ => .rfl) |>.field accepts_text |>.field (fun _ => .rfl) |>.field fun _ => .rfl

namespace LogSettings

theorem accepts_checkConsole (input : Datum) : Accepts checkConsole input ↔ ValidConsole input :=
  accepts_model rfl fun _ => builds_nothing.field fun _ => .rfl

theorem accepts_checkHandlers (input : Datum) : Accepts checkHandlers input ↔ ValidHandlers input :=
  accepts_model rfl fun _ => builds_nothing |>.field accepts_checkConsole |>.field LogFile.accepts_check

theorem accepts_checkFormat (input : Datum) : Accepts checkFormat input ↔
    Wording LogFormat.console.name input ∨ Wording LogFormat.json.name input := by
  constructor
  · rintro ⟨format, run⟩
    obtain ⟨name, read, run⟩ := bind_eq_ok.mp run
    obtain ⟨encoded, encodes, run⟩ := bind_eq_ok.mp run
    rw [encodable] at encodes
    split at encodes
    · cases encodes
    cases encodes
    split at run
    · rename_i isConsole
      rw [← isConsole]
      exact .inl (text_eq_ok.mp read)
    · split at run
      · rename_i isJson
        rw [← isJson]
        exact .inr (text_eq_ok.mp read)
      · cases run
  · rintro (isConsole | isJson)
    · exact ⟨.console, bind_eq_ok.mpr ⟨_, text_eq_ok.mpr isConsole, rfl⟩⟩
    · exact ⟨.json, bind_eq_ok.mpr ⟨_, text_eq_ok.mpr isJson, rfl⟩⟩

theorem accepts_check (input : Datum) : Accepts check input ↔ Valid input :=
  accepts_model rfl fun _ =>
    builds_nothing |>.field accepts_text |>.field accepts_checkFormat |>.field accepts_checkHandlers

end LogSettings

namespace Config

theorem accepts_checkClient (input : Datum) : Accepts checkClient input ↔ ValidClient input :=
  accepts_model rfl fun _ =>
    builds_nothing
      |>.field (fun _ => exists_congr fun _ => positiveNumber_eq_ok)
      |>.field fun value => accepts_optional.trans (or_congr .rfl (accepts_text value))

/-- The schema lets exactly the valid documents through. -/
theorem accepts_check (input : Datum) : Accepts check input ↔ Valid input :=
  accepts_model rfl fun _ => builds_nothing |>.field accepts_checkClient |>.field LogSettings.accepts_check

end Config

end ProxyControl
