import ProxyControl.Proofs.Config.Schema
import ProxyControl.Proofs.Yaml.Misread

namespace ProxyControl

namespace Yaml

variable {t : Text} {complaint : Complaint} {obstacle : Obstacle}

theorem load_eq_reading : load t = .error (.reading complaint) ↔ Node.ofText? t = .error complaint := by
  rw [load, bind_eq_error]
  constructor
  · rintro (fails | ⟨root, _, fails⟩)
    · obtain ⟨_, fails, same⟩ := mapError_eq_error.mp fails
      cases same
      exact fails
    · cases root with
      | none => cases fails
      | some root =>
        obtain ⟨_, _, impossible⟩ := mapError_eq_error.mp fails
        cases impossible
  · intro fails
    exact .inl (mapError_eq_error.mpr ⟨complaint, fails, rfl⟩)

theorem load_eq_building : load t = .error (.building obstacle) ↔
    ∃ root, Node.ofText? t = .ok (some root) ∧ root.build = .error obstacle := by
  rw [load, bind_eq_error]
  constructor
  · rintro (fails | ⟨root, read, fails⟩)
    · obtain ⟨_, _, impossible⟩ := mapError_eq_error.mp fails
      cases impossible
    · cases root with
      | none => cases fails
      | some root =>
        obtain ⟨_, fails, same⟩ := mapError_eq_error.mp fails
        cases same
        exact ⟨root, mapError_eq_ok.mp read, fails⟩
  · rintro ⟨root, read, fails⟩
    exact .inr ⟨some root, mapError_eq_ok.mpr read, mapError_eq_error.mpr ⟨obstacle, fails, rfl⟩⟩

end Yaml

namespace Config

open Validation

/-- What the reader of the settings file does not foresee in a document, with the fault it ends in: an escape of a
number that is no code point, a version with too many digits, collections too deep inside each other, a scalar whose
text does not suit its tag, and a key of the outermost mapping that is no text. -/
inductive Unforeseen (document : Text) : Fault → Text → Prop where
  | escape {n : Nat} {beyond : 0x10FFFF < n} (unread : Yaml.Node.ofText? document = .error (.escape n beyond))
      (small : n ≤ 0x7FFFFFFF) : Unforeseen document .value "chr() arg not in range(0x110000)"
  | hugeEscape {n : Nat} {beyond : 0x10FFFF < n} (unread : Yaml.Node.ofText? document = .error (.escape n beyond))
      (huge : 0x7FFFFFFF < n) : Unforeseen document .overflow "Python int too large to convert to C int"
  | version {count : Nat} {many : Text.integerDigitLimit < count}
      (unread : Yaml.Node.ofText? document = .error (.digits count many)) :
      Unforeseen document .value (Text.tooManyDigits count)
  | depth (unread : Yaml.Node.ofText? document = .error .depth) :
      Unforeseen document .recursion "maximum recursion depth exceeded"
  | scalar {root : Yaml.Node} {misreading : Yaml.Misreading} (read : Yaml.Node.ofText? document = .ok (some root))
      (unbuilt : root.build = .error (.misread misreading)) (inside : root.Misreads misreading) :
      Unforeseen document misreading.kind misreading.message
  | key {entries : List (Datum × Datum)} {entry : Datum × Datum} (loaded : Yaml.load document = .ok (.mapping entries))
      (member : entry ∈ entries) (notText : ∀ t, entry.1 ≠ .text t) :
      Unforeseen document .wrongKind "keywords must be strings"

theorem hasTextKeys_iff {entries : List (Datum × Datum)} :
    hasTextKeys entries = true ↔ ∀ entry ∈ entries, ∃ t, entry.1 = .text t := by
  rw [hasTextKeys, List.all_eq_true]
  refine forall₂_congr fun (key, value) _ => ?_
  cases key with
  | text t => simp
  | _ => simp

theorem Valid.hasTextKeys {entries : List (Datum × Datum)} (valid : Valid (.mapping entries)) :
    hasTextKeys entries = true := by
  obtain ⟨_, same, known, _⟩ := valid
  cases same
  refine hasTextKeys_iff.mpr fun entry member => ?_
  obtain ⟨field, _, named⟩ := known entry member
  exact ⟨field.1, named⟩

theorem valid_empty : Valid (.mapping []) := ⟨[], rfl, by simp, by simp [Datum.lookup?]⟩

section

variable {name : Text} {entries : List (Datum × Datum)} {document : Datum} {failure : Failure}

/-- A mapping yields settings exactly if it is valid. -/
theorem ofMapping_ok : (∃ config, ofMapping name entries = .ok config) ↔ Valid (.mapping entries) := by
  have checked : (∃ config, (report "ConfigSchema" (check (.mapping entries))).mapError
      (fun report => Failure.misconfigured (.schema name report)) = .ok config) ↔ Valid (.mapping entries) := by
    simp only [mapError_eq_ok, report]
    exact accepts_check _
  unfold ofMapping
  split
  · rename_i other
    constructor
    · rintro ⟨_, impossible⟩
      cases impossible
    · intro valid
      simp [valid.hasTextKeys] at other
  · exact checked

/-- The failure is one that is reported, and its message names the file. -/
def Reported (name : Text) (failure : Failure) : Prop :=
  ∃ problem, failure = .misconfigured problem ∧ name <:+: problem.message

theorem ofMapping_error (run : ofMapping name entries = .error failure) :
    Reported name failure ∨
      failure = .fault .wrongKind "keywords must be strings" ∧ ∃ entry ∈ entries, ∀ t, entry.1 ≠ .text t := by
  rw [ofMapping] at run
  split at run
  · rename_i other
    cases run
    rw [Bool.not_eq_true', ← Bool.not_eq_true, hasTextKeys_iff] at other
    push Not at other
    exact .inr ⟨rfl, other⟩
  · obtain ⟨report, _, rfl⟩ := mapError_eq_error.mp run
    exact .inl ⟨_, rfl, "Invalid configuration in ", ":\n" ++ report.text, by simp [Misconfiguration.message]⟩

theorem ofMapping_key {entry : Datum × Datum} (member : entry ∈ entries) (notText : ∀ t, entry.1 ≠ .text t) :
    ofMapping name entries = .error (.fault .wrongKind "keywords must be strings") := by
  have other : hasTextKeys entries = false := by
    rw [← Bool.not_eq_true, hasTextKeys_iff]
    intro all
    obtain ⟨t, isText⟩ := all entry member
    exact notText t isText
  rw [ofMapping, other]
  rfl

theorem Valid.mapping (valid : Valid document) : ∃ entries, document = .mapping entries := by
  obtain ⟨entries, same, _⟩ := valid
  exact ⟨entries, same⟩

theorem ofDocument_ok : (∃ config, ofDocument name document = .ok config) ↔
    isBlank document = true ∨ Valid document := by
  unfold ofDocument
  by_cases blank : isBlank document = true
  · rw [if_pos blank, ofMapping_ok]
    exact ⟨fun _ => .inl blank, fun _ => valid_empty⟩
  · rw [if_neg blank, or_iff_right blank]
    split
    · exact ofMapping_ok
    · rename_i notMapping
      constructor
      · rintro ⟨_, impossible⟩
        cases impossible
      · intro valid
        obtain ⟨entries, same⟩ := valid.mapping
        exact absurd same (notMapping entries)

theorem ofDocument_error (run : ofDocument name document = .error failure) :
    Reported name failure ∨ failure = .fault .wrongKind "keywords must be strings" ∧
      ∃ entries, document = .mapping entries ∧ ∃ entry ∈ entries, ∀ t, entry.1 ≠ .text t := by
  unfold ofDocument at run
  split at run
  · rcases ofMapping_error run with reported | ⟨_, _, member, _⟩
    · exact .inl reported
    · cases member
  · split at run
    · rcases ofMapping_error run with reported | ⟨same, found⟩
      · exact .inl reported
      · exact .inr ⟨same, _, rfl, found⟩
    · cases run
      exact .inl ⟨_, rfl, "Invalid configuration in ", ": expected a mapping", by simp [Misconfiguration.message]⟩

theorem ofDocument_key {entry : Datum × Datum} (member : entry ∈ entries) (notText : ∀ t, entry.1 ≠ .text t) :
    ofDocument name (.mapping entries) = .error (.fault .wrongKind "keywords must be strings") := by
  have full : isBlank (.mapping entries) = false := by
    cases entries with
    | nil => cases member
    | cons first rest => rfl
  rw [ofDocument, full]
  exact ofMapping_key member notText

end

section

variable {name content document : Text} {failure : Failure} {kind : Fault} {message : Text}

theorem reported_located (name : Text) (problem : Yaml.Located) : Reported name (problem.failure name) :=
  ⟨_, rfl, "Invalid YAML in ", ": " ++ problem.text name, by simp [Misconfiguration.message]⟩

/-- A failure is reported with the name of the file, or it is one of the faults that are not foreseen. -/
def Ends (name document : Text) (failure : Failure) : Prop :=
  Reported name failure ∨ ∃ kind message, failure = .fault kind message ∧ Unforeseen document kind message

theorem ends_of_unread {complaint : Yaml.Complaint} (unread : Yaml.Node.ofText? document = .error complaint) :
    Ends name document (complaint.failure name) := by
  cases complaint with
  | located problem => exact .inl (reported_located name problem)
  | unacceptable p position =>
    refine .inl ⟨_, rfl, "Invalid YAML in ", ?_⟩
    rw [Misconfiguration.message, List.append_assoc]
    exact ⟨_, rfl⟩
  | escape n beyond =>
    by_cases huge : n > 0x7FFFFFFF
    · exact .inr ⟨_, _, if_pos huge, .hugeEscape unread huge⟩
    · exact .inr ⟨_, _, if_neg huge, .escape unread (Nat.not_lt.mp huge)⟩
  | digits count many => exact .inr ⟨_, _, rfl, .version unread⟩
  | depth => exact .inr ⟨_, _, rfl, .depth unread⟩

theorem ends_of_unbuilt {root : Yaml.Node} {obstacle : Yaml.Obstacle}
    (read : Yaml.Node.ofText? document = .ok (some root)) (unbuilt : root.build = .error obstacle) :
    Ends name document (obstacle.failure name) := by
  cases obstacle with
  | located problem => exact .inl (reported_located name problem)
  | misread misreading => exact .inr ⟨_, _, rfl, .scalar read unbuilt (Yaml.Node.misreads_of_build unbuilt)⟩

theorem ofText_error (run : ofText name content = .error failure) : Ends name (plainLines content) failure := by
  rcases bind_eq_error.mp run with fails | ⟨document, loaded, run⟩
  · obtain ⟨e, unloaded, rfl⟩ := mapError_eq_error.mp fails
    cases e with
    | reading complaint => exact ends_of_unread (Yaml.load_eq_reading.mp unloaded)
    | building obstacle =>
      obtain ⟨root, read, unbuilt⟩ := Yaml.load_eq_building.mp unloaded
      exact ends_of_unbuilt read unbuilt
  · rcases ofDocument_error run with reported | ⟨same, entries, rfl, entry, member, notText⟩
    · exact .inl reported
    · exact .inr ⟨_, _, same, .key (mapError_eq_ok.mp loaded) member notText⟩

theorem ofText_of_unread {complaint : Yaml.Complaint}
    (unread : Yaml.Node.ofText? (plainLines content) = .error complaint) :
    ofText name content = .error (complaint.failure name) := by
  rw [ofText, Yaml.load_eq_reading.mpr unread]
  rfl

/-- Nothing that is not foreseen is reported. -/
theorem Unforeseen.ofText (unforeseen : Unforeseen (plainLines content) kind message) :
    ofText name content = .error (.fault kind message) := by
  cases unforeseen with
  | escape unread small =>
    rw [ofText_of_unread unread, Yaml.Complaint.failure, if_neg (Nat.not_lt.mpr small)]
  | hugeEscape unread huge => rw [ofText_of_unread unread, Yaml.Complaint.failure, if_pos huge]
  | version unread => exact ofText_of_unread unread
  | depth unread => exact ofText_of_unread unread
  | scalar read unbuilt inside =>
    rw [Config.ofText, Yaml.load_eq_building.mpr ⟨_, read, unbuilt⟩]
    rfl
  | key loaded member notText =>
    rw [Config.ofText, loaded]
    exact ofDocument_key member notText

theorem ofText_ok : (∃ config, ofText name content = .ok config) ↔
    ∃ document, Yaml.load (plainLines content) = .ok document ∧ (isBlank document = true ∨ Valid document) := by
  constructor
  · rintro ⟨config, run⟩
    obtain ⟨document, loaded, run⟩ := bind_eq_ok.mp run
    exact ⟨document, mapError_eq_ok.mp loaded, ofDocument_ok.mp ⟨config, run⟩⟩
  · rintro ⟨document, loaded, holds⟩
    obtain ⟨config, run⟩ := ofDocument_ok.mpr holds
    exact ⟨config, bind_eq_ok.mpr ⟨document, mapError_eq_ok.mpr loaded, run⟩⟩

end

theorem load_file {files : Files} {path : Path} {content : Text} (present : files.entry path = .file content)
    (isRequired : Bool) : load files path isRequired = ofText path.toText content := by
  rw [load, present]

/-- Loading a settings file that is there yields settings exactly if its document counts as empty or is valid. It ends
in a fault exactly if there is something unforeseen in the document, and every other failure is a misconfiguration
whose message names the file. -/
theorem load_outcome {files : Files} {path : Path} {content : Text} (isRequired : Bool)
    (present : files.entry path = .file content) :
    ((∃ config, load files path isRequired = .ok config) ↔
      ∃ document, Yaml.load (plainLines content) = .ok document ∧ (isBlank document = true ∨ Valid document)) ∧
    (∀ kind message, load files path isRequired = .error (.fault kind message) ↔
      Unforeseen (plainLines content) kind message) ∧
    ∀ failure, load files path isRequired = .error failure →
      (∀ kind message, failure ≠ .fault kind message) →
      ∃ problem, failure = .misconfigured problem ∧ path.toText <:+: problem.message := by
  rw [load_file present]
  refine ⟨ofText_ok, fun kind message => ⟨fun run => ?_, Unforeseen.ofText⟩, fun failure run noFault => ?_⟩
  · rcases ofText_error run with ⟨_, impossible, _⟩ | ⟨_, _, same, unforeseen⟩
    · cases impossible
    · cases same
      exact unforeseen
  · rcases ofText_error run with reported | ⟨kind, message, same, _⟩
    · exact reported
    · exact absurd same (noFault kind message)

/-- The usual place of a settings file in what follows. -/
def settingsPath : Path := Path.ofText "config.yaml"

def impossibleDate : Text := "client:\n  timeout: 2001-13-45\n"

theorem load_outcome_of_impossible_date :
    Files.entry [("config.yaml", impossibleDate)] settingsPath = .file impossibleDate ∧
      Unforeseen (plainLines impossibleDate) .value "month must be in 1..12" := by
  have present : Files.entry [("config.yaml", impossibleDate)] settingsPath = .file impossibleDate := by decide +kernel
  have ends : (load [("config.yaml", impossibleDate)] settingsPath true).fault? =
      some (Fault.value, ("month must be in 1..12" : Text)) := by decide +kernel
  exact ⟨present, ((load_outcome true present).2.1 _ _).mp (Outcome.fault?_eq_some.mp ends)⟩

/-- A key that is a number ends the program, and a document that is neither empty nor a mapping is taken for one. -/
theorem load_of_number_key_and_false :
    load [("config.yaml", "1: 2\n")] settingsPath true = .error (.fault .wrongKind "keywords must be strings") ∧
      (Yaml.load (plainLines "false\n")).toOption.map Datum.kind = some ("bool" : Text) ∧
      load [("config.yaml", "false\n")] settingsPath true = .ok {} := by
  refine ⟨Outcome.fault?_eq_some.mp ?_, ?_, toOption_eq_some.mp ?_⟩
  all_goals decide +kernel

end Config

end ProxyControl
