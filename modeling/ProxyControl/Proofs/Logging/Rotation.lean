import ProxyControl.Proofs.Files
import ProxyControl.Proofs.Logging.Line

namespace ProxyControl.Logging

/-- A record, and the time at which it was logged. -/
abbrev Entry := Text × Record

/-- An entry as it stands in a log file. -/
def Entry.line (entry : Entry) : Text := entry.2.jsonLine entry.1

/-- The content of a log file. -/
def textOf (entries : List Entry) : Text := entries.flatMap fun entry => entry.line ++ "\n"

theorem textOf_append (entries more : List Entry) : textOf (entries ++ more) = textOf entries ++ textOf more :=
  List.flatMap_append

theorem textOf_singleton (entry : Entry) : textOf [entry] = entry.line ++ "\n" := List.flatMap_singleton _ _

/-- Entries whose lines are lines stand in a log file one by one, and the last line is ended. -/
theorem splitOn_textOf {entries : List Entry} (lines : ∀ entry ∈ entries, .char '\n' ∉ entry.line) :
    Text.splitOn (.char '\n') (textOf entries) = entries.map Entry.line ++ [[]] := by
  have ended : textOf entries = (entries.map Entry.line).flatMap fun line => line ++ [.char '\n'] := by
    rw [textOf, List.flatMap_map]
    rfl
  rw [ended, Text.splitOn_lines]
  intro line member
  obtain ⟨entry, inside, rfl⟩ := List.mem_map.mp member
  exact lines entry inside

/-- What became of the entries that were due for a log file: the first of them were dropped, and the others are in
the file or in those set aside before it. -/
structure Kept (name : Text) (backups : Nat) (files : Files) (due : List Entry) (rollovers : Nat)
    (dropped current : List Entry) (older : List (List Entry)) : Prop where
  stored : Files.Stored name files (textOf current) (older.map textOf)
  due : due = dropped ++ (current :: older).reverse.flatten
  aside : older.length = min rollovers backups
  whole : rollovers ≤ backups ∨ backups = 0 → dropped = []

variable {file : LogFile} {name : Text} {files : Files} {due dropped current : List Entry} {backups rollovers : Nat}
  {older : List (List Entry)}

theorem Kept.grow (kept : Kept name backups files due rollovers dropped current older) (entry : Entry) :
    Kept name backups (files.append name (entry.line ++ "\n")) (due ++ [entry]) rollovers dropped (current ++ [entry])
      older := by
  refine ⟨?_, ?_, kept.aside, kept.whole⟩
  · rw [textOf_append, textOf_singleton]
    exact kept.stored.append
  · rw [kept.due]
    simp

/-- When a file is set aside, the oldest entries are dropped if more files would be kept than may be. -/
theorem Kept.rotate (kept : Kept name backups files due rollovers dropped current older)
    (there : (files.read? name).isSome = true) :
    ∃ dropped current older, Kept name backups (files.rotate name backups) due (rollovers + 1) dropped current older := by
  have aside := kept.aside
  cases backups with
  | zero =>
    -- Without files set aside, a full file goes on growing.
    exact ⟨dropped, current, older, kept.stored, kept.due, by omega, fun _ => kept.whole (.inr rfl)⟩
  | succ count =>
    have stored : Files.Stored name (files.rotate name (count + 1)) (textOf [])
        (((current :: older).take (count + 1)).map textOf) := by
      rw [List.map_take, List.map_cons]
      exact kept.stored.rotate there (by rw [List.length_map]; omega)
    have split : (current :: older).reverse.flatten = ((current :: older).drop (count + 1)).reverse.flatten ++
        ((current :: older).take (count + 1)).reverse.flatten := by
      rw [← List.flatten_append, ← List.reverse_append, List.take_append_drop]
    refine ⟨dropped ++ ((current :: older).drop (count + 1)).reverse.flatten, [], (current :: older).take (count + 1),
      stored, ?_, ?_, fun few => ?_⟩
    · rw [kept.due, split]
      simp
    · rw [List.length_take, List.length_cons]
      omega
    · rw [kept.whole (by omega), List.drop_of_length_le (by rw [List.length_cons]; omega)]
      rfl

/-- An entry goes to the end of the file, which may have been set aside before. -/
theorem Kept.log (kept : Kept name file.backupCount.toNat files due rollovers dropped current older)
    (there : (files.read? name).isSome = true) (entry : Entry) :
    ∃ dropped current older, Kept name file.backupCount.toNat (file.append name (entry.line ++ "\n") files)
      (due ++ [entry]) (rollovers + (file.isFull (files.size name) (entry.line ++ "\n")).toNat)
      dropped current older := by
  rw [LogFile.append]
  cases file.isFull (files.size name) (entry.line ++ "\n") with
  | false => exact ⟨_, _, _, kept.grow entry⟩
  | true =>
    obtain ⟨_, _, _, rotated⟩ := kept.rotate there
    exact ⟨_, _, _, rotated.grow entry⟩

/-- The texts consist of whole lines, and line by line they tell about the entries. -/
def TellInTurn (texts : List Text) (entries : List Entry) : Prop :=
  ∃ lines : List (List Text), texts.map (Text.splitOn (.char '\n')) = lines.map (· ++ [[]]) ∧
    List.Forall₂ (fun entry line => ∃ members, entry.2.Tells line members) entries lines.flatten

theorem tellInTurn_textOf {pieces : List (List Entry)} (sayable : ∀ entry ∈ pieces.flatten, entry.2.Sayable) :
    TellInTurn (pieces.map textOf) pieces.flatten := by
  refine ⟨pieces.map fun entries => entries.map Entry.line, ?_, ?_⟩
  · rw [List.map_map, List.map_map]
    refine List.map_congr_left fun entries inside => splitOn_textOf fun entry member => ?_
    obtain ⟨members, tells⟩ := (sayable entry (List.mem_flatten.mpr ⟨entries, inside, member⟩)).tells entry.1
    exact tells.printable.visible.not_mem (by decide)
  · rw [← List.map_flatten]
    refine List.forall₂_map_right_iff.mpr (List.forall₂_same.mpr fun entry member => ?_)
    exact (sayable entry member).tells entry.1

/-- What is read from the files, the oldest first, are the entries that were not dropped. -/
theorem Kept.told (kept : Kept name backups files due rollovers dropped current older)
    (sayable : ∀ entry ∈ due, entry.2.Sayable) :
    TellInTurn (files.logTexts name backups) (current :: older).reverse.flatten := by
  have bounded : (older.map textOf).length ≤ backups := by
    have aside := kept.aside
    rw [List.length_map]
    omega
  -- Where fewer files were set aside than may be kept, nothing is read from the others.
  have empty (count : Nat) : (List.replicate count ([] : List Entry)).map textOf = List.replicate count [] := by
    rw [List.map_replicate]
    rfl
  have pieces : (current :: (older ++ List.replicate (backups - older.length) [])).reverse.flatten =
      (current :: older).reverse.flatten := by
    simp
  have each : ∀ entry ∈ (current :: (older ++ List.replicate (backups - older.length) [])).reverse.flatten,
      entry.2.Sayable := by
    intro entry member
    refine sayable entry ?_
    rw [kept.due, ← pieces]
    exact List.mem_append_right dropped member
  have told := tellInTurn_textOf each
  rw [List.map_reverse, List.map_cons, List.map_append, empty, pieces] at told
  rwa [kept.stored.logTexts bounded, List.length_map]

end ProxyControl.Logging
