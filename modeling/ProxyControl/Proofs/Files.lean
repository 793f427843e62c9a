import ProxyControl.Logging.Rotation
import ProxyControl.Proofs.Json.Numeral

namespace ProxyControl.Files

variable {files : Files} {name other old new content : Text}

theorem read?_cons_self : read? ((name, content) :: files) name = some content := List.lookup_cons_self

theorem read?_cons_of_ne (apart : other ≠ name) : read? ((name, content) :: files) other = files.read? other := by
  rw [read?, List.lookup_cons, beq_eq_false_iff_ne.mpr apart]
  rfl

theorem read?_write_self : (files.write name content).read? name = some content := by
  induction files with
  | nil => exact read?_cons_self
  | cons entry files ih =>
    obtain ⟨n, c⟩ := entry
    rw [write]
    split
    · rename_i same
      rw [same]
      exact read?_cons_self
    · rename_i differs
      exact (read?_cons_of_ne (Ne.symm differs)).trans ih

theorem read?_write_of_ne (apart : other ≠ name) : (files.write name content).read? other = files.read? other := by
  induction files with
  | nil => exact read?_cons_of_ne apart
  | cons entry files ih =>
    obtain ⟨n, c⟩ := entry
    rw [write]
    split
    · rename_i same
      rw [same, read?_cons_of_ne apart, read?_cons_of_ne apart]
    · by_cases here : other = n
      · rw [here, read?_cons_self, read?_cons_self]
      · rw [read?_cons_of_ne here, read?_cons_of_ne here]
        exact ih

theorem read?_delete_self : (files.delete name).read? name = none := by
  refine List.lookup_eq_none_iff.mpr fun entry member => ?_
  have kept := (List.mem_filter.mp member).2
  rw [bne_iff_ne] at kept ⊢
  exact kept.symm

theorem read?_delete_of_ne (apart : other ≠ name) : (files.delete name).read? other = files.read? other := by
  induction files with
  | nil => rfl
  | cons entry files ih =>
    obtain ⟨n, c⟩ := entry
    rw [delete]
    by_cases same : n = name
    · rw [List.filter_cons_of_neg (by simp [same]), same, read?_cons_of_ne apart]
      exact ih
    · rw [List.filter_cons_of_pos (by simpa using same)]
      by_cases here : other = n
      · rw [here, read?_cons_self, read?_cons_self]
      · rw [read?_cons_of_ne here, read?_cons_of_ne here]
        exact ih

theorem read?_append_self : (files.append name content).read? name = some ((files.read? name).getD [] ++ content) :=
  read?_write_self

theorem read?_append_of_ne (apart : other ≠ name) : (files.append name content).read? other = files.read? other :=
  read?_write_of_ne apart

/-- A file that is renamed is there under its new name; a file that is not there leaves the new name as it was. -/
theorem read?_rename_new : (files.rename old new).read? new = (files.read? old).or (files.read? new) := by
  unfold rename
  cases found : files.read? old with
  | none => rfl
  | some content => exact read?_write_self

theorem read?_rename_old (apart : old ≠ new) : (files.rename old new).read? old = none := by
  unfold rename
  cases found : files.read? old with
  | none => exact found
  | some content =>
    dsimp only
    rw [read?_write_of_ne apart, read?_delete_self]

theorem read?_rename_of_ne (fromOld : other ≠ old) (fromNew : other ≠ new) :
    (files.rename old new).read? other = files.read? other := by
  unfold rename
  cases found : files.read? old with
  | none => rfl
  | some content =>
    dsimp only
    rw [read?_write_of_ne fromNew, read?_delete_of_ne fromOld]

end ProxyControl.Files

namespace ProxyControl

theorem Text.ofNat_injective {m n : Nat} (same : Text.ofNat m = Text.ofNat n) : m = n := by
  rw [← Json.digitsValue_ofNat m, same, Json.digitsValue_ofNat]

namespace Files

variable {files : Files} {name : Text}

theorem backupName_inj {m n : Nat} : backupName name m = backupName name n ↔ m = n := by
  constructor
  · exact fun same => Text.ofNat_injective (List.append_cancel_left same)
  · exact congrArg _

theorem backupName_ne (number : Nat) : backupName name number ≠ name := by
  intro same
  have longer := congrArg List.length same
  rw [backupName, List.length_append, List.length_append] at longer
  have dot : (".": Text).length = 1 := rfl
  omega

/-- What becomes of the files that were set aside when the numbers up to `count` move up by one. -/
structure Shifted (name : Text) (count : Nat) (before after : Files) : Prop where
  first : 0 < count → after.read? (backupName name 1) = none
  moved : ∀ number, 0 < number → number < count →
    after.read? (backupName name (number + 1)) = before.read? (backupName name number)
  last : 0 < count → after.read? (backupName name (count + 1)) =
    (before.read? (backupName name count)).or (before.read? (backupName name (count + 1)))
  others : ∀ other, (∀ number, 0 < number → number ≤ count + 1 → other ≠ backupName name number) →
    after.read? other = before.read? other

theorem shifted_shiftBackups (name : Text) (count : Nat) (files : Files) :
    Shifted name count files (files.shiftBackups name count) := by
  induction count generalizing files with
  | zero => exact ⟨fun none => absurd none (by decide), fun _ _ none => absurd none (by omega),
      fun none => absurd none (by decide), fun _ _ => rfl⟩
  | succ count ih =>
    -- The last number moves first, to a place of its own.
    have step := ih (files.rename (backupName name (count + 1)) (backupName name (count + 2)))
    have apart {m n : Nat} (differ : m ≠ n) : backupName name m ≠ backupName name n := mt backupName_inj.mp differ
    have gone : (files.rename (backupName name (count + 1)) (backupName name (count + 2))).read?
        (backupName name (count + 1)) = none := read?_rename_old (apart (by omega))
    have kept {number : Nat} (low : number < count + 1) :
        (files.rename (backupName name (count + 1)) (backupName name (count + 2))).read? (backupName name number) =
          files.read? (backupName name number) := read?_rename_of_ne (apart (by omega)) (apart (by omega))
    rw [shiftBackups]
    refine ⟨fun _ => ?_, fun number positive below => ?_, fun _ => ?_, fun other outside => ?_⟩
    · cases count with
      | zero => exact gone
      | succ count => exact step.first (by omega)
    · by_cases inner : number < count
      · rw [step.moved number positive inner, kept (by omega)]
      · obtain rfl : number = count := by omega
        rw [step.last positive, kept (by omega), gone, Option.or_none]
    · rw [step.others _ fun number _ bound => apart (by omega), read?_rename_new]
    · rw [step.others other fun number positive bound => outside number positive (by omega),
        read?_rename_of_ne (outside _ (by omega) (by omega)) (outside _ (by omega) (by omega))]

/-- What a log file holds, and what the files hold that were set aside, the last one first. A file that is not there
holds nothing. -/
structure Stored (name : Text) (files : Files) (current : Text) (older : List Text) : Prop where
  current : (files.read? name).getD [] = current
  older : ∀ number, files.read? (backupName name (number + 1)) = older[number]?

variable {current content : Text} {older : List Text} {count : Nat}

theorem Stored.append (stored : Stored name files current older) :
    Stored name (files.append name content) (current ++ content) older := by
  refine ⟨?_, fun number => ?_⟩
  · rw [read?_append_self, stored.current]
    rfl
  · rw [read?_append_of_ne (backupName_ne _), stored.older]

/-- Setting a file aside makes it the first of those that were, and starts it anew. Of the others, as many are left as
may be kept. -/
theorem Stored.rotate (stored : Stored name files current older) (there : (files.read? name).isSome = true)
    (bounded : older.length ≤ count + 1) :
    Stored name (files.rotate name (count + 1)) [] ((current :: older).take (count + 1)) := by
  have shifted := shifted_shiftBackups name count files
  have apart {m n : Nat} (differ : m ≠ n) : backupName name m ≠ backupName name n := mt backupName_inj.mp differ
  obtain ⟨content, found⟩ := Option.isSome_iff_exists.mp there
  have holds : content = current := by rw [← stored.current, found, Option.getD_some]
  rw [Files.rotate]
  refine ⟨by rw [read?_write_self, Option.getD_some], fun number => ?_⟩
  rw [read?_write_of_ne (backupName_ne _)]
  cases number with
  | zero =>
    rw [read?_rename_new, shifted.others name fun number _ _ => (backupName_ne number).symm, found, holds]
    rfl
  | succ number =>
    rw [read?_rename_of_ne (backupName_ne _) (apart (by omega))]
    by_cases inner : number + 1 < count
    · rw [shifted.moved _ (by omega) inner, stored.older, List.getElem?_take_of_lt (by omega), List.getElem?_cons_succ]
    by_cases last : number + 1 = count
    · rw [last, shifted.last (by omega), ← last, stored.older, stored.older, List.getElem?_take_of_lt (by omega),
        List.getElem?_cons_succ]
      cases found : older[number]? with
      | some content => rfl
      | none =>
        have ended := List.getElem?_eq_none_iff.mp found
        rw [List.getElem?_eq_none (by omega)]
        rfl
    · rw [shifted.others _ fun _ _ bound => apart (by omega), stored.older, List.getElem?_eq_none (by omega),
        List.getElem?_eq_none (by rw [List.length_take]; omega)]

/-- What is read from a log file and the files set aside before it, the oldest of up to `count` first. -/
def logTexts (name : Text) (count : Nat) (files : Files) : List Text :=
  ((name :: (List.range count).map fun number => backupName name (number + 1)).map
    fun name => (files.read? name).getD []).reverse

theorem Stored.logTexts (stored : Stored name files current older) (bounded : older.length ≤ count) :
    files.logTexts name count = (current :: (older ++ List.replicate (count - older.length) [])).reverse := by
  have others : (List.range count).map (fun number => (files.read? (backupName name (number + 1))).getD []) =
      older ++ List.replicate (count - older.length) [] := by
    refine List.ext_getElem (by simp; omega) fun number inRange _ => ?_
    rw [List.getElem_map, List.getElem_range, stored.older, List.getElem_append]
    split
    · rename_i within
      rw [List.getElem?_eq_getElem within, Option.getD_some]
    · rw [List.getElem?_eq_none (by omega), List.getElem_replicate, Option.getD_none]
  rw [Files.logTexts, List.map_cons, List.map_map, stored.current]
  exact congrArg (fun others => (current :: others).reverse) others

/-- All that a log file and the files set aside before it hold, from the oldest on. -/
def logText (name : Text) (count : Nat) (files : Files) : Text := (files.logTexts name count).flatten

theorem logText_zero (name : Text) (files : Files) : files.logText name 0 = (files.read? name).getD [] := List.append_nil _

theorem logText_succ (name : Text) (count : Nat) (files : Files) :
    files.logText name (count + 1) = (files.read? (backupName name (count + 1))).getD [] ++ files.logText name count := by
  simp [logText, logTexts, List.range_succ]

theorem logText_append : (files.append name content).logText name count = files.logText name count ++ content := by
  induction count with
  | zero => rw [logText_zero, logText_zero, read?_append_self, Option.getD_some]
  | succ count ih => rw [logText_succ, logText_succ, ih, read?_append_of_ne (backupName_ne _), List.append_assoc]

/-- Setting a file aside drops nothing but what was in the oldest one. -/
theorem logText_rotate (count : Nat) (there : (files.read? name).isSome = true) :
    ∃ dropped, files.logText name (count + 1) =
      dropped ++ (files.rotate name (count + 1)).logText name (count + 1) := by
  have shifted := shifted_shiftBackups name count files
  obtain ⟨content, found⟩ := Option.isSome_iff_exists.mp there
  have first : ((files.rotate name (count + 1)).read? (backupName name 1)) = some content := by
    rw [rotate, read?_write_of_ne (backupName_ne _), read?_rename_new,
      shifted.others name fun number _ _ => (backupName_ne number).symm, found, Option.some_or]
  have later (number : Nat) : (files.rotate name (count + 1)).read? (backupName name (number + 2)) =
      (files.shiftBackups name count).read? (backupName name (number + 2)) := by
    rw [rotate, read?_write_of_ne (backupName_ne _),
      read?_rename_of_ne (backupName_ne _) (mt backupName_inj.mp (by omega))]
  have moved (number : Nat) (low : number ≤ count - 1) :
      (files.rotate name (count + 1)).logText name (number + 1) = files.logText name number := by
    induction number with
    | zero =>
      rw [logText_succ, logText_zero, logText_zero, first, found, rotate, read?_write_self]
      exact List.append_nil _
    | succ number ih =>
      rw [logText_succ, ih (by omega), later, shifted.moved (number + 1) (by omega) (by omega), logText_succ]
  cases count with
  | zero => exact ⟨(files.read? (backupName name 1)).getD [], by rw [logText_succ, moved 0 (by omega)]⟩
  | succ count =>
    rw [logText_succ name (count + 1) files, logText_succ name count files, logText_succ name (count + 1),
      moved count (by omega), later, shifted.last (by omega)]
    cases files.read? (backupName name (count + 1)) with
    | none => exact ⟨[], rfl⟩
    | some oldest => exact ⟨_, rfl⟩

end Files

end ProxyControl
