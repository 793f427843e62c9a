import ProxyControl.Proofs.Cron.Signs
import ProxyControl.Proofs.Policy.Fragment

namespace ProxyControl

namespace Cron

/-- The numbers that may stand in a field. -/
def Field.Admits : Field → Nat → Prop
  | minute, n => n ≤ 59
  | hour, n => n ≤ 23
  | day, n => 1 ≤ n ∧ n ≤ 31
  | month, n => 1 ≤ n ∧ n ≤ 12
  | weekday, n => n ≤ 7

instance (field : Field) (n : Nat) : Decidable (field.Admits n) :=
  match field with
  | .minute => inferInstanceAs (Decidable (n ≤ 59))
  | .hour => inferInstanceAs (Decidable (n ≤ 23))
  | .day => inferInstanceAs (Decidable (1 ≤ n ∧ n ≤ 31))
  | .month => inferInstanceAs (Decidable (1 ≤ n ∧ n ≤ 12))
  | .weekday => inferInstanceAs (Decidable (n ≤ 7))

theorem Field.admits_iff {field : Field} {n : Nat} :
    field.Admits n ↔ field.least ≤ field.canonical n ∧ field.canonical n ≤ field.greatest := by
  by_cases seventh : n = 7
  · rw [seventh]
    cases field <;> decide
  · have same : field.canonical n = n := if_neg fun both => seventh both.2
    rw [same]
    cases field <;> simp only [Admits, least, greatest] <;> omega

section

variable {field : Field} {item t : Text} {n : Nat}

theorem not_mem_of_toNat? {p : CodePoint} (number : item.toNat? = some n) (mark : p.isAsciiDigit = false) :
    p ∉ item := fun member => by
  rw [(Text.toNat?_eq_some number).2 p member] at mark
  cases mark

theorem slot?_of_outside (number : item.toNat? = some n) (outside : ¬ field.Admits n) : slot? field item = none := by
  have named : field.number? item = some n := by
    rw [Field.number?, number, Option.some_or]
  rw [slot?, if_neg, if_neg, named]
  · exact if_neg (mt Field.admits_iff.mpr outside)
  · rintro ⟨_, rfl⟩
    cases number
  · rintro rfl
    cases number

/-- A number is no range. -/
theorem slots?_of_toNat? (number : item.toNat? = some n) : slots? field item = (slot? field item).map ([·]) := by
  have dash : Text.cut? (.char '-') item = none := Text.cut?_eq_none.mpr (not_mem_of_toNat? number rfl)
  have slash : Text.cut? (.char '/') item.reverse = none :=
    Text.cut?_eq_none.mpr (mt List.mem_reverse.mp (not_mem_of_toNat? number rfl))
  rw [slots?, spanOf?, span?, dash, cutLast?, slash]
  rfl

/-- A number takes no ordinal. -/
theorem ordinal?_of_toNat? (number : item.toNat? = some n) : ordinal? item = none := by
  have hash : Text.cut? (.char '#') item = none := Text.cut?_eq_none.mpr (not_mem_of_toNat? number rfl)
  have plain : ordinal?.ordinalBody? item = none := by
    rw [ordinal?.ordinalBody?, hash]
  unfold ordinal?
  split
  · exact absurd List.mem_cons_self (not_mem_of_toNat? number rfl)
  · exact plain

theorem picks?_of_outside (number : item.toNat? = some n) (outside : ¬ field.Admits n) : picks? field item = none := by
  simp only [picks?, slots?_of_toNat? number, slot?_of_outside number outside, ordinal?_of_toNat? number]
  exact ite_self _

/-- A field that lists a number out of range has no picks: it is neither a choice nor a rule for a whole field, and each
of its entries must have some. -/
theorem fieldPicks?_of_outside (listed : item ∈ Text.splitOn (.char ',') t) (number : item.toNat? = some n)
    (outside : ¬ field.Admits n) (picks : List Pick) : fieldPicks? field t ≠ some picks := by
  have whole (plain : .char ',' ∉ t) : item = t := by
    rw [Text.splitOn_of_not_mem plain] at listed
    exact List.mem_singleton.mp listed
  intro found
  rw [fieldPicks?] at found
  split at found
  · rename_i bounded
    obtain ⟨rest, rfl, marks⟩ := randomChoice?_eq_some bounded
    have plain : .char ',' ∉ .char 'r' :: rest := by
      rw [List.mem_cons, not_or]
      refine ⟨by decide, fun comma => ?_⟩
      rcases marks _ comma with digit | bracket
      · cases digit
      · revert bracket
        decide
    rw [whole plain] at number
    exact not_mem_of_toNat? number rfl List.mem_cons_self
  · cases found
  · split at found
    · rename_i any
      subst any
      rw [whole (by decide)] at number
      cases number
    · split at found
      · rename_i nearest
        obtain ⟨digits, day, read, shape⟩ := exists_of_isNearestWeekday nearest.2
        have letter : .char 'w' ∈ t ∧ .char ',' ∉ t := by
          have comma := not_mem_of_toNat? (p := .char ',') read rfl
          rcases shape with rfl | rfl
          · simpa using comma
          · simpa using comma
        rw [whole letter.2] at number
        exact not_mem_of_toNat? number rfl letter.1
      · obtain ⟨lists, each, _⟩ := Option.map_eq_some_iff.mp found
        obtain ⟨entry, here⟩ := exists_of_mapM each item listed
        rw [picks?_of_outside number outside] at here
        cases here

theorem asciiLower_eq_comma_iff (p : CodePoint) : p.asciiLower = .char ',' ↔ p = .char ',' := by
  rw [CodePoint.asciiLower]
  split
  · rename_i upper
    have bounds := upper
    simp only [CodePoint.isAsciiUpper, Bool.and_eq_true, decide_eq_true_eq] at bounds
    refine iff_of_false (fun same => ?_) fun same => ?_
    · have value := congrArg CodePoint.toNat same
      rw [CodePoint.toNat_ofNat (by omega)] at value
      change p.toNat + 0x20 = 0x2C at value
      omega
    · rw [same] at upper
      cases upper
  · exact Iff.rfl

theorem asciiLower_of_isAsciiDigit {p : CodePoint} (digit : p.isAsciiDigit = true) : p.asciiLower = p := by
  simp only [CodePoint.isAsciiDigit, Bool.and_eq_true, decide_eq_true_eq] at digit
  rw [CodePoint.asciiLower, if_neg]
  simp only [CodePoint.isAsciiUpper, Bool.and_eq_true, decide_eq_true_eq, not_and]
  omega

/-- Letter case is no matter to a number in a list. -/
theorem mem_splitOn_asciiLower (listed : item ∈ Text.splitOn (.char ',') t) (number : item.toNat? = some n) :
    item ∈ Text.splitOn (.char ',') t.asciiLower := by
  have digits : item.map CodePoint.asciiLower = item := by
    refine (List.map_congr_left fun p member => ?_).trans (List.map_id item)
    exact asciiLower_of_isAsciiDigit ((Text.toNat?_eq_some number).2 p member)
  rw [Text.asciiLower, Text.splitOn_map asciiLower_eq_comma_iff]
  exact List.mem_map.mpr ⟨item, listed, digits⟩

end

variable {expression item : Text} {e : Expression} {field : Field} {n : Nat}

theorem isValid_of_outside (listed : item ∈ Text.splitOn (.char ',') (e.text field)) (number : item.toNat? = some n)
    (outside : ¬ field.Admits n) : e.isValid = false := by
  rw [Bool.eq_false_iff]
  intro valid
  obtain ⟨picks, found⟩ := exists_fieldPicks?_of_isValid valid field
  exact fieldPicks?_of_outside (mem_splitOn_asciiLower listed number) number outside picks found

theorem describe_of_outside (five : Text.words expression = [e.minute, e.hour, e.day, e.month, e.weekday])
    (listed : item ∈ Text.splitOn (.char ',') (e.text field)) (number : item.toNat? = some n)
    (outside : ¬ field.Admits n) : describe expression = .error (.invalid expression) := by
  have visible : expression.strip ≠ [] := Text.strip_ne_nil (by rw [five]; exact List.cons_ne_nil _ _)
  rw [describe, if_neg (mt List.isEmpty_iff.mp visible)]
  cases fields : Expression.ofText? expression with
  | none => rfl
  | some found =>
    cases valid : found.isValid with
    | false => simp [valid]
    | true =>
      have words := words_of_isValid fields valid
      rw [five] at words
      have same : e = found := by
        obtain ⟨minute, hour, day, month, weekday⟩ := e
        obtain ⟨minute', hour', day', month', weekday'⟩ := found
        simpa using words
      rw [← same, isValid_of_outside listed number outside] at valid
      cases valid

end Cron

def Json.isText (t : Text) : Json → Bool
  | .text u => u = t
  | _ => false

theorem Json.isText_iff {t : Text} {value : Json} : value.isText t = true ↔ value = .text t := by
  cases value <;> simp [isText]

namespace ScheduledWindow

variable {fragment expression : Text}

/-- Whether an object has a certain text as one of the two ends of a window. -/
def HasBoundary (object : Json) (expression : Text) : Prop :=
  ∃ boundary : Boundary, object.member? boundary.name = some (.text expression)

instance (object : Json) (expression : Text) : Decidable (HasBoundary object expression) :=
  decidable_of_iff (∃ boundary ∈ [Boundary.opening, .closing], (object.member? boundary.name).any (·.isText expression))
    (exists_congr fun boundary => by
      rw [Option.any_eq_true]
      cases boundary <;> simp [Json.isText_iff])

/-- Unless it cannot be read, a window that has an end without a description is refused. -/
theorem parse_refused_iff {objection : Cron.Objection} (undescribed : Cron.describe expression = .error objection)
    (has : ∀ object, Json.parse fragment = .ok object → HasBoundary object expression) :
    (∃ refusal, parse fragment = .error (.refused refusal) ∧ refusal.Names fragment) ↔
      ∀ error, Json.parse fragment = .error error → error.IsSyntax := by
  constructor
  · rintro ⟨refusal, run, _⟩ error unread
    refine Classical.byContradiction fun notSyntax => ?_
    obtain ⟨kind, message, fails⟩ := fault_of_not_isSyntax notSyntax unread
    rw [fails] at run
    cases run
  · intro syntactic
    cases run : parse fragment with
    | ok w =>
      obtain ⟨object, document, described, regular⟩ := parse_eq_ok.mp run
      obtain ⟨boundary, found⟩ := has object document
      have same : w.expression boundary = expression := by
        cases boundary with
        | opening => exact Json.text.inj (Option.some.inj (described.opening.symm.trans found))
        | closing => exact Json.text.inj (Option.some.inj (described.closing.symm.trans found))
      have told := regular boundary
      rw [same, undescribed] at told
      cases told
    | error failure =>
      rcases refused_of_parse run with ⟨refusal, rfl, names⟩ | ⟨error, unread, notSyntax⟩
      · exact ⟨refusal, rfl, names⟩
      · exact absurd (syntactic error unread) notSyntax

end ScheduledWindow

namespace Cron

/-- An expression of five words, of which one lists a number that is out of range for its field, has no description. It is
shown as it stands, and no window can begin or end by it: the fragment is refused, unless it cannot be read. -/
theorem outside_refused {expression item : Text} {e : Expression} {field : Field} {n : Nat}
    (five : Text.words expression = [e.minute, e.hour, e.day, e.month, e.weekday])
    (listed : item ∈ Text.splitOn (.char ',') (e.text field)) (number : item.toNat? = some n)
    (outside : ¬ field.Admits n) :
    describe expression = .error (.invalid expression) ∧ humanize expression = expression ∧
    ∀ fragment, (∀ object, Json.parse fragment = .ok object → ScheduledWindow.HasBoundary object expression) →
      ((∃ refusal, ScheduledWindow.parse fragment = .error (.refused refusal) ∧ refusal.Names fragment) ↔
        ∀ error, Json.parse fragment = .error error → error.IsSyntax) := by
  have undescribed := describe_of_outside five listed number outside
  refine ⟨undescribed, ?_, fun fragment has => ScheduledWindow.parse_refused_iff undescribed has⟩
  rw [humanize, undescribed]

/-- A window that is to begin at a minute past the hour, with a minimum of so many digits. -/
def sixtyPast (digits : Nat) : Text :=
  ("\x7b\"minReplicas\": " : Text) ++ List.replicate digits (.char '1') ++
    (", \"start\": \"5,60 8 * * MON\", \"end\": \"0 20 * * *\"\x7d" : Text)

theorem sixtyPast_begins :
    ∃ object, Json.parse (sixtyPast 1) = .ok object ∧ ScheduledWindow.HasBoundary object "5,60 8 * * MON" := by
  have begins : (Json.parse (sixtyPast 1)).toOption.any
      (fun object => ScheduledWindow.HasBoundary object "5,60 8 * * MON") = true := by
    decide +kernel
  obtain ⟨object, document, has⟩ := (Option.any_eq_true _ _).mp begins
  exact ⟨object, toOption_eq_some.mp document, of_decide_eq_true has⟩

theorem sixtyPast_refused :
    Text.words "5,60 8 * * MON" = ["5,60", "8", "*", "*", "MON"] ∧
    ("60" : Text) ∈ Text.splitOn (.char ',') "5,60" ∧ ¬ Field.minute.Admits 60 ∧
    humanize "5,60 8 * * MON" = "5,60 8 * * MON" ∧
    ∃ refusal, ScheduledWindow.parse (sixtyPast 1) = .error (.refused refusal) ∧ refusal.Names (sixtyPast 1) := by
  have five : Text.words "5,60 8 * * MON" = ["5,60", "8", "*", "*", "MON"] := by decide
  have listed : ("60" : Text) ∈ Text.splitOn (.char ',') (Expression.text ⟨"5,60", "8", "*", "*", "MON"⟩ .minute) := by
    decide
  have outside : ¬ Field.minute.Admits 60 := by decide
  obtain ⟨_, shown, refused⟩ := outside_refused five listed (by decide) outside
  obtain ⟨object, document, has⟩ := sixtyPast_begins
  refine ⟨five, listed, outside, shown, (refused _ fun found read => ?_).mpr fun error unread => ?_⟩
  · rw [document] at read
    cases read
    exact has
  · rw [document] at unread
    cases unread

/-- With too many digits, the same window is not refused. -/
theorem sixtyPast_unread :
    Text.words "5,60 8 * * MON" = ["5,60", "8", "*", "*", "MON"] ∧
    ("60" : Text) ∈ Text.splitOn (.char ',') "5,60" ∧ ¬ Field.minute.Admits 60 ∧
    (∃ object, Json.parse (sixtyPast 1) = .ok object ∧ ScheduledWindow.HasBoundary object "5,60 8 * * MON") ∧
    ∀ refusal, ScheduledWindow.parse (sixtyPast 4301) ≠ .error (.refused refusal) := by
  have unreported : (ScheduledWindow.parse (sixtyPast 4301)).mapError Failure.isReported = .error false := by
    decide +kernel
  refine ⟨by decide, by decide, by decide, sixtyPast_begins, fun refusal run => ?_⟩
  rw [run] at unreported
  cases unreported

end Cron

end ProxyControl
