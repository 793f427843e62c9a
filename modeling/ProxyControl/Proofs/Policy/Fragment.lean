import ProxyControl.PolicyUpdate
import ProxyControl.Proofs.Policy.Payload

namespace ProxyControl

/-- The integer that a value is taken for: a truth value for 0 or 1, a float if it is whole and fits into 64 bits, and a
text that is written like an integer, if it is not too long. -/
inductive Json.TakenFor : Json → Int → Prop
  | int (n : Int) : TakenFor (.int n) n
  | no : TakenFor (.bool false) 0
  | yes : TakenFor (.bool true) 1
  | float {x : Binary64} {n : Int} (whole : x.truncate? = some (n, true))
      (fits : -0x8000000000000000 < n ∧ n < 0x8000000000000000) : TakenFor (.float x) n
  | text {t : Text} {n : Int} (unicode : t.IsUnicode)
      (short : (Utf8.encodeLoosely t).length ≤ Validation.integerTextLimit)
      (written : Validation.integerOfText? t = some n) : TakenFor (.text t) n

namespace Validation

/-- What a value is taken for where an integer is asked for. -/
theorem integer_eq_ok {value : Json} {n : Int} : integer value.toDatum = .ok n ↔ value.TakenFor n := by
  constructor
  · intro run
    cases value with
    | int m =>
      cases run
      exact .int n
    | bool b =>
      cases b with
      | false =>
        cases run
        exact .no
      | true =>
        cases run
        exact .yes
    | float x =>
      obtain ⟨whole, fits⟩ := integer_float_eq_ok.mp run
      exact .float whole fits
    | text t =>
      obtain ⟨unicode, short, written⟩ := integer_text_eq_ok.mp run
      exact .text unicode short written
    | _ => cases run
  · intro taken
    cases taken with
    | int => rfl
    | no => rfl
    | yes => rfl
    | float whole fits => exact integer_float_eq_ok.mpr ⟨whole, fits⟩
    | text unicode short written => exact integer_text_eq_ok.mpr ⟨unicode, short, written⟩

theorem count_eq_ok {value : Json} {n : Nat} : count value.toDatum = .ok n ↔ value.TakenFor n := by
  rw [count, bind_eq_ok]
  constructor
  · rintro ⟨whole, found, run⟩
    cases whole with
    | ofNat m =>
      cases run
      exact integer_eq_ok.mp found
    | negSucc m => cases run
  · intro taken
    exact ⟨n, integer_eq_ok.mpr taken, rfl⟩

end Validation

/-- Whether a text is no JSON, rather than JSON that cannot be read. -/
def Json.ParseError.IsSyntax : ParseError → Prop
  | .syntaxError .. => True
  | _ => False

/-- A refusal of a schedule that shows the fragment at fault, as a whole. -/
structure Refusal.Names (refusal : Refusal) (fragment : Text) : Prop where
  message : ∃ told, refusal.message = "invalid schedule " ++ fragment.quoted ++ ": " ++ told
  details : refusal.details = ([("flag", .text "schedule"), ("value", .text fragment)] : List (Text × Json))

theorem Refusal.names_scheduleShape (fragment : Text) : (scheduleShape fragment).Names fragment :=
  ⟨⟨"expected a JSON object", (List.append_assoc (Text.ofString "invalid schedule " ++ fragment.quoted) ": " _).symm⟩,
    rfl⟩

theorem Refusal.names_scheduleCron (fragment : Text) (boundary : Boundary) (expression : Text) :
    (scheduleCron fragment boundary expression).Names fragment := by
  refine ⟨⟨boundary.name ++ " " ++ expression.quoted ++ " is not a valid cron expression", ?_⟩, rfl⟩
  simp only [message, List.append_assoc]

namespace ScheduledWindow

variable {fragment : Text} {w : ScheduledWindow}

/-- A window with just what an object says. The minimum is looked up under its wire name first. -/
structure DescribedBy (w : ScheduledWindow) (object : Json) : Prop where
  minimum : ∃ value, (["minReplicas", "min_replicas"] : List Text).findSome? (fun name => object.member? name) =
    some value ∧ value.TakenFor w.minReplicas
  opening : object.member? "start" = some (.text w.opening)
  closing : object.member? "end" = some (.text w.closing)
  timezone : object.member? "timezone" = w.timezone.given .text

theorem DescribedBy.exists_members {object : Json} (described : w.DescribedBy object) :
    ∃ members, object = .object members := by
  have opening := described.opening
  cases object with
  | object members => exact ⟨members, rfl⟩
  | _ => cases opening

theorem check_object_eq_ok {members : List (Text × Json)} :
    check (Json.object members).toDatum = .ok w ↔ w.DescribedBy (.object members) := by
  rw [check_eq_ok]
  constructor
  · rintro ⟨_, minimum, opening, closing, timezone, same, first, second, third, fourth, rfl⟩
    cases same
    obtain ⟨value, named, counted⟩ := Json.required_eq_ok.mp first
    exact ⟨⟨value, named, Validation.count_eq_ok.mp counted⟩, Json.required_text_eq_ok.mp second,
      Json.required_text_eq_ok.mp third, Json.field_text_eq_ok.mp fourth⟩
  · rintro ⟨⟨value, named, taken⟩, opening, closing, timezone⟩
    obtain ⟨nested, same⟩ : ∃ nested, w.timezone = .ofNested nested := by
      cases w.timezone with
      | unset => exact ⟨none, rfl⟩
      | null => exact ⟨some none, rfl⟩
      | value t => exact ⟨some (some t), rfl⟩
    have counted := Json.required_eq_ok.mpr ⟨value, named, Validation.count_eq_ok.mpr taken⟩
    refine ⟨_, w.minReplicas, w.opening, w.closing, nested, rfl, counted, Json.required_text_eq_ok.mpr opening,
      Json.required_text_eq_ok.mpr closing, Json.field_text_eq_ok.mpr (same ▸ timezone), ?_⟩
    rw [← same]

theorem find?_boundary {holds : Boundary → Bool} :
    [Boundary.opening, .closing].find? (fun b => !holds b) = none ↔ ∀ b, holds b = true := by
  simp only [List.find?_eq_none, List.mem_cons, List.not_mem_nil, or_false, Bool.not_eq_true', Bool.not_eq_false]
  constructor
  · intro all b
    cases b with
    | opening => exact all _ (.inl rfl)
    | closing => exact all _ (.inr rfl)
  · intro all b _
    exact all b

/-- A fragment is read exactly if it is an object that describes a window, with two cron expressions. -/
theorem parse_eq_ok : parse fragment = .ok w ↔ ∃ object, Json.parse fragment = .ok object ∧ w.DescribedBy object ∧
    ∀ boundary, (Cron.describe (w.expression boundary)).isOk = true := by
  rw [parse]
  split
  · rename_i document
    rw [document]
    exact ⟨fun run => (by cases run), fun ⟨_, same, _⟩ => (by cases same)⟩
  · rename_i document
    rw [document]
    exact ⟨fun run => (by cases run), fun ⟨_, same, _⟩ => (by cases same)⟩
  · rename_i members document
    rw [document]
    split
    · rename_i problems checked
      refine ⟨fun run => (by cases run), fun ⟨_, same, described, _⟩ => ?_⟩
      cases same
      rw [check_object_eq_ok.mpr described] at checked
      cases checked
    · rename_i window checked
      split
      · rename_i boundary found
        refine ⟨fun run => (by cases run), fun ⟨_, same, described, regular⟩ => ?_⟩
        cases same
        rw [check_object_eq_ok.mpr described] at checked
        cases checked
        rw [find?_boundary.mpr regular] at found
        cases found
      · rename_i regular
        constructor
        · intro run
          cases run
          exact ⟨_, rfl, check_object_eq_ok.mp checked, find?_boundary.mp regular⟩
        · rintro ⟨_, same, described, _⟩
          cases same
          rw [check_object_eq_ok.mpr described] at checked
          cases checked
          rfl
  · rename_i other notObject document
    rw [document]
    refine ⟨fun run => (by cases run), fun ⟨_, same, described, _⟩ => ?_⟩
    cases same
    obtain ⟨members, same⟩ := described.exists_members
    exact absurd same (notObject members)

/-- JSON that cannot be read ends in a fault. -/
theorem fault_of_not_isSyntax {error : Json.ParseError} (notSyntax : ¬ error.IsSyntax)
    (unread : Json.parse fragment = .error error) :
    ∃ kind message, parse fragment = .error (.fault kind message) := by
  unfold parse
  rw [unread]
  cases error with
  | syntaxError fault position => exact absurd trivial notSyntax
  | tooManyDigits count => exact ⟨_, _, rfl⟩
  | tooDeep collection => exact ⟨_, _, rfl⟩

/-- What is not read is refused with the fragment named, unless it is JSON that cannot be read. -/
theorem refused_of_parse {failure : Failure} (run : parse fragment = .error failure) :
    (∃ refusal, failure = .refused refusal ∧ refusal.Names fragment) ∨
      ∃ error, Json.parse fragment = .error error ∧ ¬ error.IsSyntax := by
  unfold parse at run
  split at run
  · cases run
    exact .inl ⟨_, rfl, ⟨_, rfl⟩, rfl⟩
  · rename_i error notSyntax document
    cases run
    refine .inr ⟨error, document, fun isSyntax => ?_⟩
    cases error with
    | syntaxError fault position => exact notSyntax fault position rfl
    | _ => exact isSyntax
  · split at run
    · cases run
      exact .inl ⟨_, rfl, ⟨_, rfl⟩, rfl⟩
    · split at run
      · cases run
        exact .inl ⟨_, rfl, Refusal.names_scheduleCron fragment _ _⟩
      · cases run
  · cases run
    exact .inl ⟨_, rfl, Refusal.names_scheduleShape fragment⟩

/-- Reading a fragment ends in a window or in a refusal that names the fragment, exactly if the fragment is no JSON or can
be read as JSON. It ends in a window exactly if an object describes that, with two cron expressions. -/
theorem parse_handled_iff (fragment : Text) :
    ((∃ w, parse fragment = .ok w) ∨ (∃ refusal, parse fragment = .error (.refused refusal) ∧ refusal.Names fragment) ↔
      ∀ error, Json.parse fragment = .error error → error.IsSyntax) ∧
    ∀ w, parse fragment = .ok w ↔ ∃ object, Json.parse fragment = .ok object ∧ w.DescribedBy object ∧
      ∀ boundary, (Cron.describe (w.expression boundary)).isOk = true := by
  refine ⟨⟨fun handled error unread => Classical.byContradiction fun notSyntax => ?_, fun syntactic => ?_⟩,
    fun w => parse_eq_ok⟩
  · obtain ⟨kind, message, fails⟩ := fault_of_not_isSyntax notSyntax unread
    rcases handled with ⟨w, run⟩ | ⟨refusal, run, _⟩
    · rw [fails] at run
      cases run
    · rw [fails] at run
      cases run
  · cases run : parse fragment with
    | ok w => exact .inl ⟨w, rfl⟩
    | error failure =>
      rcases refused_of_parse run with ⟨refusal, rfl, names⟩ | ⟨error, unread, notSyntax⟩
      · exact .inr ⟨refusal, rfl, names⟩
      · exact absurd (syntactic error unread) notSyntax

/-- A fragment with both names of the minimum, and with an expression that is given twice. -/
def doubledFragment : Text :=
  "\x7b\"min_replicas\": 9, \"minReplicas\": \" 3.0 \", \"start\": 1, \"end\": \"0 18 * * *\", \"start\": \"0 9 * * MON\", \"timezone\": null\x7d"

theorem parse_doubledFragment : parse doubledFragment = .ok ⟨3, "0 9 * * MON", "0 18 * * *", .null⟩ ∧
    ∃ object, Json.parse doubledFragment = .ok object ∧
      DescribedBy ⟨3, "0 9 * * MON", "0 18 * * *", .null⟩ object := by
  have read : (parse doubledFragment).toOption = some ⟨3, "0 9 * * MON", "0 18 * * *", .null⟩ := by decide +kernel
  have run := toOption_eq_some.mp read
  obtain ⟨object, document, described, _⟩ := ((parse_handled_iff doubledFragment).2 _).mp run
  exact ⟨run, object, document, described⟩

/-- A fragment whose minimum has one digit too many. -/
def longFragment : Text :=
  ("\x7b\"minReplicas\": " : Text) ++ List.replicate 4301 (.char '1') ++
    (", \"start\": \"0 9 * * *\", \"end\": \"0 18 * * *\"\x7d" : Text)

/-- A number with too many digits is neither read nor refused. -/
theorem parse_longFragment : (∀ w, parse longFragment ≠ .ok w) ∧
    ∀ refusal, parse longFragment ≠ .error (.refused refusal) := by
  have unreported : (parse longFragment).mapError Failure.isReported = .error false := by decide +kernel
  constructor
  · intro w run
    rw [run] at unreported
    cases unreported
  · intro refusal run
    rw [run] at unreported
    cases unreported

end ScheduledWindow

end ProxyControl
