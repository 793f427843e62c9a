import Mathlib.Tactic.Choose
import ProxyControl.Proofs.Json.Rendered
import ProxyControl.Proofs.Terminal

namespace ProxyControl.Json

theorem printable_unitEscape (unit : Nat) : Terminal.Printable (unitEscape unit) :=
  Terminal.Printable.append (by decide) (Terminal.printable_hexDigits 4 unit)

theorem isPrintable_of_simpleEscape? {c p : CodePoint} (meant : simpleEscape? c = some p) :
    Terminal.isPrintable c = true := by
  unfold simpleEscape? at meant
  split at meant <;> first
    | decide
    | cases meant

/-- Where code points beyond ASCII are escaped, all that is written can be printed. -/
theorem printable_escapePoint (p : CodePoint) : Terminal.Printable (escapePoint true p) := by
  rcases escapePoint_cases true p with ⟨c, _, meant, short⟩ | ⟨_, _, low, high, itself⟩ | ⟨_, _, unit⟩ | ⟨_, pair⟩
  · rw [short]
    intro q member
    rcases List.mem_pair.mp member with rfl | rfl
    · decide
    · exact isPrintable_of_simpleEscape? meant
  · rw [itself]
    intro q only
    obtain rfl := List.mem_singleton.mp only
    rw [Terminal.isPrintable, Bool.and_eq_true, decide_eq_true_eq, decide_eq_true_eq]
    have := high rfl
    omega
  · rw [unit]
    exact printable_unitEscape _
  · rw [pair]
    exact (printable_unitEscape _).append (printable_unitEscape _)

theorem printable_literal (t : Text) : Terminal.Printable (literal true t) := by
  have inner : Terminal.Printable (t.flatMap (escapePoint true)) := by
    intro p member
    obtain ⟨source, _, inside⟩ := List.mem_flatMap.mp member
    exact printable_escapePoint source p inside
  exact Terminal.Printable.append (Terminal.Printable.append (t := ['"']) (by decide) inner) (by decide)

theorem printable_digits {t : Text} (digits : Digits t) : Terminal.Printable t := by
  intro p member
  have digit := (CodePoint.isAsciiDigit_iff p).mp (digits p member)
  rw [Terminal.isPrintable, Bool.and_eq_true, decide_eq_true_eq, decide_eq_true_eq]
  omega

theorem printable_signText (negative : Bool) : Terminal.Printable (signText negative) := by
  cases negative <;> decide

theorem printable_ofInt (n : Int) : Terminal.Printable (Text.ofInt n) := by
  cases n with
  | ofNat m => exact printable_digits (digits_ofNat m)
  | negSucc m => exact (printable_signText true).append (printable_digits (digits_ofNat (m + 1)))

theorem Decimal.printable_text (d : Decimal) : Terminal.Printable d.text := by
  have point : Terminal.Printable d.pointText := by
    rw [pointText]
    cases shape : d.fraction with
    | none => decide
    | some digits =>
      exact Terminal.Printable.append (t := ['.']) (by decide) (printable_digits (d.someFraction _ shape).1)
  have power : Terminal.Printable d.powerText := by
    rw [powerText]
    cases shape : d.exponent with
    | none => decide
    | some power =>
      obtain ⟨below, digits⟩ := power
      have mark : Terminal.Printable [.char 'e', .char (if below then '-' else '+')] := by cases below <;> decide
      exact mark.append (printable_digits (d.someExponent _ shape).1)
  exact (printable_signText _).append ((printable_digits d.someWhole.1).append (point.append power))

/-- A float is written as something that can be printed and stands for a float. -/
theorem written_floatText (x : Binary64) :
    (∃ y, Written (float y) (floatText x)) ∧ Terminal.Printable (floatText x) := by
  cases x with
  | nan => exact ⟨⟨_, .nan⟩, by decide⟩
  | infinite negative =>
    cases negative with
    | true => exact ⟨⟨_, .infinite true⟩, by decide⟩
    | false => exact ⟨⟨_, .infinite false⟩, by decide⟩
  | finite negative mantissa exponent =>
    obtain ⟨d, shape⟩ := Binary64.exists_decimal_toText negative mantissa exponent
    rw [floatText]
    · rw [← shape]
      exact ⟨⟨_, .decimal d⟩, d.printable_text⟩
    all_goals exact nofun

/-- A value that one line of ASCII tells. -/
inductive Expressible : Json → Prop
  | null : Expressible null
  | bool (b : Bool) : Expressible (bool b)
  | int {n : Int} (printable : Printable n) : Expressible (int n)
  | float (x : Binary64) : Expressible (float x)
  | text (t : Text) : Expressible (text t)
  | list {items : List Json} (each : ∀ item ∈ items, Expressible item) : Expressible (list items)
  | object {members : List (Text × Json)} (keys : ∀ entry ∈ members, Unsplit entry.1)
      (each : ∀ entry ∈ members, Expressible entry.2) (distinct : (members.map Prod.fst).Nodup) :
      Expressible (object members)

/-- What the line of a value is read as. -/
structure ToldAs (v found : Json) : Prop where
  written : Written found (render spaced v)
  shallow : ∀ depth, Shallow depth v → Shallow depth found
  text : ∀ t, v = .text t → found = .text (joined t)

theorem ToldAs.of_same {v : Json} (written : Written v (render spaced v)) (noText : ∀ t, v ≠ .text t) : ToldAs v v :=
  ⟨written, fun _ shallow => shallow, fun t same => absurd same (noText t)⟩

theorem toldAs_float (x : Binary64) : ∃ found, ToldAs (float x) found := by
  obtain ⟨⟨y, written⟩, _⟩ := written_floatText x
  exact ⟨float y, written, fun _ _ => .float y, nofun⟩

theorem toldAs_text (t : Text) : ToldAs (text t) (text (joined t)) := by
  refine ⟨?_, fun _ _ => .text _, fun u same => by rw [Json.text.inj same]⟩
  have written : Written (text (joined t)) (literal true (joined t)) := .text fun _ => unsplit_joined t
  rwa [literal_joined] at written

theorem toldAs_list {items : List Json} (find : Json → Json) (each : ∀ item ∈ items, ToldAs item (find item)) :
    ToldAs (list items) (list (items.map find)) := by
  refine ⟨?_, fun depth shallow => ?_, nofun⟩
  · by_cases empty : items = []
    · rw [empty]
      exact .emptyList
    · refine .list blank_nil (written_renderItems plain_spaced empty ?_)
      exact List.forall₂_map_right_iff.mpr (List.forall₂_same.mpr fun item member => (each item member).written)
  · cases shallow with
    | list inner =>
      refine .list fun item member => ?_
      obtain ⟨source, inside, rfl⟩ := List.mem_map.mp member
      exact (each source inside).shallow _ (inner source inside)

/-- A member, and what its value is read as. -/
def readMember (find : Text × Json → Json) (entry : Text × Json) : Text × Json := (entry.1, find entry)

theorem toldAs_object {members : List (Text × Json)} (find : Text × Json → Json)
    (keys : ∀ entry ∈ members, Unsplit entry.1) (each : ∀ entry ∈ members, ToldAs entry.2 (find entry))
    (distinct : (members.map Prod.fst).Nodup) : ToldAs (object members) (object (members.map (readMember find))) := by
  refine ⟨?_, fun depth shallow => ?_, nofun⟩
  · by_cases empty : members = []
    · rw [empty]
      exact .emptyObject
    · refine .object blank_nil
        (written_renderMembers plain_spaced empty (fun entry member _ => keys entry member) ?_) ?_
      · exact List.forall₂_map_right_iff.mpr
          (List.forall₂_same.mpr fun entry member => ⟨rfl, (each entry member).written⟩)
      · rw [List.map_map]
        exact distinct
  · cases shallow with
    | object inner =>
      refine .object fun entry member => ?_
      obtain ⟨source, inside, rfl⟩ := List.mem_map.mp member
      exact (each source inside).shallow _ (inner source inside)

/-- Whatever can be expressed on a line is read from it as something. -/
theorem Expressible.told {v : Json} (expressible : Expressible v) : ∃ found, ToldAs v found := by
  induction expressible with
  | null => exact ⟨_, .of_same .null nofun⟩
  | bool b => cases b with
    | false => exact ⟨_, .of_same (.bool false) nofun⟩
    | true => exact ⟨_, .of_same (.bool true) nofun⟩
  | int printable => exact ⟨_, .of_same (.int printable) nofun⟩
  | float x => exact toldAs_float x
  | text t => exact ⟨_, toldAs_text t⟩
  | list each ih =>
    choose! find finds using ih
    exact ⟨_, toldAs_list find finds⟩
  | object keys each distinct ih =>
    choose! find finds using ih
    exact ⟨_, toldAs_object find keys finds distinct⟩

theorem printable_join {glue : Text} {parts : List Text} (between : Terminal.Printable glue)
    (each : ∀ part ∈ parts, Terminal.Printable part) : Terminal.Printable (Text.join glue parts) := by
  intro p member
  rcases Text.mem_of_mem_join member with here | ⟨part, inside, here⟩
  · exact between p here
  · exact each part inside p here

/-- What is written of a value on one line can be printed, so that it is one line. -/
theorem Expressible.printable_render {v : Json} (expressible : Expressible v) :
    Terminal.Printable (render spaced v) := by
  have comma : Terminal.Printable spaced.item := by decide
  induction expressible with
  | null => decide
  | bool b => cases b <;> decide
  | int printable => exact printable_ofInt _
  | float x => exact (written_floatText x).2
  | text t => exact printable_literal t
  | list each ih =>
    have bracket : Terminal.Printable "[" ∧ Terminal.Printable "]" := by decide
    rw [render, renderItems_eq_join]
    refine (bracket.1.append (printable_join comma fun part member => ?_)).append bracket.2
    obtain ⟨item, inside, rfl⟩ := List.mem_map.mp member
    exact ih item inside
  | object keys each distinct ih =>
    have brace : Terminal.Printable "\x7b" ∧ Terminal.Printable "\x7d" := by decide
    rw [render, renderMembers_eq_join]
    refine (brace.1.append (printable_join comma fun part member => ?_)).append brace.2
    obtain ⟨entry, inside, rfl⟩ := List.mem_map.mp member
    exact ((printable_literal entry.1).append (by decide)).append (ih entry inside)

/-- The line of an object is read as an object whose texts are the texts of the first, joined. -/
theorem told_object {members : List (Text × Json)} (keys : ∀ entry ∈ members, Unsplit entry.1)
    (each : ∀ entry ∈ members, Expressible entry.2) (distinct : (members.map Prod.fst).Nodup) :
    ∃ read, ToldAs (object members) (object read) ∧ ∀ key t, (object members).member? key = some (text t) →
      (object read).member? key = some (text (joined t)) := by
  have told (entry : Text × Json) (member : entry ∈ members) : ∃ found, ToldAs entry.2 found := (each entry member).told
  choose! find finds using told
  refine ⟨_, toldAs_object find keys finds distinct, fun key t present => ?_⟩
  simp only [member?, List.lookup_eq_some_iff] at present ⊢
  obtain ⟨before, after, rfl, others⟩ := present
  have same := (finds (key, text t) (List.mem_append_right _ List.mem_cons_self)).text t rfl
  refine ⟨before.map (readMember find), after.map (readMember find), ?_, fun entry member => ?_⟩
  · rw [List.map_append, List.map_cons, readMember, same]
  · obtain ⟨source, inside, rfl⟩ := List.mem_map.mp member
    exact others source inside

end ProxyControl.Json
