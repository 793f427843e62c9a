import ProxyControl.Proofs.Json.Decimal
import ProxyControl.Proofs.Json.Literal
import ProxyControl.Proofs.Json.Members

namespace ProxyControl.Json

/-- A run of blanks, which may stand between the parts of a JSON text. -/
def Blank (gap : Text) : Prop := ∀ p ∈ gap, isBlank p = true

instance (gap : Text) : Decidable (Blank gap) := inferInstanceAs (Decidable (∀ p ∈ gap, isBlank p = true))

theorem blank_nil : Blank [] := by decide

mutual

/-- The texts that stand for a value. They differ in the blanks between its parts, in what is escaped and in how a
number with a fraction is written. The keys of an object are distinct. -/
inductive Written : Json → Text → Prop
  | null : Written null "null"
  | bool (b : Bool) : Written (bool b) (if b then "true" else "false")
  | int {n : Int} (printable : Printable n) : Written (int n) (Text.ofInt n)
  | nan : Written (float .nan) "NaN"
  | infinite (negative : Bool) : Written (float (.infinite negative)) (if negative then "-Infinity" else "Infinity")
  | decimal (d : Decimal) : Written (float d.value) d.text
  | text {t : Text} {asciiOnly : Bool} (unsplit : asciiOnly = true → Unsplit t) :
      Written (text t) (literal asciiOnly t)
  | emptyList : Written (list []) [.char '[', .char ']']
  | list {items : List Json} {gap s : Text} (blank : Blank gap) (inner : WrittenItems items s) :
      Written (list items) (.char '[' :: (gap ++ (s ++ [.char ']'])))
  | emptyObject : Written (object []) [.char '\x7b', .char '\x7d']
  | object {members : List (Text × Json)} {gap s : Text} (blank : Blank gap) (inner : WrittenMembers members s)
      (distinct : (members.map Prod.fst).Nodup) :
      Written (object members) (.char '\x7b' :: (gap ++ (s ++ [.char '\x7d'])))

/-- The texts of the items of a list, without its brackets. -/
inductive WrittenItems : List Json → Text → Prop
  | last {item : Json} {s gap : Text} (only : Written item s) (blank : Blank gap) :
      WrittenItems [item] (s ++ gap)
  | next {item : Json} {items : List Json} {s gap more : Text} (first : Written item s) (blank : Blank gap)
      (others : WrittenItems items more) : WrittenItems (item :: items) (s ++ (.char ',' :: (gap ++ more)))

/-- The texts of the members of an object, without its braces. -/
inductive WrittenMembers : List (Text × Json) → Text → Prop
  | last {key : Text} {value : Json} {asciiOnly : Bool} {colon s gap : Text}
      (unsplit : asciiOnly = true → Unsplit key) (blankColon : Blank colon) (only : Written value s)
      (blank : Blank gap) :
      WrittenMembers [(key, value)] (literal asciiOnly key ++ (.char ':' :: (colon ++ (s ++ gap))))
  | next {key : Text} {value : Json} {asciiOnly : Bool} {members : List (Text × Json)} {colon s gap more : Text}
      (unsplit : asciiOnly = true → Unsplit key) (blankColon : Blank colon) (first : Written value s)
      (blank : Blank gap) (others : WrittenMembers members more) :
      WrittenMembers ((key, value) :: members)
        (literal asciiOnly key ++ (.char ':' :: (colon ++ (s ++ (.char ',' :: (gap ++ more))))))

end

/-- Lists and objects stand inside each other at most `depth` times. -/
inductive Shallow : Nat → Json → Prop
  | null {depth : Nat} : Shallow depth null
  | bool {depth : Nat} (b : Bool) : Shallow depth (bool b)
  | int {depth : Nat} (n : Int) : Shallow depth (int n)
  | float {depth : Nat} (x : Binary64) : Shallow depth (float x)
  | text {depth : Nat} (t : Text) : Shallow depth (text t)
  | list {depth : Nat} {items : List Json} (each : ∀ item ∈ items, Shallow depth item) :
      Shallow (depth + 1) (list items)
  | object {depth : Nat} {members : List (Text × Json)} (each : ∀ entry ∈ members, Shallow depth entry.2) :
      Shallow (depth + 1) (object members)

theorem Shallow.mono {depth more : Nat} {v : Json} (shallow : Shallow depth v) (bound : depth ≤ more) :
    Shallow more v := by
  induction shallow generalizing more with
  | null => exact .null
  | bool b => exact .bool b
  | int n => exact .int n
  | float x => exact .float x
  | text t => exact .text t
  | list each ih =>
    obtain ⟨less, rfl⟩ : ∃ less, more = less + 1 := ⟨more - 1, by omega⟩
    exact .list fun item member => ih item member (by omega)
  | object each ih =>
    obtain ⟨less, rfl⟩ : ∃ less, more = less + 1 := ⟨more - 1, by omega⟩
    exact .object fun entry member => ih entry member (by omega)

theorem Place.skip_append (position : Nat) (passed rest : Text) :
    (Place.mk position (passed ++ rest)).skip passed.length = ⟨position + passed.length, rest⟩ := by
  rw [Place.skip, List.drop_left]

theorem Place.skip_cons (position : Nat) (p : CodePoint) (rest : Text) :
    (Place.mk position (p :: rest)).skip 1 = ⟨position + 1, rest⟩ := rfl

/-- Blanks are skipped up to the first code point that is none. -/
theorem Place.skipBlanks_append (position : Nat) {gap rest : Text} (blank : Blank gap)
    (stops : ∀ p ∈ rest.head?, isBlank p = false) :
    (Place.mk position (gap ++ rest)).skipBlanks = ⟨position + gap.length, rest⟩ := by
  have run : (gap ++ rest).takeWhile isBlank = gap := by
    rw [List.takeWhile_append_of_pos blank]
    cases rest with
    | nil => simp
    | cons p rest => rw [List.takeWhile_cons_of_neg (by simp [stops p rfl]), List.append_nil]
  rw [Place.skipBlanks]
  simp only [run]
  exact Place.skip_append position gap rest

/-- What may follow a value: the end of the text, a blank, a comma or a closing bracket. -/
theorem endsNumber_of_blank {gap rest : Text} (blank : Blank gap) (ends : EndsNumber rest) :
    EndsNumber (gap ++ rest) := by
  cases gap with
  | nil => exact ends
  | cons p gap =>
    intro q first
    cases first
    have isBlank := blank p List.mem_cons_self
    simp only [Json.isBlank, Bool.or_eq_true, beq_iff_eq] at isBlank
    rcases isBlank with ((rfl | rfl) | rfl) | rfl <;> decide

theorem names_begin : ∀ entry ∈ names, 2 ≤ entry.1.length ∧ (entry.1.take 2).any CodePoint.isAsciiDigit = false := by
  decide

/-- No name is a beginning of the text of a number. -/
theorem named?_of_numeric {s : Text} (numeric : Numeric s) (position : Nat) (rest : Text) :
    named? ⟨position, s ++ rest⟩ = none := by
  obtain ⟨negative, first, more, rfl, digit⟩ := numeric
  rw [named?, Option.map_eq_none_iff, List.find?_eq_none]
  intro entry member begins
  replace begins : entry.1.isPrefixOf (signText negative ++ first :: more ++ rest) = true := begins
  obtain ⟨tail, shape⟩ := List.isPrefixOf_iff_prefix.mp begins
  obtain ⟨long, letters⟩ := names_begin entry member
  -- A digit is among the first two code points of a number, and no name has one there.
  have digits : ((signText negative ++ first :: more ++ rest).take 2).any CodePoint.isAsciiDigit = true := by
    cases negative <;> simp [signText, digit]
  rw [← shape, List.take_append_of_le_length long, letters] at digits
  cases digits

/-- How a text of a value begins: with nothing that could be skipped before it, or close a list. -/
def Opens (s : Text) : Prop :=
  ∃ p more, s = p :: more ∧ isBlank p = false ∧ p ≠ .char ']' ∧ p ≠ .char '\uFEFF'

theorem Opens.append {s : Text} (opens : Opens s) (rest : Text) : Opens (s ++ rest) := by
  obtain ⟨p, more, rfl, other⟩ := opens
  exact ⟨p, more ++ rest, rfl, other⟩

theorem Opens.stops {s : Text} (opens : Opens s) : ∀ p ∈ s.head?, isBlank p = false := by
  obtain ⟨p, more, rfl, solid, _⟩ := opens
  intro q first
  cases first
  exact solid

theorem opens_of_digit {p : CodePoint} (digit : p.isAsciiDigit = true) (more : Text) : Opens (p :: more) := by
  refine ⟨p, more, rfl, ?_, ?_, ?_⟩
  · rw [Bool.eq_false_iff]
    intro blank
    simp only [isBlank, Bool.or_eq_true, beq_iff_eq] at blank
    rcases blank with ((rfl | rfl) | rfl) | rfl <;> exact absurd digit (by decide)
  · rintro rfl
    exact absurd digit (by decide)
  · rintro rfl
    exact absurd digit (by decide)

theorem opens_of_char {c : Char} (solid : isBlank (.char c) = false) (other : c ≠ ']' ∧ c ≠ '\uFEFF')
    (more : Text) : Opens (.char c :: more) := ⟨_, more, rfl, solid, by simpa using other⟩

theorem Numeric.opens {s : Text} (numeric : Numeric s) : Opens s := by
  obtain ⟨negative, p, more, rfl, digit⟩ := numeric
  cases negative with
  | true => exact opens_of_char rfl (by decide) (p :: more)
  | false => exact opens_of_digit digit more

theorem Written.opens {v : Json} {s : Text} (written : Written v s) : Opens s := by
  cases written with
  | null => exact opens_of_char rfl (by decide) _
  | bool b => cases b <;> exact opens_of_char rfl (by decide) _
  | int printable => exact (numeric_ofInt _).opens
  | nan => exact opens_of_char rfl (by decide) _
  | infinite negative => cases negative <;> exact opens_of_char rfl (by decide) _
  | decimal d => exact d.numeric_text.opens
  | text unsplit => exact opens_of_char rfl (by decide) _
  | emptyList => exact opens_of_char rfl (by decide) _
  | list blank inner => exact opens_of_char rfl (by decide) _
  | emptyObject => exact opens_of_char rfl (by decide) _
  | object blank inner distinct => exact opens_of_char rfl (by decide) _

theorem WrittenItems.opens {items : List Json} {s : Text} (written : WrittenItems items s) : Opens s := by
  cases written with
  | last only blank => exact only.opens.append _
  | next first blank others => exact first.opens.append _

theorem stringFrom_literal {asciiOnly : Bool} (position : Nat) {t : Text} (rest : Text)
    (unsplit : asciiOnly = true → Unsplit t) :
    ∃ inner, literal asciiOnly t ++ rest = .char '"' :: inner ∧
      stringFrom position (position + 1) 0 inner = .ok (t, ⟨position + (literal asciiOnly t).length, rest⟩) := by
  refine ⟨t.flatMap (escapePoint asciiOnly) ++ .char '"' :: rest, by simp [literal], ?_⟩
  rw [stringFrom_escaped rest unsplit]
  simp only [literal, List.length_append, List.length_cons, List.length_nil]
  congr 3
  omega

/-- A list whose bracket is followed by something else than its end. -/
theorem value_list {depth position fuel : Nat} {gap inner : Text} (blank : Blank gap) (opens : Opens inner) :
    value (depth + 1) ⟨position, .char '[' :: (gap ++ inner)⟩ (fuel + 1) =
      (items depth ⟨position + 1 + gap.length, inner⟩ fuel).map fun (items, after) => (list items, after) := by
  have skipped := Place.skipBlanks_append (position + 1) blank opens.stops
  obtain ⟨p, more, rfl, _, notClose, _⟩ := opens
  simp only [value, Place.skip_cons, skipped]
  split
  · rename_i same
    exact absurd (List.cons.inj same).1 notClose
  · rfl

theorem value_object {depth position fuel : Nat} {gap inner : Text} (blank : Blank gap) :
    value (depth + 1) ⟨position, .char '\x7b' :: (gap ++ .char '"' :: inner)⟩ (fuel + 1) =
      (members depth [] ⟨position + 1 + gap.length, .char '"' :: inner⟩ fuel).map
        fun (members, after) => (object members, after) := by
  have skipped := Place.skipBlanks_append (position + 1) blank
    (opens_of_char (c := '"') rfl (by decide) inner).stops
  simp only [value, Place.skip_cons, skipped]
  rfl

theorem endsNumber_of_char {c : Char} (rest : Text)
    (ends : (CodePoint.char c).isAsciiDigit = false ∧ c ≠ '.' ∧ c ≠ 'e' ∧ c ≠ 'E') : EndsNumber (.char c :: rest) := by
  intro p first
  cases first
  simpa using ends

theorem Place.skipBlanks_of_char (position : Nat) {c : Char} (solid : isBlank (.char c) = false) (rest : Text) :
    (Place.mk position (.char c :: rest)).skipBlanks = ⟨position, .char c :: rest⟩ :=
  Place.skipBlanks_append position blank_nil (by simpa using solid)

/-- A value at the head of a text is read if there is fuel for it and it does not go too deep, and the place after it
is reached. -/
def Reads (v : Json) (s : Text) : Prop :=
  ∀ (depth position fuel : Nat) (rest : Text), Shallow depth v → EndsNumber rest → 2 * s.length ≤ fuel →
    value depth ⟨position, s ++ rest⟩ fuel = .ok (v, ⟨position + s.length, rest⟩)

def ReadsItems (read : List Json) (s : Text) : Prop :=
  ∀ (depth position fuel : Nat) (rest : Text), (∀ item ∈ read, Shallow depth item) → 2 * s.length < fuel →
    items depth ⟨position, s ++ .char ']' :: rest⟩ fuel = .ok (read, ⟨position + s.length + 1, rest⟩)

def ReadsMembers (added : List (Text × Json)) (s : Text) : Prop :=
  ∀ (depth position fuel : Nat) (rest : Text) (read : List (Text × Json)),
    (∀ entry ∈ added, Shallow depth entry.2) → 2 * s.length < fuel → ((read ++ added).map Prod.fst).Nodup →
    members depth read ⟨position, s ++ .char '\x7d' :: rest⟩ fuel =
      .ok (read ++ added, ⟨position + s.length + 1, rest⟩)

theorem exists_fuel {s : Text} {fuel : Nat} (opens : Opens s) (enough : 2 * s.length ≤ fuel) :
    ∃ less, fuel = less + 1 ∧ 2 * s.length ≤ less + 1 := by
  obtain ⟨p, more, rfl, _⟩ := opens
  rw [List.length_cons] at enough
  exact ⟨fuel - 1, by omega, by rw [List.length_cons]; omega⟩

theorem reads_null : Reads null "null" := by
  intro depth position fuel rest _ _ enough
  obtain ⟨less, rfl, _⟩ := exists_fuel Written.null.opens enough
  rfl

theorem reads_bool (b : Bool) : Reads (bool b) (if b then "true" else "false") := by
  intro depth position fuel rest _ _ enough
  obtain ⟨less, rfl, _⟩ := exists_fuel (Written.bool b).opens enough
  cases b <;> rfl

/-- Where a number stands, its value is read. -/
theorem reads_numeric {v : Json} {s : Text} (numeric : Numeric s)
    (read : ∀ (place : Place) (rest : Text), place.rest = s ++ rest → EndsNumber rest →
      number place = .ok (v, place.skip s.length)) : Reads v s := by
  intro depth position fuel rest _ ends enough
  obtain ⟨less, rfl, _⟩ := exists_fuel numeric.opens enough
  have unnamed := named?_of_numeric numeric position rest
  have found := read ⟨position, s ++ rest⟩ rest rfl ends
  have apart (c : Char) (other : (CodePoint.char c).isAsciiDigit = false ∧ c ≠ '-') (tail : Text) :
      s ++ rest ≠ .char c :: tail := by
    obtain ⟨negative, p, more, rfl, digit⟩ := numeric
    intro same
    cases negative with
    | true => exact other.2 (CodePoint.char.inj (List.cons.inj same).1).symm
    | false =>
      obtain rfl := (List.cons.inj same).1
      rw [other.1] at digit
      cases digit
  rw [Place.skip_append] at found
  simp only [value]
  split
  · exact absurd ‹_› (apart '"' (by decide) _)
  · exact absurd ‹_› (apart '\x7b' (by decide) _)
  · exact absurd ‹_› (apart '[' (by decide) _)
  · rw [unnamed]
    exact found

theorem reads_int {n : Int} (printable : Printable n) : Reads (int n) (Text.ofInt n) :=
  reads_numeric (numeric_ofInt n) fun place _ start ends => number_ofInt place start printable ends

theorem reads_decimal (d : Decimal) : Reads (float d.value) d.text :=
  reads_numeric d.numeric_text fun _ _ start ends => d.number_text start ends

theorem reads_nan : Reads (float .nan) "NaN" := by
  intro depth position fuel rest _ _ enough
  obtain ⟨less, rfl, _⟩ := exists_fuel Written.nan.opens enough
  rfl

theorem reads_infinite (negative : Bool) :
    Reads (float (.infinite negative)) (if negative then "-Infinity" else "Infinity") := by
  intro depth position fuel rest _ _ enough
  obtain ⟨less, rfl, _⟩ := exists_fuel (Written.infinite negative).opens enough
  cases negative <;> rfl

theorem reads_text {t : Text} {asciiOnly : Bool} (unsplit : asciiOnly = true → Unsplit t) :
    Reads (text t) (literal asciiOnly t) := by
  intro depth position fuel rest _ _ enough
  obtain ⟨less, rfl, _⟩ := exists_fuel (Written.text unsplit).opens enough
  obtain ⟨inner, shape, read⟩ := stringFrom_literal position rest unsplit
  rw [shape]
  simp only [value, read]
  rfl

theorem reads_emptyList : Reads (list []) [.char '[', .char ']'] := by
  intro depth position fuel rest shallow _ enough
  obtain ⟨less, rfl, _⟩ := exists_fuel Written.emptyList.opens enough
  cases shallow with
  | list each => rfl

theorem reads_emptyObject : Reads (object []) [.char '\x7b', .char '\x7d'] := by
  intro depth position fuel rest shallow _ enough
  obtain ⟨less, rfl, _⟩ := exists_fuel Written.emptyObject.opens enough
  cases shallow with
  | object each => rfl

theorem reads_list {items : List Json} {gap s : Text} (blank : Blank gap) (opens : Opens s)
    (reads : ReadsItems items s) : Reads (list items) (.char '[' :: (gap ++ (s ++ [.char ']']))) := by
  intro depth position fuel rest shallow _ enough
  cases shallow with
  | @list depth _ each =>
  simp only [List.length_cons, List.length_append, List.length_nil] at enough
  obtain ⟨less, rfl⟩ : ∃ less, fuel = less + 1 := ⟨fuel - 1, by omega⟩
  have inner := reads depth (position + 1 + gap.length) less rest each (by omega)
  have shape : (.char '[' :: (gap ++ (s ++ [.char ']']))) ++ rest =
      (.char '[' :: (gap ++ (s ++ .char ']' :: rest)) : Text) := by simp
  rw [shape, value_list blank (opens.append _), inner]
  simp only [Except.map, List.length_cons, List.length_append, List.length_nil]
  congr 3
  omega

theorem readsItems_last {item : Json} {s gap : Text} (reads : Reads item s) (blank : Blank gap) :
    ReadsItems [item] (s ++ gap) := by
  intro depth position fuel rest shallow enough
  rw [List.length_append] at enough
  obtain ⟨less, rfl⟩ : ∃ less, fuel = less + 1 := ⟨fuel - 1, by omega⟩
  have ends : EndsNumber (gap ++ .char ']' :: rest) :=
    endsNumber_of_blank blank (endsNumber_of_char rest (by decide))
  have first := reads depth position less _ (shallow item List.mem_cons_self) ends (by omega)
  have stops : ∀ p ∈ (CodePoint.char ']' :: rest : Text).head?, isBlank p = false := by simp [isBlank]
  have skipped := Place.skipBlanks_append (position + s.length) blank stops
  rw [List.append_assoc, items, first]
  simp only [bind, Except.bind, skipped, Place.skip_cons, pure, Except.pure, List.length_append, Nat.add_assoc]

theorem readsItems_next {item : Json} {items : List Json} {s gap more : Text} (reads : Reads item s)
    (blank : Blank gap) (opens : Opens more) (others : ReadsItems items more) :
    ReadsItems (item :: items) (s ++ (.char ',' :: (gap ++ more))) := by
  intro depth position fuel rest shallow enough
  simp only [List.length_append, List.length_cons] at enough
  obtain ⟨less, rfl⟩ : ∃ less, fuel = less + 1 := ⟨fuel - 1, by omega⟩
  have first := reads depth position less _ (shallow item List.mem_cons_self)
    (endsNumber_of_char (c := ',') (gap ++ (more ++ .char ']' :: rest)) (by decide)) (by omega)
  have comma := Place.skipBlanks_of_char (position + s.length) (c := ',') rfl
    (gap ++ (more ++ .char ']' :: rest))
  have skipped := Place.skipBlanks_append (position + s.length + 1) blank
    (opens.append (.char ']' :: rest)).stops
  have tail := others depth (position + s.length + 1 + gap.length) less rest
    (fun later member => shallow later (List.mem_cons_of_mem _ member)) (by omega)
  rw [List.append_assoc, List.cons_append, List.append_assoc, Json.items, first]
  simp only [bind, Except.bind, comma, Place.skip_cons, skipped, tail, pure, Except.pure]
  simp only [List.length_append, List.length_cons]
  congr 3
  omega

/-- The key of a member and its value, up to what follows the value. -/
theorem readsMembers_entry {key : Text} {member : Json} {asciiOnly : Bool} {colon s tail : Text}
    {depth position fuel : Nat} {read : List (Text × Json)} (unsplit : asciiOnly = true → Unsplit key)
    (blankColon : Blank colon) (opens : Opens s) (reads : Reads member s) (shallow : Shallow depth member)
    (ends : EndsNumber tail) (enough : 2 * s.length ≤ fuel) :
    members depth read ⟨position, literal asciiOnly key ++ (.char ':' :: (colon ++ (s ++ tail)))⟩ (fuel + 1) =
      (let after := (Place.mk (position + (literal asciiOnly key).length + 1 + colon.length + s.length) tail).skipBlanks
      match after.rest with
      | .char '\x7d' :: _ => .ok (setMember key member read, after.skip 1)
      | .char ',' :: _ => members depth (setMember key member read) (after.skip 1).skipBlanks fuel
      | _ => fail .comma after.position) := by
  obtain ⟨inner, shape, name⟩ := stringFrom_literal position
    (.char ':' :: (colon ++ (s ++ tail))) unsplit
  have mark := Place.skipBlanks_of_char (position + (literal asciiOnly key).length) (c := ':') rfl
    (colon ++ (s ++ tail))
  have skipped := Place.skipBlanks_append (position + (literal asciiOnly key).length + 1) blankColon
    (opens.append tail).stops
  have found := reads depth (position + (literal asciiOnly key).length + 1 + colon.length) fuel tail shallow ends enough
  rw [shape, members]
  simp only [name, bind, Except.bind, mark, Place.skip_cons, skipped, found]
  rfl

theorem readsMembers_last {key : Text} {member : Json} {asciiOnly : Bool} {colon s gap : Text}
    (unsplit : asciiOnly = true → Unsplit key) (blankColon : Blank colon) (opens : Opens s)
    (reads : Reads member s) (blank : Blank gap) :
    ReadsMembers [(key, member)] (literal asciiOnly key ++ (.char ':' :: (colon ++ (s ++ gap)))) := by
  intro depth position fuel rest read shallow enough distinct
  simp only [List.length_append, List.length_cons] at enough
  obtain ⟨less, rfl⟩ : ∃ less, fuel = less + 1 := ⟨fuel - 1, by omega⟩
  have absent : key ∉ read.map Prod.fst := by
    rw [List.map_append, List.nodup_append] at distinct
    exact fun member => distinct.2.2 key member key (by simp) rfl
  have shape : literal asciiOnly key ++ (.char ':' :: (colon ++ (s ++ gap))) ++ (.char '\x7d' :: rest) =
      literal asciiOnly key ++ (.char ':' :: (colon ++ (s ++ (gap ++ .char '\x7d' :: rest)))) := by simp
  rw [shape, readsMembers_entry unsplit blankColon opens reads (shallow (key, member) List.mem_cons_self)
    (endsNumber_of_blank blank (endsNumber_of_char rest (by decide))) (by omega),
    Place.skipBlanks_append _ blank (by simp [isBlank]), setMember_of_not_mem absent]
  simp only [Place.skip_cons, List.length_append, List.length_cons]
  congr 3
  omega

theorem readsMembers_next {key : Text} {member : Json} {asciiOnly : Bool} {members : List (Text × Json)}
    {colon s gap more : Text} (unsplit : asciiOnly = true → Unsplit key) (blankColon : Blank colon) (opens : Opens s)
    (reads : Reads member s) (blank : Blank gap) (opensMore : Opens more) (others : ReadsMembers members more) :
    ReadsMembers ((key, member) :: members)
      (literal asciiOnly key ++ (.char ':' :: (colon ++ (s ++ (.char ',' :: (gap ++ more)))))) := by
  intro depth position fuel rest read shallow enough distinct
  simp only [List.length_append, List.length_cons] at enough
  obtain ⟨less, rfl⟩ : ∃ less, fuel = less + 1 := ⟨fuel - 1, by omega⟩
  have absent : key ∉ read.map Prod.fst := by
    rw [List.map_append, List.nodup_append] at distinct
    exact fun member => distinct.2.2 key member key (by simp) rfl
  have gathered : read ++ (key, member) :: members = (read ++ [(key, member)]) ++ members := by simp
  have shape : literal asciiOnly key ++ (.char ':' :: (colon ++ (s ++ (.char ',' :: (gap ++ more))))) ++
      (.char '\x7d' :: rest) = literal asciiOnly key ++
        (.char ':' :: (colon ++ (s ++ (.char ',' :: (gap ++ (more ++ .char '\x7d' :: rest)))))) := by
    simp
  rw [gathered] at distinct ⊢
  rw [shape, readsMembers_entry unsplit blankColon opens reads (shallow (key, member) List.mem_cons_self)
    (endsNumber_of_char _ (by decide)) (by omega), Place.skipBlanks_of_char _ rfl, setMember_of_not_mem absent]
  simp only [Place.skip_cons]
  rw [Place.skipBlanks_append _ blank (opensMore.append (.char '\x7d' :: rest)).stops,
    others _ _ _ _ _ (fun entry later => shallow entry (List.mem_cons_of_mem _ later)) (by omega) distinct]
  simp only [List.length_append, List.length_cons]
  congr 3
  omega

theorem reads_object {members : List (Text × Json)} {gap s : Text} (blank : Blank gap)
    (quote : ∃ more, s = .char '"' :: more) (reads : ReadsMembers members s)
    (distinct : (members.map Prod.fst).Nodup) :
    Reads (object members) (.char '\x7b' :: (gap ++ (s ++ [.char '\x7d']))) := by
  intro depth position fuel rest shallow _ enough
  cases shallow with
  | @object depth _ each =>
  simp only [List.length_cons, List.length_append, List.length_nil] at enough
  obtain ⟨less, rfl⟩ : ∃ less, fuel = less + 1 := ⟨fuel - 1, by omega⟩
  have inner := reads depth (position + 1 + gap.length) less rest [] each (by omega) distinct
  have shape : (.char '\x7b' :: (gap ++ (s ++ [.char '\x7d']))) ++ rest =
      (.char '\x7b' :: (gap ++ (s ++ .char '\x7d' :: rest)) : Text) := by simp
  obtain ⟨more, rfl⟩ := quote
  rw [List.cons_append] at inner
  rw [shape, List.cons_append, value_object blank, inner]
  simp only [Except.map, List.nil_append, List.length_cons, List.length_append, List.length_nil]
  congr 3
  omega

theorem WrittenMembers.quote {members : List (Text × Json)} {s : Text} (written : WrittenMembers members s) :
    ∃ more, s = .char '"' :: more := by
  cases written with
  | last unsplit blankColon only blank => exact ⟨_, rfl⟩
  | next unsplit blankColon first blank others => exact ⟨_, rfl⟩

theorem WrittenMembers.opens {members : List (Text × Json)} {s : Text} (written : WrittenMembers members s) :
    Opens s := by
  obtain ⟨more, rfl⟩ := written.quote
  exact opens_of_char rfl (by decide) more

mutual

/-- Every text of a value is read as that value. -/
theorem Written.reads {v : Json} {s : Text} : Written v s → Reads v s
  | .null => reads_null
  | .bool b => reads_bool b
  | .int printable => reads_int printable
  | .nan => reads_nan
  | .infinite negative => reads_infinite negative
  | .decimal d => reads_decimal d
  | .text unsplit => reads_text unsplit
  | .emptyList => reads_emptyList
  | .list blank inner => reads_list blank inner.opens inner.reads
  | .emptyObject => reads_emptyObject
  | .object blank inner distinct => reads_object blank inner.quote inner.reads distinct

theorem WrittenItems.reads {items : List Json} {s : Text} : WrittenItems items s → ReadsItems items s
  | .last only blank => readsItems_last only.reads blank
  | .next first blank others => readsItems_next first.reads blank others.opens others.reads

theorem WrittenMembers.reads {members : List (Text × Json)} {s : Text} :
    WrittenMembers members s → ReadsMembers members s
  | .last unsplit blankColon only blank => readsMembers_last unsplit blankColon only.opens only.reads blank
  | .next unsplit blankColon first blank others =>
    readsMembers_next unsplit blankColon first.opens first.reads blank others.opens others.reads

end

/-- A whole text of a value that does not go too deep, with blanks after it, parses to that value. -/
theorem parse_of_written {v : Json} {s gap : Text} (written : Written v s) (shallow : Shallow nestingLimit v)
    (blank : Blank gap) : parse (s ++ gap) = .ok v := by
  have ends : EndsNumber gap := by
    rw [← List.append_nil gap]
    exact endsNumber_of_blank blank (by simp [EndsNumber])
  have found := written.reads nestingLimit 0 (2 * (s ++ gap).length + 2) gap shallow ends
    (by rw [List.length_append]; omega)
  have start := Place.skipBlanks_append 0 blank_nil (written.opens.append gap).stops
  have last : (Place.mk (0 + s.length) (gap ++ [])).skipBlanks = ⟨0 + s.length + gap.length, []⟩ :=
    Place.skipBlanks_append _ blank (by simp)
  have noMark : (s ++ gap).head? ≠ some (.char '\uFEFF') := by
    obtain ⟨p, more, rfl, _, _, other⟩ := written.opens
    simpa using other
  rw [List.nil_append] at start
  rw [List.append_nil] at last
  rw [parse, if_neg noMark, start]
  simp only [List.length_nil, Nat.add_zero, found, bind, Except.bind, last]
  rfl

end ProxyControl.Json
