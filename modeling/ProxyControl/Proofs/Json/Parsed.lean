import ProxyControl.Proofs.Json.Literal
import ProxyControl.Proofs.Json.Members
import ProxyControl.Proofs.Json.Numeral
import ProxyControl.Proofs.Outcome
import ProxyControl.Validation.Datum

namespace ProxyControl

/-- Every integer and every text in a datum meets a condition. The keys of a mapping do not count. -/
inductive Datum.Each (onInt : Int → Prop) (onText : Text → Prop) : Datum → Prop
  | none : Each onInt onText none
  | bool (b : Bool) : Each onInt onText (bool b)
  | int {n : Int} (meets : onInt n) : Each onInt onText (int n)
  | float (x : Binary64) : Each onInt onText (float x)
  | text {t : Text} (meets : onText t) : Each onInt onText (text t)
  | list {items : List Datum} (each : ∀ item ∈ items, Each onInt onText item) : Each onInt onText (list items)
  | mapping {entries : List (Datum × Datum)} (each : ∀ entry ∈ entries, Each onInt onText entry.2) :
      Each onInt onText (mapping entries)

namespace Json

theorem mem_itemsToData {items : List Json} {d : Datum} :
    d ∈ itemsToData items ↔ ∃ item ∈ items, item.toDatum = d := by
  induction items with
  | nil => simp [itemsToData]
  | cons item items ih => simp [itemsToData, ih, eq_comm]

theorem mem_membersToData {members : List (Text × Json)} {entry : Datum × Datum} :
    entry ∈ membersToData members ↔ ∃ member ∈ members, (Datum.text member.1, member.2.toDatum) = entry := by
  induction members with
  | nil => simp [membersToData]
  | cons member members ih =>
    obtain ⟨key, value⟩ := member
    simp [membersToData, ih, eq_comm]

theorem foldl_digits_lt (digits : Text) (start : Nat) (all : ∀ p ∈ digits, p.isAsciiDigit = true) :
    digits.foldl (fun n p => n * 10 + p.digitValue) start < (start + 1) * Nat.pow 10 digits.length := by
  induction digits generalizing start with
  | nil => exact Nat.lt_of_lt_of_eq (Nat.lt_succ_self start) (Nat.mul_one _).symm
  | cons p digits ih =>
    have digit := (CodePoint.isAsciiDigit_iff p).mp (all p List.mem_cons_self)
    have small : p.digitValue < 10 := by
      simp only [CodePoint.digitValue]
      omega
    have rest := ih (start * 10 + p.digitValue) fun q member => all q (List.mem_cons_of_mem _ member)
    rw [List.foldl_cons, List.length_cons]
    calc _ < (start * 10 + p.digitValue + 1) * Nat.pow 10 digits.length := rest
      _ ≤ ((start + 1) * 10) * Nat.pow 10 digits.length := Nat.mul_le_mul_right _ (by omega)
      _ = (start + 1) * (Nat.pow 10 digits.length * 10) := by rw [Nat.mul_assoc, Nat.mul_comm 10]

theorem printable_of_digits {digits : Text} (all : ∀ p ∈ digits, p.isAsciiDigit = true)
    (limit : digits.length ≤ digitLimit) (negative : Bool) :
    Printable (if negative then -(digitsValue digits : Int) else digitsValue digits) := by
  have value := foldl_digits_lt digits 0 all
  have bound : digitsValue digits < Nat.pow 10 digitLimit := by
    calc digitsValue digits < (0 + 1) * Nat.pow 10 digits.length := value
      _ ≤ Nat.pow 10 digitLimit := by
        rw [Nat.zero_add, Nat.one_mul]
        exact pow_ten_le limit
  cases negative with
  | true => simpa [Printable] using bound
  | false => simpa [Printable] using bound

theorem isAsciiDigit_of_mem_wholePart {body : Text} : ∀ p ∈ wholePart body, p.isAsciiDigit = true := by
  intro p member
  unfold wholePart at member
  split at member
  · obtain rfl := List.mem_singleton.mp member
    rfl
  · exact List.all_eq_true.mp List.all_takeWhile p member

/-- An integer that was read has no more digits than the limit allows. -/
theorem number_each {place after : Place} {v : Json} {onText : Text → Prop} (run : number place = .ok (v, after)) :
    v.toDatum.Each Printable onText ∧ ∃ n, after = place.skip n := by
  unfold number at run
  extract_lets negative body whole signLength afterWhole part partLength exponent exponentLength last at run
  split at run
  · cases run
  split at run
  · split at run
    · cases run
    · rename_i limit
      simp only [Except.ok.injEq, Prod.mk.injEq] at run
      obtain ⟨rfl, same⟩ := run
      exact ⟨.int (printable_of_digits isAsciiDigit_of_mem_wholePart (Nat.not_lt.mp limit) negative), _, same.symm⟩
  · simp only [Except.ok.injEq, Prod.mk.injEq] at run
    obtain ⟨rfl, same⟩ := run
    exact ⟨.float _, _, same.symm⟩

theorem named?_each {place after : Place} {v : Json} {onText : Text → Prop} (found : named? place = some (v, after)) :
    v.toDatum.Each Printable onText ∧ ∃ n, after = place.skip n := by
  rw [named?, Option.map_eq_some_iff] at found
  obtain ⟨⟨name, named⟩, entry, same⟩ := found
  simp only [Prod.mk.injEq] at same
  obtain ⟨rfl, same⟩ := same
  refine ⟨?_, _, same.symm⟩
  have member := List.mem_of_find?_eq_some entry
  simp only [names, List.mem_cons, Prod.mk.injEq, List.not_mem_nil, or_false] at member
  rcases member with ⟨_, rfl⟩ | ⟨_, rfl⟩ | ⟨_, rfl⟩ | ⟨_, rfl⟩ | ⟨_, rfl⟩ | ⟨_, rfl⟩
  · exact .none
  · exact .bool true
  · exact .bool false
  · exact .float _
  · exact .float _
  · exact .float _

/-- How one code point of a string is spelled by `p` and what follows it, and how many code points of that
are still to be passed. -/
inductive Spelled (p : CodePoint) (s : Text) : CodePoint → Nat → Prop
  | plain (notBackslash : p ≠ .char '\\') : Spelled p s p 0
  | short {c q : CodePoint} {rest : Text} (shape : s = c :: rest) (meant : simpleEscape? c = some q) : Spelled p s q 1
  | unit {digits : Text} {unit : Nat} (backslash : p = .char '\\') (shape : s = .char 'u' :: digits)
      (value : hexUnit? digits = some unit) (long : 4 < digits.length)
      (alone : isHighSurrogate unit = true → lowHalf? (digits.drop 4) = none) : Spelled p s (.ofNat unit) 5
  | pair {digits : Text} {high low : Nat} (shape : s = .char 'u' :: digits) (value : hexUnit? digits = some high)
      (isHigh : isHighSurrogate high = true) (half : lowHalf? (digits.drop 4) = some low) :
      Spelled p s (.ofNat (0x10000 + (high - 0xD800) * 0x400 + (low - 0xDC00))) 11

/-- All that reading one more code point of a string can do. -/
theorem stringFrom_cons {opening position skip : Nat} {p : CodePoint} {s t : Text} {after : Place}
    (run : stringFrom opening position skip (p :: s) = .ok (t, after)) :
    (∃ less, skip = less + 1 ∧ stringFrom opening (position + 1) less s = .ok (t, after)) ∨
    skip = 0 ∧ ((t = [] ∧ after = ⟨position + 1, s⟩) ∨
      ∃ q more passed, t = q :: more ∧ Spelled p s q passed ∧
        stringFrom opening (position + 1) passed s = .ok (more, after)) := by
  cases skip with
  | succ less =>
    rw [stringFrom] at run
    exact .inl ⟨less, rfl, run⟩
  | zero =>
    refine .inr ⟨rfl, ?_⟩
    have read {q : CodePoint} {passed : Nat} (spelled : Spelled p s q passed)
        (run : (do
          let found ← stringFrom opening (position + 1) passed s
          return (q :: found.1, found.2)) = (.ok (t, after) : Read (Text × Place))) :
        ∃ q more passed, t = q :: more ∧ Spelled p s q passed ∧
          stringFrom opening (position + 1) passed s = .ok (more, after) := by
      obtain ⟨⟨more, place⟩, inner, same⟩ := bind_eq_ok.mp run
      cases same
      exact ⟨q, more, passed, rfl, spelled, inner⟩
    rw [stringFrom.eq_def] at run
    simp only at run
    split at run
    · cases run
      exact .inl ⟨rfl, rfl⟩
    right
    split at run
    · rename_i backslash
      split at run
      · cases run
      · split at run
        · cases run
        rename_i value
        split at run
        · cases run
        rename_i long
        split at run
        · rename_i half
          split at half
          · exact read (.pair rfl value ‹_› half) run
          · cases half
        · rename_i alone
          refine read (.unit backslash rfl value (Nat.lt_of_not_le long) fun high => ?_) run
          rwa [if_pos high] at alone
      · split at run
        · cases run
        · exact read (.short rfl ‹_›) run
    · rename_i notBackslash
      split at run
      · cases run
      · exact read (.plain notBackslash) run

/-- Reading a string ends further on in the text. -/
theorem stringFrom_rest {opening position skip : Nat} {s t : Text} {after : Place}
    (run : stringFrom opening position skip s = .ok (t, after)) : ∃ n, after.rest = s.drop n := by
  induction s generalizing position skip t with
  | nil =>
    rw [stringFrom] at run
    cases run
  | cons p s ih =>
    rcases stringFrom_cons run with ⟨less, _, inner⟩ | ⟨_, ⟨_, rfl⟩ | ⟨q, more, passed, _, _, inner⟩⟩
    · obtain ⟨n, shape⟩ := ih inner
      exact ⟨n + 1, by rw [shape, List.drop_succ_cons]⟩
    · exact ⟨1, rfl⟩
    · obtain ⟨n, shape⟩ := ih inner
      exact ⟨n + 1, by rw [shape, List.drop_succ_cons]⟩

theorem hexValue?_lt {p : CodePoint} {n : Nat} (value : p.hexValue? = some n) : n < 16 := by
  simp only [CodePoint.hexValue?] at value
  split at value
  · cases value
    omega
  split at value
  · cases value
    omega
  split at value
  · cases value
    omega
  · cases value

theorem hexUnit?_lt {digits : Text} {unit : Nat} (value : hexUnit? digits = some unit) : unit < 0x10000 := by
  unfold hexUnit? at value
  split at value
  · simp only [Option.bind_eq_bind, Option.bind_eq_some_iff, Option.pure_def, Option.some.injEq] at value
    obtain ⟨a, first, b, second, c, third, d, fourth, rfl⟩ := value
    have := hexValue?_lt first
    have := hexValue?_lt second
    have := hexValue?_lt third
    have := hexValue?_lt fourth
    omega
  · cases value

theorem lowHalf?_isLow {s : Text} {low : Nat} (half : lowHalf? s = some low) : isLowSurrogate low = true := by
  unfold lowHalf? at half
  split at half
  · split at half
    · split at half
      · rename_i isLow
        cases half
        exact isLow.1
      · cases half
    · cases half
  · cases half

/-- A code point beyond the 16 bit units is no half of a pair. -/
theorem toNat_pair {high low : Nat} (isHigh : isHighSurrogate high = true) (isLow : isLowSurrogate low = true) :
    0x10000 ≤ (CodePoint.ofNat (0x10000 + (high - 0xD800) * 0x400 + (low - 0xDC00))).toNat := by
  rw [isHighSurrogate_iff] at isHigh
  rw [isLowSurrogate_iff] at isLow
  rw [CodePoint.toNat_ofNat (by omega)]
  omega

theorem Spelled.not_pair_of_high {p q : CodePoint} {s : Text} {passed : Nat} (spelled : Spelled p s q passed)
    (scalar : Text.isScalar p = true) (high : isHighSurrogate q.toNat = true) : lowHalf? (s.drop passed) = none := by
  cases spelled with
  | plain notBackslash =>
    rw [CodePoint.isScalar_iff] at scalar
    rw [isHighSurrogate_iff] at high
    omega
  | short shape meant =>
    have := simpleEscape?_lt meant
    rw [isHighSurrogate_iff] at high
    omega
  | unit backslash shape value long alone =>
    have bound := hexUnit?_lt value
    rw [CodePoint.toNat_ofNat (by omega)] at high
    rw [shape]
    exact alone high
  | pair shape value isHigh half =>
    have := toNat_pair isHigh (lowHalf?_isLow half)
    rw [isHighSurrogate_iff] at high
    omega

theorem Spelled.half_of_low {p q : CodePoint} {s : Text} {passed : Nat} (spelled : Spelled p s q passed)
    (scalar : Text.isScalar p = true) (low : isLowSurrogate q.toNat = true) : lowHalf? (p :: s) ≠ none := by
  cases spelled with
  | plain notBackslash =>
    rw [CodePoint.isScalar_iff] at scalar
    rw [isLowSurrogate_iff] at low
    omega
  | short shape meant =>
    have := simpleEscape?_lt meant
    rw [isLowSurrogate_iff] at low
    omega
  | unit backslash shape value long alone =>
    have bound := hexUnit?_lt value
    rw [CodePoint.toNat_ofNat (by omega)] at low
    rw [backslash, shape, lowHalf?, value]
    simp [low, long]
  | pair shape value isHigh half =>
    have := toNat_pair isHigh (lowHalf?_isLow half)
    rw [isLowSurrogate_iff] at low
    omega

/-- A text of Unicode characters spells no split pairs, since escapes that spell one are read as one code
point. Here `skip` code points are still to be passed, and what follows them begins with a low surrogate only if
its escape stands there. -/
theorem stringFrom_unsplit {opening position skip : Nat} {s t : Text} {after : Place} (unicode : s.IsUnicode)
    (run : stringFrom opening position skip s = .ok (t, after)) :
    Unsplit t ∧ ∀ q ∈ t.head?, isLowSurrogate q.toNat = true → lowHalf? (s.drop skip) ≠ none := by
  induction s generalizing position skip t with
  | nil =>
    rw [stringFrom] at run
    cases run
  | cons p s ih =>
    rcases stringFrom_cons run with ⟨less, rfl, inner⟩ | ⟨rfl, ⟨rfl, _⟩ | ⟨q, more, passed, rfl, spelled, inner⟩⟩
    · exact ih unicode.tail inner
    · exact ⟨List.IsChain.nil, by simp⟩
    · have scalar := unicode p List.mem_cons_self
      obtain ⟨unsplit, follows⟩ := ih unicode.tail inner
      refine ⟨?_, ?_⟩
      · cases more with
        | nil => exact List.IsChain.singleton _
        | cons next more =>
          refine List.IsChain.cons_cons ?_ unsplit
          rw [Bool.eq_false_iff]
          intro pair
          obtain ⟨high, low⟩ := (isSplitPair_iff q next).mp pair
          exact follows next rfl low (spelled.not_pair_of_high scalar high)
      · intro first same low
        cases same
        exact spelled.half_of_low scalar low

section

variable {onSource onText : Text → Prop}

/-- What reading keeps: if all ends of the source meet a condition that makes its strings meet another one, then
every text that was read meets that one, and every integer can be printed. -/
structure Keeps (onSource onText : Text → Prop) : Prop where
  drop : ∀ {s : Text} (n : Nat), onSource s → onSource (s.drop n)
  string : ∀ {opening position : Nat} {s t : Text} {after : Place},
    stringFrom opening position 0 s = .ok (t, after) → onSource s → onText t

theorem Keeps.skipBlanks (keeps : Keeps onSource onText) {place : Place} (start : onSource place.rest) :
    onSource place.skipBlanks.rest := keeps.drop _ start

theorem Keeps.skip (keeps : Keeps onSource onText) {place : Place} (n : Nat) (start : onSource place.rest) :
    onSource (place.skip n).rest := keeps.drop n start

theorem Keeps.readString (keeps : Keeps onSource onText) {place after : Place} {p : CodePoint} {s t : Text}
    (start : onSource place.rest) (shape : place.rest = p :: s)
    (run : stringFrom place.position (place.position + 1) 0 s = .ok (t, after)) : onText t ∧ onSource after.rest := by
  rw [shape] at start
  obtain ⟨n, rest⟩ := stringFrom_rest run
  exact ⟨keeps.string run (keeps.drop 1 start), rest ▸ keeps.drop n (keeps.drop 1 start)⟩

/-- What the three readers keep with some fuel. -/
structure ReadersKeep (onSource onText : Text → Prop) (fuel : Nat) : Prop where
  value : ∀ {depth : Nat} {place after : Place} {v : Json}, Json.value depth place fuel = .ok (v, after) →
    onSource place.rest → v.toDatum.Each Printable onText ∧ onSource after.rest
  items : ∀ {depth : Nat} {place after : Place} {read : List Json}, Json.items depth place fuel = .ok (read, after) →
    onSource place.rest → (∀ item ∈ read, item.toDatum.Each Printable onText) ∧ onSource after.rest
  members : ∀ {depth : Nat} {place after : Place} {before read : List (Text × Json)},
    Json.members depth before place fuel = .ok (read, after) → onSource place.rest →
    (∀ entry ∈ before, entry.2.toDatum.Each Printable onText) →
    (∀ entry ∈ read, entry.2.toDatum.Each Printable onText) ∧ onSource after.rest

theorem Keeps.value_succ (keeps : Keeps onSource onText) {fuel : Nat} (inner : ReadersKeep onSource onText fuel)
    {depth : Nat} {place after : Place} {v : Json} (run : value depth place (fuel + 1) = .ok (v, after))
    (start : onSource place.rest) : v.toDatum.Each Printable onText ∧ onSource after.rest := by
  simp only [value] at run
  split at run
  · rename_i shape
    obtain ⟨⟨t, place'⟩, string, same⟩ := bind_eq_ok.mp run
    cases same
    obtain ⟨meets, rest⟩ := keeps.readString start shape string
    exact ⟨.text meets, rest⟩
  · have inside := keeps.skipBlanks (keeps.skip 1 start)
    split at run
    · cases run
    split at run
    · cases run
      exact ⟨.mapping (by simp [membersToData]), keeps.skip 1 inside⟩
    · obtain ⟨⟨entries, place'⟩, read, same⟩ := bind_eq_ok.mp run
      cases same
      obtain ⟨all, rest⟩ := inner.members read inside (by simp)
      refine ⟨.mapping fun entry member => ?_, rest⟩
      obtain ⟨source, found, rfl⟩ := mem_membersToData.mp member
      exact all source found
  · have inside := keeps.skipBlanks (keeps.skip 1 start)
    split at run
    · cases run
    split at run
    · cases run
      exact ⟨.list (by simp [itemsToData]), keeps.skip 1 inside⟩
    · obtain ⟨⟨list, place'⟩, read, same⟩ := bind_eq_ok.mp run
      cases same
      obtain ⟨all, rest⟩ := inner.items read inside
      refine ⟨.list fun d member => ?_, rest⟩
      obtain ⟨source, found, rfl⟩ := mem_itemsToData.mp member
      exact all source found
  · split at run
    · cases run
      obtain ⟨holds, n, rfl⟩ := named?_each ‹_›
      exact ⟨holds, keeps.skip n start⟩
    · obtain ⟨holds, n, rfl⟩ := number_each run
      exact ⟨holds, keeps.skip n start⟩

theorem Keeps.items_succ (keeps : Keeps onSource onText) {fuel : Nat} (inner : ReadersKeep onSource onText fuel)
    {depth : Nat} {place after : Place} {read : List Json} (run : items depth place (fuel + 1) = .ok (read, after))
    (start : onSource place.rest) : (∀ item ∈ read, item.toDatum.Each Printable onText) ∧ onSource after.rest := by
  rw [items] at run
  obtain ⟨⟨item, place'⟩, first, run⟩ := bind_eq_ok.mp run
  obtain ⟨holds, rest⟩ := inner.value first start
  have later := keeps.skipBlanks rest
  simp only at run
  split at run
  · cases run
    exact ⟨by simpa using holds, keeps.skip 1 later⟩
  · obtain ⟨⟨more, last⟩, read, same⟩ := bind_eq_ok.mp run
    cases same
    obtain ⟨all, rest⟩ := inner.items read (keeps.skipBlanks (keeps.skip 1 later))
    refine ⟨fun entry member => ?_, rest⟩
    rcases List.mem_cons.mp member with rfl | old
    · exact holds
    · exact all entry old
  · cases run

theorem Keeps.members_succ (keeps : Keeps onSource onText) {fuel : Nat} (inner : ReadersKeep onSource onText fuel)
    {depth : Nat} {place after : Place} {before read : List (Text × Json)}
    (run : members depth before place (fuel + 1) = .ok (read, after)) (start : onSource place.rest)
    (each : ∀ entry ∈ before, entry.2.toDatum.Each Printable onText) :
    (∀ entry ∈ read, entry.2.toDatum.Each Printable onText) ∧ onSource after.rest := by
  rw [members] at run
  split at run
  · rename_i shape
    obtain ⟨⟨key, place'⟩, string, run⟩ := bind_eq_ok.mp run
    obtain ⟨-, rest⟩ := keeps.readString start shape string
    simp only at run
    split at run
    · obtain ⟨⟨value, place''⟩, found, run⟩ := bind_eq_ok.mp run
      obtain ⟨holds, rest⟩ := inner.value found (keeps.skipBlanks (keeps.skip 1 (keeps.skipBlanks rest)))
      have later := keeps.skipBlanks rest
      have all : ∀ entry ∈ setMember key value before, entry.2.toDatum.Each Printable onText := by
        intro entry member
        rcases mem_setMember member with rfl | old
        · exact holds
        · exact each entry old
      simp only at run
      split at run
      · cases run
        exact ⟨all, keeps.skip 1 later⟩
      · exact inner.members run (keeps.skipBlanks (keeps.skip 1 later)) all
      · cases run
    · cases run
  · cases run

theorem Keeps.readers (keeps : Keeps onSource onText) (fuel : Nat) : ReadersKeep onSource onText fuel := by
  induction fuel with
  | zero =>
    refine ⟨fun run => ?_, fun run => ?_, fun run => ?_⟩
    · simp only [value] at run
      cases run
    · rw [items] at run
      cases run
    · rw [members] at run
      cases run
  | succ fuel ih => exact ⟨keeps.value_succ ih, keeps.items_succ ih, keeps.members_succ ih⟩

theorem Keeps.parse (keeps : Keeps onSource onText) {source : Text} {v : Json} (run : Json.parse source = .ok v)
    (start : onSource source) : v.toDatum.Each Printable onText := by
  rw [Json.parse] at run
  split at run
  · cases run
  · obtain ⟨⟨parsed, after⟩, inner, run⟩ := bind_eq_ok.mp run
    simp only at run
    split at run
    · cases run
      exact ((keeps.readers _).value inner (keeps.drop _ start)).1
    · cases run

end

theorem keeps_nothing : Keeps (fun _ => True) fun _ => True := ⟨fun _ _ => trivial, fun _ _ => trivial⟩

theorem keeps_unsplit : Keeps Text.IsUnicode Unsplit :=
  ⟨fun n unicode => unicode.drop n, fun run unicode => (stringFrom_unsplit unicode run).1⟩

end Json

end ProxyControl
