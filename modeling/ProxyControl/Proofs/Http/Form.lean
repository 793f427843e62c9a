import ProxyControl.Proofs.Http.Percent
import ProxyControl.Proofs.Text.Split

namespace ProxyControl.Http

/-- In a query, `+` stands for a space. -/
def plusToSpace (p : CodePoint) : CodePoint := if p = .char '+' then .char ' ' else p

/-- A name or a value as it is read from a query. -/
def readParameter (t : Text) : Text := percentDecode (t.map plusToSpace)

/-- A piece of a query; one without `=` has no value. -/
def readPiece (piece : Text) : Text × Text :=
  match Text.cut? (.char '=') piece with
  | some (name, value) => (readParameter name, readParameter value)
  | none => (readParameter piece, [])

/-- The parameters that a query holds. -/
def readQuery (query : Text) : List (Text × Text) := (Text.splitOn (.char '&') query).map readPiece

/-- How a byte is written in a parameter. -/
def parameterByte (b : UInt8) : Text :=
  let p := CodePoint.ofNat b.toNat
  if b < 0x80 && isUnreserved p then [p] else if b = 0x20 then [.char '+'] else percentByte b

theorem encodeParameter_eq_ok {t e : Text} (encoded : encodeParameter t = .ok e) :
    t.IsUnicode ∧ e = (Utf8.encodeLoosely t).flatMap parameterByte := by
  obtain ⟨bytes, sent, same⟩ := bind_eq_ok.mp encoded
  obtain ⟨unicode, rfl⟩ := Text.toUtf8_eq_ok.mp sent
  cases same
  exact ⟨unicode, rfl⟩

theorem mem_parameterByte {b : UInt8} {p : CodePoint} (member : p ∈ parameterByte b) :
    isUnreserved p = true ∨ p = .char '+' ∨ p = .char '%' := by
  unfold parameterByte at member
  dsimp only at member
  split at member
  · rename_i plain
    obtain rfl := List.mem_singleton.mp member
    exact .inl (Bool.and_eq_true_iff.mp plain).2
  split at member
  · exact .inr (.inl (List.mem_singleton.mp member))
  · rw [percentByte_eq] at member
    simp only [List.mem_cons, List.not_mem_nil, or_false] at member
    rcases member with rfl | rfl | rfl
    · exact .inr (.inr rfl)
    · exact .inl (upperDigit_spec _ (Nat.mod_lt _ (by decide))).2
    · exact .inl (upperDigit_spec _ (Nat.mod_lt _ (by decide))).2

theorem mem_encodeParameter {t e : Text} {p : CodePoint} (encoded : encodeParameter t = .ok e) (member : p ∈ e) :
    isUnreserved p = true ∨ p = .char '+' ∨ p = .char '%' := by
  obtain ⟨_, rfl⟩ := encodeParameter_eq_ok encoded
  obtain ⟨b, _, inside⟩ := List.mem_flatMap.mp member
  exact mem_parameterByte inside

theorem plusToSpace_of_isUnreserved {p : CodePoint} (unreserved : isUnreserved p = true) : plusToSpace p = p := by
  refine if_neg ?_
  rintro rfl
  cases unreserved

theorem encodePoint_ofNat {b : UInt8} (ascii : b.toNat < 0x80) : Utf8.encodePoint (CodePoint.ofNat b.toNat) = [b] := by
  unfold Utf8.encodePoint
  dsimp only
  rw [CodePoint.toNat_ofNat (by omega), if_pos ascii, UInt8.ofNat_toNat]

/-- A byte in a parameter is read back. -/
theorem percentBytes_parameterByte (b : UInt8) (rest : Text) :
    percentBytes 0 ((parameterByte b).map plusToSpace ++ rest) = b :: percentBytes 0 rest := by
  unfold parameterByte
  dsimp only
  split
  · rename_i plain
    rw [Bool.and_eq_true, decide_eq_true_eq, UInt8.lt_iff_toNat_lt] at plain
    have other : CodePoint.ofNat b.toNat ≠ .char '%' := fun same => by
      have unreserved := plain.2
      rw [same] at unreserved
      cases unreserved
    rw [List.map_singleton, plusToSpace_of_isUnreserved plain.2, List.singleton_append,
      percentBytes_plain (not_beginsEscape other), encodePoint_ofNat plain.1]
    rfl
  split
  · rename_i space
    subst space
    exact percentBytes_plain (not_beginsEscape (by decide))
  · obtain ⟨h, l, first, second, value⟩ := byteDigits_spec b
    have high : plusToSpace (byteDigits b).1 = (byteDigits b).1 :=
      plusToSpace_of_isUnreserved (upperDigit_spec _ (Nat.mod_lt _ (by decide))).2
    have low : plusToSpace (byteDigits b).2 = (byteDigits b).2 :=
      plusToSpace_of_isUnreserved (upperDigit_spec _ (Nat.mod_lt _ (by decide))).2
    rw [percentByte_eq, List.map_cons, List.map_cons, List.map_singleton, high, low]
    exact (percentBytes_escape first second rest).trans (by rw [value])

theorem percentBytes_flatMap_parameterByte (bytes : Utf8.Bytes) :
    percentBytes 0 ((bytes.flatMap parameterByte).map plusToSpace) = bytes := by
  induction bytes with
  | nil => rfl
  | cons b bytes ih => rw [List.flatMap_cons, List.map_append, percentBytes_parameterByte, ih]

theorem readParameter_of_encodeParameter {t e : Text} (encoded : encodeParameter t = .ok e) : readParameter e = t := by
  obtain ⟨unicode, rfl⟩ := encodeParameter_eq_ok encoded
  rw [readParameter, percentDecode, percentBytes_flatMap_parameterByte, Utf8.decodeLeniently_encodeLoosely unicode]

/-- A piece of a query is read back, and holds nothing that has a meaning in a query. -/
theorem readPiece_of_encodeParameter {name value shownName shownValue : Text}
    (named : encodeParameter name = .ok shownName) (valued : encodeParameter value = .ok shownValue) :
    readPiece (shownName ++ "=" ++ shownValue) = (name, value) ∧
      ∀ p ∈ shownName ++ "=" ++ shownValue, p ≠ .char '&' ∧ IsKept isQuerySafe p := by
  have shape : shownName ++ "=" ++ shownValue = shownName ++ .char '=' :: shownValue := List.append_assoc _ _ _
  have absent : .char '=' ∉ shownName := fun member => by
    rcases mem_encodeParameter named member with unreserved | plus | percent
    · cases unreserved
    · cases plus
    · cases percent
  have plain {t e : Text} {p : CodePoint} (encoded : encodeParameter t = .ok e) (member : p ∈ e) :
      p ≠ .char '&' ∧ IsKept isQuerySafe p := by
    rcases mem_encodeParameter encoded member with unreserved | rfl | rfl
    · refine ⟨?_, Bool.or_eq_true_iff.mpr (.inl unreserved)⟩
      rintro rfl
      cases unreserved
    · decide
    · decide
  constructor
  · rw [shape, readPiece, Text.cut?_append_self absent]
    dsimp only
    rw [readParameter_of_encodeParameter named, readParameter_of_encodeParameter valued]
  · intro p member
    rw [shape, List.mem_append, List.mem_cons] at member
    rcases member with inName | rfl | inValue
    · exact plain named inName
    · decide
    · exact plain valued inValue

/-- The pieces of a query that was written. -/
theorem encodeQuery_eq_ok {parameters : List (Text × Text)} {query : Text}
    (encoded : encodeQuery parameters = .ok query) :
    ∃ pieces, query = Text.join "&" pieces ∧ pieces.map readPiece = parameters ∧
      ∀ piece ∈ pieces, ∀ p ∈ piece, p ≠ .char '&' ∧ IsKept isQuerySafe p := by
  obtain ⟨pieces, run, same⟩ := bind_eq_ok.mp encoded
  cases same
  refine ⟨pieces, rfl, ?_⟩
  clear encoded
  induction parameters generalizing pieces with
  | nil =>
    cases run
    exact ⟨rfl, fun piece member => absurd member List.not_mem_nil⟩
  | cons parameter parameters ih =>
    rw [List.mapM_cons] at run
    obtain ⟨first, here, run⟩ := bind_eq_ok.mp run
    obtain ⟨others, rest, same⟩ := bind_eq_ok.mp run
    cases same
    obtain ⟨read, plain⟩ := ih others rest
    obtain ⟨name, named, here⟩ := bind_eq_ok.mp here
    obtain ⟨value, valued, here⟩ := bind_eq_ok.mp here
    cases here
    obtain ⟨readFirst, plainFirst⟩ := readPiece_of_encodeParameter named valued
    refine ⟨by rw [List.map_cons, readFirst, read], fun piece member => ?_⟩
    rcases List.mem_cons.mp member with rfl | later
    · exact plainFirst
    · exact plain piece later

/-- The parameters of a query that was written are read back from it. -/
theorem readQuery_of_encodeQuery {parameters : List (Text × Text)} {query : Text} (given : parameters ≠ [])
    (encoded : encodeQuery parameters = .ok query) : readQuery query = parameters := by
  obtain ⟨pieces, rfl, read, plain⟩ := encodeQuery_eq_ok encoded
  have some : pieces ≠ [] := by
    rintro rfl
    exact given read.symm
  have cut : Text.splitOn (.char '&') (Text.join "&" pieces) = pieces :=
    Text.splitOn_join some fun piece member inside => (plain piece member _ inside).1 rfl
  rw [readQuery, cut, read]

theorem escaped_of_encodeQuery {parameters : List (Text × Text)} {query : Text}
    (encoded : encodeQuery parameters = .ok query) : escaped isQuerySafe query = query := by
  obtain ⟨pieces, rfl, _, plain⟩ := encodeQuery_eq_ok encoded
  refine escaped_of_isKept fun p member => ?_
  rcases Text.mem_of_mem_join member with glue | ⟨piece, inside, here⟩
  · obtain rfl := List.mem_singleton.mp glue
    decide
  · exact (plain piece inside p here).2

end ProxyControl.Http
