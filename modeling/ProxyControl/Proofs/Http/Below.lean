import ProxyControl.Proofs.Http.Url

namespace ProxyControl.Http

/-- A text that stands for itself in the path of a URL. -/
structure Plain (t : Text) : Prop where
  question : .char '?' ∉ t
  hash : .char '#' ∉ t
  unescaped : ¬ HasEscape t
  dotless : Dotless t

theorem plain_append {t u : Text} : Plain (t ++ .char '/' :: u) ↔ Plain t ∧ Plain u := by
  have mark (m : CodePoint) (other : m ≠ .char '/') : m ∉ t ++ .char '/' :: u ↔ m ∉ t ∧ m ∉ u := by
    rw [List.mem_append, List.mem_cons, not_or, not_or]
    exact and_congr_right fun _ => and_iff_right other
  have escape : ¬ HasEscape (t ++ .char '/' :: u) ↔ ¬ HasEscape t ∧ ¬ HasEscape u := by
    rw [hasEscape_append (by decide) (by decide), not_or]
  constructor
  · rintro ⟨question, hash, unescaped, dotless⟩
    rw [mark _ (by decide)] at question hash
    rw [escape] at unescaped
    rw [dotless_append] at dotless
    exact ⟨⟨question.1, hash.1, unescaped.1, dotless.1⟩, ⟨question.2, hash.2, unescaped.2, dotless.2⟩⟩
  · rintro ⟨first, second⟩
    exact ⟨(mark _ (by decide)).mpr ⟨first.question, second.question⟩,
      (mark _ (by decide)).mpr ⟨first.hash, second.hash⟩, escape.mpr ⟨first.unescaped, second.unescaped⟩,
      dotless_append.mpr ⟨first.dotless, second.dotless⟩⟩

theorem reference_of_plain {t : Text} (plain : Plain t) : reference t = t := by
  rw [reference, Text.before_of_not_mem plain.hash, Text.before_of_not_mem plain.question]

theorem unmarked_of_reference {t : Text} (whole : reference t = t) : .char '?' ∉ t ∧ .char '#' ∉ t := by
  refine ⟨?_, ?_⟩
  · rw [← whole]
    exact Text.separator_not_mem_before _
  · intro member
    have front : reference t <+: Text.before (.char '#') t := Text.prefix_before _ _
    rw [whole] at front
    exact Text.separator_not_mem_before t (front.subset member)

/-- Dots behind a path without dots cost a segment, however far they lead back. -/
theorem splitOn_of_dots {front path rest : Text} (dotless : Dotless front) (dots : ¬ Dotless path)
    (shape : UrlParts.normalizePath (front ++ .char '/' :: path) = front ++ .char '/' :: rest) :
    (Text.splitOn (.char '/') rest).Sublist (Text.splitOn (.char '/') path) ∧
      (Text.splitOn (.char '/') rest).length < (Text.splitOn (.char '/') path).length := by
  have leads : ∃ segment ∈ Text.splitOn (.char '/') path, IsDots segment := by
    by_contra none
    exact dots fun segment member leads => none ⟨segment, member, leads⟩
  obtain ⟨kept, new, result, before, sublist, _, strict⟩ :=
    resolveDots_spec (Text.splitOn (.char '/') front).reverse (Text.splitOn (.char '/') path)
  rw [List.reverse_reverse] at before
  have resolved : Text.join "/" (kept ++ new) = front ++ .char '/' :: rest := by
    rw [← shape, UrlParts.normalizePath, Text.splitOn_append_self, resolveDots_append dotless, List.append_nil, result]
  have some : kept ++ new ≠ [] := by
    intro empty
    rw [empty] at resolved
    simp [Text.join] at resolved
  have absent : ∀ part ∈ kept ++ new, CodePoint.char '/' ∉ part := by
    intro part member
    rcases List.mem_append.mp member with old | later
    · exact Text.not_mem_of_mem_splitOn (before.subset old)
    · exact Text.not_mem_of_mem_splitOn (sublist.subset later)
  have segments := Text.splitOn_join some absent
  rw [show Text.join [CodePoint.char '/'] (kept ++ new) = _ from resolved, Text.splitOn_append_self] at segments
  obtain ⟨more, front⟩ := before
  rw [← front, List.append_assoc] at segments
  have last : more ++ Text.splitOn (.char '/') rest = new := List.append_cancel_left segments
  have fewer := strict leads
  rw [← last] at sublist fewer
  rw [List.length_append] at fewer
  exact ⟨(List.sublist_append_right _ _).trans sublist, by omega⟩

/-- Fewer of the segments of an escaped path make a shorter path, escaped. -/
theorem rest_of_fewer {path rest : Text}
    (within : (Text.splitOn (.char '/') rest).Sublist (Text.splitOn (.char '/') (escaped isPathSafe path)))
    (fewer : (Text.splitOn (.char '/') rest).length < (Text.splitOn (.char '/') (escaped isPathSafe path)).length) :
    ∃ less, rest = escaped isPathSafe less ∧ less.length < path.length ∧ ∀ p ∈ less, p = .char '/' ∨ p ∈ path := by
  have safe : isPathSafe (.char '/') = true := by decide
  rw [splitOn_escaped safe] at within fewer
  obtain ⟨remaining, less, pieces⟩ := List.sublist_map_iff.mp within
  rw [pieces, List.length_map, List.length_map] at fewer
  have nonempty : remaining ≠ [] := by
    rintro rfl
    exact Text.splitOn_ne_nil _ _ pieces
  refine ⟨Text.join "/" remaining, ?_, ?_, fun p member => ?_⟩
  · rw [escaped_join safe, ← pieces]
    exact (Text.join_splitOn _ rest).symm
  · have shorter : (Text.join [.char '/'] remaining).length < _ := Text.length_join_lt nonempty less fewer
    rwa [Text.join_splitOn] at shorter
  · rcases Text.mem_of_mem_join member with slash | ⟨segment, inside, here⟩
    · exact .inl (List.mem_singleton.mp slash)
    · exact .inr (Text.mem_of_mem_splitOn here (less.subset inside))

/-- A reference with dots does not lead to what it writes. -/
theorem dotless_of_decoded {front t rest : Text} (dotless : Dotless front) (unicode : (reference t).IsUnicode)
    (shape : UrlParts.normalizePath (front ++ .char '/' :: escaped isPathSafe (reference t)) =
      front ++ .char '/' :: rest) (decoded : percentDecode rest = t) : Dotless (reference t) := by
  by_contra dots
  have leads : ¬ Dotless (escaped isPathSafe (reference t)) := fun still =>
    dots ((dotless_escaped (by decide)).mp still)
  obtain ⟨within, fewer⟩ := splitOn_of_dots dotless leads shape
  obtain ⟨less, rfl, shorter, points⟩ := rest_of_fewer within fewer
  have lessUnicode : less.IsUnicode := by
    intro p member
    rcases points p member with rfl | inside
    · rfl
    · exact unicode p inside
  have front := (prefix_reference t).length_le
  have bound := length_percentDecode_le lessUnicode
  rw [percentDecode_escaped (by decide)] at decoded
  rw [decoded] at bound
  omega

/-- A text whose reference is read back as all of it stands for itself. -/
theorem plain_of_decoded {t : Text} (unicode : (reference t).IsUnicode) (dotless : Dotless (reference t))
    (decoded : percentDecode (reference t) = t) : Plain t := by
  have front := (prefix_reference t).length_le
  have bound := length_percentDecode_le unicode
  rw [decoded] at bound
  have same : reference t = t := (prefix_reference t).eq_of_length (by omega)
  rw [same] at dotless decoded unicode
  refine ⟨(unmarked_of_reference same).1, (unmarked_of_reference same).2, fun has => ?_, dotless⟩
  have less := length_percentDecode_lt unicode has
  rw [decoded] at less
  exact absurd less (Nat.lt_irrefl _)

/-- Behind the path of its base URL, which ends with a slash, a URL stands for a path. -/
def Url.LeadsTo (base url : Url) (path : Text) : Prop :=
  ∃ rest, url.path = base.root ++ rest ∧ .char '/' :: percentDecode rest = path

/-- A request below a base URL leads to the path it was made for exactly if that path stands for itself, and the base
URL has no query that would take it in. -/
theorem Url.leadsTo_iff {address : Text} {base url : Url} {first : CodePoint} {more : Text}
    {parameters : List (Text × Text)} (letter : isUnreserved first = true) (parsed : parseBase address = .ok base)
    (built : base.below (.char '/' :: first :: more) parameters = .ok url) (scheme : url.scheme ≠ []) :
    base.LeadsTo url (.char '/' :: first :: more) ↔ base.query = none ∧ Plain (first :: more) := by
  obtain ⟨absolute, unicode, path⟩ :=
    path_of_below letter built scheme fun absolute => (parseBase_eq_ok parsed absolute).1
  obtain ⟨settled, slash⟩ := parseBase_eq_ok parsed absolute
  have dotlessRoot := settled.root.dotless
  have nonempty : first :: more ≠ [] := List.cons_ne_nil first more
  generalize first :: more = t at *
  cases asked : base.query with
  | some query =>
    rw [asked] at path
    refine iff_of_false ?_ fun both => absurd both.1 (Option.some_ne_none query)
    rintro ⟨rest, shown, decoded⟩
    rw [path] at shown
    obtain rfl : rest = [] := List.self_eq_append_right.mp shown
    exact absurd (List.cons.inj decoded).2.symm nonempty
  | none =>
    rw [asked] at path
    obtain ⟨start, ends⟩ := List.getLast?_eq_some_iff.mp (slash asked)
    rw [ends] at path dotlessRoot
    have level : Dotless start := (dotless_append.mp dotlessRoot).1
    change url.path = UrlParts.normalizePath _ at path
    rw [List.append_assoc, List.singleton_append] at path
    have still (dotless : Dotless (reference t)) :
        url.path = start ++ .char '/' :: escaped isPathSafe (reference t) := by
      rw [path]
      exact normalizePath_of_dotless (dotless_append.mpr ⟨level, (dotless_escaped (by decide)).mpr dotless⟩)
    unfold LeadsTo
    rw [ends]
    simp only [List.append_assoc, List.singleton_append, true_and]
    constructor
    · rintro ⟨rest, shown, decoded⟩
      replace decoded := (List.cons.inj decoded).2
      have dotless := dotless_of_decoded level unicode (path.symm.trans shown) decoded
      rw [still dotless] at shown
      obtain rfl := (List.cons.inj (List.append_cancel_left shown)).2
      rw [percentDecode_escaped (by decide)] at decoded
      exact plain_of_decoded unicode dotless decoded
    · intro plain
      have same := reference_of_plain plain
      rw [same] at still unicode
      refine ⟨escaped isPathSafe t, still plain.dotless, ?_⟩
      rw [percentDecode_escaped (by decide), percentDecode_of_not_hasEscape unicode plain.unescaped]

end ProxyControl.Http
