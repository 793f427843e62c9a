import ProxyControl.Proofs.Http.Path

namespace ProxyControl.Http

open UrlParts

theorem toNat_lt_of_isAsciiBut {excluded : List Nat} {p : CodePoint} (safe : isAsciiBut excluded p = true) :
    p.toNat < 0x80 := by
  simp only [isAsciiBut, Bool.and_eq_true, decide_eq_true_eq] at safe
  omega

/-- What of a reference is its path. -/
def reference (t : Text) : Text := Text.before (.char '?') (Text.before (.char '#') t)

theorem prefix_reference (t : Text) : reference t <+: t := (Text.prefix_before _ _).trans (Text.prefix_before _ _)

theorem UrlParts.cutScheme_rooted (rest : Text) : cutScheme (.char '/' :: rest) = ([], .char '/' :: rest) := by
  unfold cutScheme
  split
  · rename_i scheme _ found
    have begins : scheme = .char '/' :: Text.before (.char ':') rest := by
      rw [← Text.before_of_cut? found, Text.before_cons_of_ne (by decide)]
    rw [begins]
    rfl
  · rfl

/-- The parts of a reference that begins with a single slash: it has neither scheme nor authority. -/
theorem UrlParts.split_rooted {t : Text} {p : CodePoint} {rest : Text} (rooted : t = .char '/' :: p :: rest)
    (single : p ≠ .char '/') : (split t).scheme = [] ∧ (split t).authority = [] ∧
      (split t).path = reference t := by
  have schemeless : cutScheme t = ([], t) := by rw [rooted, cutScheme_rooted]
  have path : ∀ after, reference t ≠ .char '/' :: .char '/' :: after := by
    intro after shape
    have front := prefix_reference t
    rw [shape, rooted, List.cons_prefix_cons, List.cons_prefix_cons] at front
    exact single front.2.1.symm
  unfold split
  rw [schemeless]
  dsimp only
  unfold reference at path ⊢
  have fragment := Text.cut?_cases (.char '#') t
  generalize Text.before (.char '#') t = body at path fragment ⊢
  have query := Text.cut?_cases (.char '?') body
  generalize Text.before (.char '?') body = shown at path query ⊢
  rcases fragment with ⟨fragment, rfl⟩ | ⟨_, fragment⟩ <;> rcases query with ⟨query, rfl⟩ | ⟨_, query⟩
  all_goals
    rw [fragment]
    dsimp only
    rw [query]
    dsimp only
    split
    · exact absurd rfl (path _)
    · exact ⟨rfl, rfl, rfl⟩

/-- The parts of a URL that was built. A path is normalized unless the URL has neither scheme nor authority. -/
theorem UrlParts.toUrl_eq_ok {parts : UrlParts} {url : Url} (built : parts.toUrl = .ok url) :
    url.scheme = parts.scheme.asciiLower ∧
      (url.scheme ≠ [] → url.path = escaped isPathSafe (normalizePath parts.path)) ∧
      (parts.scheme = [] → parts.authority = [] →
        parts.path.IsUnicode ∧ url.path = escaped isPathSafe parts.path) ∧
      url.query = parts.query.map (escaped isQuerySafe) := by
  unfold toUrl at built
  dsimp only at built
  obtain ⟨userinfo, user, built⟩ := bind_eq_ok.mp built
  obtain ⟨host, named, built⟩ := bind_eq_ok.mp built
  obtain ⟨port, numbered, built⟩ := bind_eq_ok.mp built
  obtain ⟨_, _, built⟩ := bind_eq_ok.mp built
  obtain ⟨path, placed, built⟩ := bind_eq_ok.mp built
  obtain ⟨query, asked, built⟩ := bind_eq_ok.mp built
  obtain ⟨fragment, _, built⟩ := bind_eq_ok.mp built
  cases built
  rw [mapError_eq_ok] at placed
  have place := percentEncode_eq_ok placed
  refine ⟨rfl, fun scheme => ?_, fun scheme authority => ?_, ?_⟩
  · have absolute :
        (!parts.scheme.asciiLower.isEmpty || (!userinfo.isEmpty || !host.isEmpty || port.isSome)) = true := by
      rw [Bool.or_eq_true_iff]
      left
      rw [Bool.not_eq_true', List.isEmpty_eq_false_iff]
      exact scheme
    rw [if_pos absolute] at place
    exact place
  · rw [authority] at user named numbered
    cases user
    cases named
    cases numbered
    rw [scheme] at placed place
    exact ⟨isUnicode_of_percentEncode (fun p => toNat_lt_of_isAsciiBut) placed, place⟩
  · rcases parts with ⟨_, _, _, _ | q, _⟩
    · cases asked
      rfl
    · obtain ⟨found, encoded, same⟩ := map_eq_ok.mp asked
      rw [mapError_eq_ok] at encoded
      rw [← same, percentEncode_eq_ok encoded]
      rfl

/-- The path that requests below a URL begin with. -/
def Url.root (url : Url) : Text := if url.path.isEmpty then [.char '/'] else url.path

/-- A path in its final form. -/
structure Settled (path : Text) : Prop where
  kept : ∀ p ∈ path, IsKept isPathSafe p
  dotless : Dotless path

theorem mem_normalizePath {path : Text} {p : CodePoint} (member : p ∈ normalizePath path) :
    p = .char '/' ∨ p ∈ path := by
  rcases Text.mem_of_mem_join member with slash | ⟨segment, inside, here⟩
  · exact .inl (List.mem_singleton.mp slash)
  · exact .inr (Text.mem_of_mem_splitOn here ((resolveDots_nil_spec _).1.subset inside))

theorem settled_escaped {path : Text} (dotless : Dotless path) : Settled (escaped isPathSafe path) :=
  ⟨fun _ member => isKept_of_mem_escaped (by decide) member, (dotless_escaped (by decide)).mpr dotless⟩

theorem Settled.escaped_normalizePath {path : Text} (settled : Settled path) :
    escaped isPathSafe (normalizePath path) = path := by
  rw [normalizePath_of_dotless settled.dotless, escaped_of_isKept settled.kept]

theorem Settled.query_not_mem {path : Text} (settled : Settled path) : .char '?' ∉ path := by
  intro member
  have kept : (isUnreserved (.char '?') || isPathSafe (.char '?')) = true := settled.kept _ member
  revert kept
  decide

theorem Settled.append_slash {path : Text} (settled : Settled path) : Settled (path ++ [.char '/']) := by
  constructor
  · intro p member
    rcases List.mem_append.mp member with inside | last
    · exact settled.kept p inside
    · obtain rfl := List.mem_singleton.mp last
      exact (by decide : (isUnreserved (.char '/') || isPathSafe (.char '/')) = true)
  · exact dotless_append.mpr ⟨settled.dotless, by decide⟩

theorem Settled.root {url : Url} (settled : Settled url.path) : Settled url.root := by
  unfold Url.root
  split
  · have empty : Settled [] := ⟨fun _ member => absurd member List.not_mem_nil, by decide⟩
    exact empty.append_slash
  · exact settled

namespace Url

variable {url moved : Url}

theorem asciiLower_ne_nil {t : Text} (lowered : t.asciiLower ≠ []) : t ≠ [] := fun empty => lowered (by rw [empty]; rfl)

theorem settled_of_toUrl {parts : UrlParts} (built : parts.toUrl = .ok url) (scheme : url.scheme ≠ []) :
    Settled url.path := by
  obtain ⟨_, path, _⟩ := toUrl_eq_ok built
  rw [path scheme]
  exact settled_escaped (dotless_normalizePath _)

/-- A URL whose target was replaced. -/
theorem withTarget_eq_ok {target : Text} (built : url.withTarget target = .ok moved) (scheme : moved.scheme ≠ []) :
    url.scheme ≠ [] ∧ Settled moved.path ∧
      moved.path = escaped isPathSafe (normalizePath (Text.before (.char '?') target)) ∧
      (moved.query = none → .char '?' ∉ target) := by
  unfold withTarget at built
  cases found : Text.cut? (.char '?') target with
  | none =>
    rw [found] at built
    obtain ⟨_, _, built⟩ := bind_eq_ok.mp built
    obtain ⟨lower, placed, _, _⟩ := toUrl_eq_ok built
    have absent := Text.cut?_eq_none.mp found
    refine ⟨asciiLower_ne_nil (lower ▸ scheme), settled_of_toUrl built scheme, ?_, fun _ => absent⟩
    rw [placed scheme, Text.before_of_not_mem absent]
  | some cut =>
    obtain ⟨path, query⟩ := cut
    rw [found] at built
    obtain ⟨_, _, built⟩ := bind_eq_ok.mp built
    obtain ⟨lower, placed, _, asked⟩ := toUrl_eq_ok built
    refine ⟨asciiLower_ne_nil (lower ▸ scheme), settled_of_toUrl built scheme, ?_, fun none => ?_⟩
    · rw [placed scheme, Text.before_of_cut? found]
    · rw [none] at asked
      cases asked

theorem target_eq_root (none : url.query = none) : url.target = url.root := by
  rw [target, none]
  exact List.append_nil _

theorem query_eq_none {mark : CodePoint} (question : mark = .char '?') (absent : mark ∉ url.target) :
    url.query = none := by
  cases found : url.query with
  | none => rfl
  | some query =>
    refine absurd ?_ absent
    rw [target, found, question]
    exact List.mem_append_right _ List.mem_cons_self

theorem settled_of_parse {t : Text} (parsed : parse t = .ok url) (scheme : url.scheme ≠ []) : Settled url.path := by
  unfold parse at parsed
  split at parsed
  · cases parsed
  split at parsed
  · cases parsed
  · exact settled_of_toUrl parsed scheme

/-- A base URL with a scheme: its path is settled, and ends with a slash unless the URL has a query. -/
theorem parseBase_eq_ok {t : Text} {base : Url} (parsed : parseBase t = .ok base) (scheme : base.scheme ≠ []) :
    Settled base.path ∧ (base.query = none → base.root.getLast? = some (.char '/')) := by
  obtain ⟨url, first, parsed⟩ := bind_eq_ok.mp parsed
  split at parsed
  · rename_i slash
    cases parsed
    refine ⟨settled_of_parse first scheme, fun none => ?_⟩
    rwa [target_eq_root none] at slash
  · obtain ⟨some, settled, placed, unasked⟩ := withTarget_eq_ok parsed scheme
    refine ⟨settled, fun none => ?_⟩
    have absent := unasked none
    have plain : url.query = Option.none :=
      query_eq_none rfl fun member => absent (List.mem_append_left _ member)
    have whole := (settled_of_parse first some).root.append_slash
    rw [Text.before_of_not_mem absent, target_eq_root plain] at placed
    have same : base.path = url.root ++ [.char '/'] := by
      rw [placed]
      exact whole.escaped_normalizePath
    have root : base.root = base.path := by
      refine if_neg ?_
      rw [same]
      simp
    rw [root, same, List.getLast?_concat]

/-- The path that a rooted reference leads to is written before its first marks. -/
theorem parse_rooted {t : Text} {p : CodePoint} {rest : Text} (rooted : t = .char '/' :: p :: rest)
    (single : p ≠ .char '/') (parsed : parse t = .ok url) :
    (reference t).IsUnicode ∧ url.path = escaped isPathSafe (reference t) := by
  unfold parse at parsed
  split at parsed
  · cases parsed
  split at parsed
  · cases parsed
  have parts := split_rooted rooted single
  obtain ⟨_, _, placed, _⟩ := toUrl_eq_ok parsed
  rw [parts.2.2] at placed
  exact placed parts.1 parts.2.1

theorem withParameters_eq_ok {parameters : List (Text × Text)} (built : url.withParameters parameters = .ok moved) :
    ∃ query, ({ url.parts with query } : UrlParts).toUrl = .ok moved ∧
      (parameters ≠ [] → ∃ encoded, encodeQuery parameters = .ok encoded ∧ query = some encoded) := by
  unfold withParameters at built
  dsimp only at built
  split at built
  · rename_i empty
    obtain ⟨query, _, built⟩ := bind_eq_ok.mp built
    obtain ⟨_, _, built⟩ := bind_eq_ok.mp built
    exact ⟨query, built, fun given => absurd (List.isEmpty_iff.mp empty) given⟩
  · obtain ⟨query, encoded, built⟩ := bind_eq_ok.mp built
    obtain ⟨_, _, built⟩ := bind_eq_ok.mp built
    obtain ⟨found, encoded, same⟩ := map_eq_ok.mp encoded
    exact ⟨query, built, fun _ => ⟨found, mapError_eq_ok.mp encoded, same.symm⟩⟩

theorem path_of_withParameters {parameters : List (Text × Text)} (built : url.withParameters parameters = .ok moved)
    (scheme : moved.scheme ≠ []) : url.scheme ≠ [] ∧ (Settled url.path → moved.path = url.path) := by
  obtain ⟨_, built, _⟩ := withParameters_eq_ok built
  obtain ⟨lower, placed, _, _⟩ := toUrl_eq_ok built
  refine ⟨asciiLower_ne_nil (lower ▸ scheme), fun settled => ?_⟩
  rw [placed scheme]
  exact settled.escaped_normalizePath

theorem query_of_below {base : Url} {path : Text} {parameters : List (Text × Text)}
    (built : base.below path parameters = .ok url) (given : parameters ≠ []) :
    ∃ query, encodeQuery parameters = .ok query ∧ url.query = some (escaped isQuerySafe query) := by
  obtain ⟨_, _, built⟩ := bind_eq_ok.mp built
  obtain ⟨_, _, built⟩ := bind_eq_ok.mp built
  obtain ⟨_, built, asked⟩ := withParameters_eq_ok built
  obtain ⟨encoded, shown, rfl⟩ := asked given
  exact ⟨encoded, shown, (toUrl_eq_ok built).2.2.2⟩

section

variable {base : Url} {first : CodePoint} {rest : Text} {parameters : List (Text × Text)}

theorem reference_cons (hash : first ≠ .char '#') (question : first ≠ .char '?') :
    reference (first :: rest) = first :: reference rest := by
  rw [reference, Text.before_cons_of_ne hash, Text.before_cons_of_ne question]
  rfl

/-- The target of a rooted reference, without the slash that it begins with. -/
theorem target_of_rooted {relative : Url} (letter : isUnreserved first = true)
    (parsed : parse (.char '/' :: first :: rest) = .ok relative) :
    (reference (first :: rest)).IsUnicode ∧ relative.target.dropWhile (· = .char '/') =
      escaped isPathSafe (reference (first :: rest)) ++ relative.query.elim [] (.char '?' :: ·) := by
  have other {mark : CodePoint} (marked : isUnreserved mark = false) : first ≠ mark := by
    rintro rfl
    rw [letter] at marked
    cases marked
  have single : first ≠ .char '/' := other rfl
  obtain ⟨unicode, shown⟩ := parse_rooted rfl single parsed
  rw [reference_cons (by decide) (by decide)] at unicode shown
  have shape : escaped isPathSafe (reference (first :: rest)) = first :: escaped isPathSafe (reference rest) := by
    rw [reference_cons (other rfl) (other rfl), escaped_cons,
      escapedPoint_of_isKept (Bool.or_eq_true_iff.mpr (.inl letter)), List.singleton_append]
  refine ⟨unicode.tail, ?_⟩
  rw [target, shown, escaped_cons, escapedPoint_of_isKept (by decide), shape]
  simp [single]

/-- The path of a target that is appended to that of a base URL. A query of the base URL takes in all of it. -/
theorem before_target (root : Settled base.root) {path : Text} (unmarked : .char '?' ∉ path) (query : Option Text) :
    Text.before (.char '?') (base.target ++ (path ++ query.elim [] (.char '?' :: ·))) =
      if base.query.isSome then base.root else base.root ++ path := by
  cases asked : base.query with
  | some taken =>
    have front : base.target = base.root ++ .char '?' :: taken := by
      rw [target, asked]
      rfl
    rw [front, List.append_assoc, Text.before_append root.query_not_mem, List.cons_append, Text.before_self,
      List.append_nil]
    rfl
  | none =>
    have back : Text.before (.char '?') (query.elim [] (.char '?' :: ·)) = [] := by
      cases query with
      | none => rfl
      | some asked => exact Text.before_self _ asked
    rw [target_eq_root asked, Text.before_append root.query_not_mem, Text.before_append unmarked, back, List.append_nil]
    rfl

/-- Where a request below a base URL goes: the path of the reference is appended, and dots in it are resolved. -/
theorem path_of_below (letter : isUnreserved first = true)
    (built : base.below (.char '/' :: first :: rest) parameters = .ok url) (scheme : url.scheme ≠ [])
    (settled : base.scheme ≠ [] → Settled base.path) :
    base.scheme ≠ [] ∧ (reference (first :: rest)).IsUnicode ∧ url.path =
      if base.query.isSome then base.root
      else normalizePath (base.root ++ escaped isPathSafe (reference (first :: rest))) := by
  obtain ⟨relative, parsed, built⟩ := bind_eq_ok.mp built
  obtain ⟨merged, placed, built⟩ := bind_eq_ok.mp built
  obtain ⟨absolute, kept⟩ := path_of_withParameters built scheme
  obtain ⟨absolute, whole, placed, _⟩ := withTarget_eq_ok placed absolute
  obtain ⟨unicode, target⟩ := target_of_rooted letter parsed
  have root := (settled absolute).root
  have safe {p : CodePoint} (member : p ∈ escaped isPathSafe (reference (first :: rest))) : IsKept isPathSafe p :=
    isKept_of_mem_escaped (by decide) member
  have unmarked : .char '?' ∉ escaped isPathSafe (reference (first :: rest)) := fun member =>
    absurd (safe member) (by decide)
  refine ⟨absolute, unicode, ?_⟩
  rw [kept whole, placed, target, before_target root unmarked]
  split
  · exact root.escaped_normalizePath
  · refine escaped_of_isKept fun p member => ?_
    rcases mem_normalizePath member with rfl | inside
    · decide
    rcases List.mem_append.mp inside with before | after
    · exact root.kept p before
    · exact safe after

end

end Url

end ProxyControl.Http
