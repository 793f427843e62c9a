import ProxyControl.Proofs.CodePoint

namespace ProxyControl.Text

variable {separator : CodePoint}

theorem cut?_eq_some {t before after : Text}
    (found : cut? separator t = some (before, after)) : t = before ++ separator :: after ∧ separator ∉ before := by
  induction t generalizing before with
  | nil => cases found
  | cons p t ih =>
    rw [cut?] at found
    split at found
    · rename_i same
      cases found
      exact ⟨by rw [same, List.nil_append], List.not_mem_nil⟩
    · rename_i other
      simp only [Option.map_eq_some_iff, Prod.mk.injEq] at found
      obtain ⟨⟨first, second⟩, inner, rfl, rfl⟩ := found
      obtain ⟨shape, absent⟩ := ih inner
      refine ⟨by rw [shape, List.cons_append], ?_⟩
      rw [List.mem_cons, not_or]
      exact ⟨fun same => other same.symm, absent⟩

theorem cut?_eq_none {t : Text} : cut? separator t = none ↔ separator ∉ t := by
  induction t with
  | nil => simp [cut?]
  | cons p t ih =>
    rw [cut?]
    split
    · rename_i same
      simp [same]
    · rename_i other
      rw [Option.map_eq_none_iff, ih, List.mem_cons, not_or]
      constructor
      · intro absent
        exact ⟨fun same => other same.symm, absent⟩
      · rintro ⟨_, absent⟩
        exact absent

theorem cut?_append_self {t : Text} (absent : separator ∉ t) (u : Text) :
    cut? separator (t ++ separator :: u) = some (t, u) := by
  induction t with
  | nil => exact if_pos rfl
  | cons p t ih =>
    rw [List.mem_cons, not_or] at absent
    rw [List.cons_append, cut?, if_neg (Ne.symm absent.1), ih absent.2]
    rfl

/-- What stands before the first separator, if there is any. -/
def before (separator : CodePoint) (t : Text) : Text := t.takeWhile (· ≠ separator)

theorem before_of_cut? {t first rest : Text} (found : cut? separator t = some (first, rest)) :
    before separator t = first := by
  obtain ⟨rfl, absent⟩ := cut?_eq_some found
  rw [before, List.takeWhile_append_of_pos, List.takeWhile_cons_of_neg (by simp), List.append_nil]
  intro p member
  exact decide_eq_true fun same => absent (same ▸ member)

theorem before_append {t : Text} (absent : separator ∉ t) (u : Text) :
    before separator (t ++ u) = t ++ before separator u := by
  rw [before, List.takeWhile_append_of_pos]
  · rfl
  · intro p member
    exact decide_eq_true fun same => absent (same ▸ member)

theorem before_self (separator : CodePoint) (t : Text) : before separator (separator :: t) = [] :=
  List.takeWhile_cons_of_neg (by simp)

theorem before_cons_of_ne {p : CodePoint} (other : p ≠ separator) (t : Text) :
    before separator (p :: t) = p :: before separator t :=
  List.takeWhile_cons_of_pos (decide_eq_true other)

theorem before_of_not_mem {t : Text} (absent : separator ∉ t) : before separator t = t := by
  have whole : before separator (t ++ []) = t ++ [] := before_append absent []
  rwa [List.append_nil] at whole

theorem cut?_cases (separator : CodePoint) (t : Text) : cut? separator t = none ∧ before separator t = t ∨
    ∃ rest, cut? separator t = some (before separator t, rest) := by
  cases found : cut? separator t with
  | none => exact .inl ⟨rfl, before_of_not_mem (cut?_eq_none.mp found)⟩
  | some cut => exact .inr ⟨cut.2, by rw [before_of_cut? found]⟩

theorem prefix_before (separator : CodePoint) (t : Text) : before separator t <+: t := List.takeWhile_prefix _

theorem separator_not_mem_before (t : Text) : separator ∉ before separator t := by
  intro member
  have all : (before separator t).all (· ≠ separator) = true := List.all_takeWhile
  exact absurd rfl (of_decide_eq_true (List.all_eq_true.mp all _ member))

theorem length_trimBy_le (drop : CodePoint → Bool) (t : Text) : (trimBy drop t).length ≤ t.length := by
  have front : (t.dropWhile drop).length ≤ t.length := (List.dropWhile_sublist _).length_le
  have back : ((t.dropWhile drop).reverse.dropWhile drop).length ≤ (t.dropWhile drop).reverse.length :=
    (List.dropWhile_sublist _).length_le
  rw [List.length_reverse] at back
  rw [trimBy, dropWhileEnd, List.length_reverse]
  omega

theorem dropWhile_of_head {drop : CodePoint → Bool} {t : Text} (kept : ∀ p ∈ t.head?, drop p = false) :
    t.dropWhile drop = t := by
  cases t with
  | nil => rfl
  | cons p t => rw [List.dropWhile_cons_of_neg (by simp [kept p rfl])]

/-- Nothing is cut off a text that neither begins nor ends with anything to drop. -/
theorem trimBy_of_ends {drop : CodePoint → Bool} {t : Text} (first : ∀ p ∈ t.head?, drop p = false)
    (last : ∀ p ∈ t.getLast?, drop p = false) : trimBy drop t = t := by
  rw [← List.head?_reverse] at last
  rw [trimBy, dropWhileEnd, dropWhile_of_head first, dropWhile_of_head last, List.reverse_reverse]

/-- Splitting a text is splitting it as a list. -/
theorem splitOn_eq (separator : CodePoint) (t : Text) : splitOn separator t = List.splitOn separator t := by
  induction t with
  | nil => rfl
  | cons p t ih =>
    obtain ⟨first, others, pieces⟩ := List.exists_cons_of_ne_nil (List.splitOn_ne_nil separator t)
    rw [splitOn, List.splitOn_cons_eq_if_modifyHead, ih, pieces]
    simp only [beq_iff_eq, List.modifyHead_cons]

theorem splitOn_ne_nil (separator : CodePoint) (t : Text) : splitOn separator t ≠ [] := by
  rw [splitOn_eq]
  exact List.splitOn_ne_nil separator t

theorem splitOn_append_self (t u : Text) :
    splitOn separator (t ++ separator :: u) = splitOn separator t ++ splitOn separator u := by
  rw [splitOn_eq, splitOn_eq, splitOn_eq]
  exact List.splitOn_append_cons_self t u

/-- What holds no separator goes to the first piece. -/
theorem splitOn_append_of_not_mem {t : Text} (absent : separator ∉ t) (u : Text) :
    ∃ first others, splitOn separator u = first :: others ∧
      splitOn separator (t ++ u) = (t ++ first) :: others := by
  obtain ⟨first, others, pieces⟩ := List.exists_cons_of_ne_nil (splitOn_ne_nil separator u)
  refine ⟨first, others, pieces, ?_⟩
  induction t with
  | nil => exact pieces
  | cons p t ih =>
    have other : p ≠ separator := fun same => absent (same ▸ List.mem_cons_self)
    rw [List.cons_append, splitOn, if_neg other, ih fun member => absent (List.mem_cons_of_mem p member)]
    rfl

theorem splitOn_of_not_mem {t : Text} (absent : separator ∉ t) : splitOn separator t = [t] := by
  obtain ⟨first, others, pieces, split⟩ := splitOn_append_of_not_mem absent []
  obtain ⟨rfl, rfl⟩ := List.cons.inj (pieces : [[]] = first :: others)
  rwa [List.append_nil] at split

/-- Removing other code points from a text removes them from its pieces. -/
theorem splitOn_filter {keep : CodePoint → Bool} (kept : keep separator = true) (t : Text) :
    splitOn separator (t.filter keep) = (splitOn separator t).map (List.filter keep) := by
  induction t with
  | nil => rfl
  | cons p t ih =>
    obtain ⟨first, others, pieces⟩ := List.exists_cons_of_ne_nil (splitOn_ne_nil separator t)
    rw [pieces, List.map_cons] at ih
    by_cases here : p = separator
    · rw [here, List.filter_cons_of_pos kept, splitOn, if_pos rfl, splitOn, if_pos rfl, ih, pieces]
      rfl
    · rw [splitOn, if_neg here, pieces]
      by_cases passes : keep p = true
      · rw [List.filter_cons_of_pos passes, splitOn, if_neg here, ih]
        exact congrArg (· :: _) (List.filter_cons_of_pos passes).symm
      · rw [List.filter_cons_of_neg passes, ih]
        exact congrArg (· :: _) (List.filter_cons_of_neg passes).symm

/-- A change of code points that leaves the separators alone changes the pieces only. -/
theorem splitOn_map {change : CodePoint → CodePoint} (fixes : ∀ p, change p = separator ↔ p = separator) (t : Text) :
    splitOn separator (t.map change) = (splitOn separator t).map (List.map change) := by
  induction t with
  | nil => rfl
  | cons p t ih =>
    obtain ⟨first, others, pieces⟩ := List.exists_cons_of_ne_nil (splitOn_ne_nil separator t)
    rw [List.map_cons, splitOn, splitOn, ih, pieces]
    by_cases here : p = separator
    · rw [if_pos here, if_pos ((fixes p).mpr here)]
      rfl
    · rw [if_neg here, if_neg (mt (fixes p).mp here)]
      rfl

/-- Lines that are ended one by one. -/
theorem splitOn_lines {lines : List Text} (absent : ∀ line ∈ lines, separator ∉ line) :
    splitOn separator (lines.flatMap fun line => line ++ [separator]) = lines ++ [[]] := by
  induction lines with
  | nil => rfl
  | cons line lines ih =>
    have shape : (line :: lines).flatMap (fun line => line ++ [separator]) =
        line ++ separator :: lines.flatMap fun line => line ++ [separator] := by
      rw [List.flatMap_cons, List.append_assoc]
      rfl
    rw [shape, splitOn_append_self, splitOn_of_not_mem (absent line List.mem_cons_self),
      ih fun later member => absent later (List.mem_cons_of_mem _ member)]
    rfl

theorem not_mem_of_mem_splitOn {t part : Text} (member : part ∈ splitOn separator t) : separator ∉ part := by
  induction t generalizing part with
  | nil =>
    obtain rfl := List.mem_singleton.mp member
    exact List.not_mem_nil
  | cons p t ih =>
    obtain ⟨first, others, pieces⟩ := List.exists_cons_of_ne_nil (splitOn_ne_nil separator t)
    rw [pieces] at ih
    rw [splitOn, pieces] at member
    split at member
    · rcases List.mem_cons.mp member with rfl | later
      · exact List.not_mem_nil
      · exact ih later
    · rename_i other
      rcases List.mem_cons.mp member with rfl | later
      · rw [List.mem_cons, not_or]
        exact ⟨Ne.symm other, ih List.mem_cons_self⟩
      · exact ih (List.mem_cons_of_mem _ later)

theorem join_cons_of_ne_nil {glue part : Text} {parts : List Text} (more : parts ≠ []) :
    join glue (part :: parts) = part ++ glue ++ join glue parts := List.intercalate_cons_of_ne_nil more

/-- The pieces of a text, joined again, are the text. -/
theorem join_splitOn (separator : CodePoint) (t : Text) : join [separator] (splitOn separator t) = t := by
  rw [splitOn_eq]
  exact List.intercalate_splitOn separator

theorem mem_join {separator part : Text} {parts : List Text} {p : CodePoint} (inside : p ∈ part)
    (member : part ∈ parts) : p ∈ join separator parts := by
  induction parts with
  | nil => cases member
  | cons first parts ih =>
    cases parts with
    | nil =>
      obtain rfl := List.mem_singleton.mp member
      rwa [join, List.intercalate_singleton]
    | cons next parts =>
      rw [join, List.intercalate_cons_cons, List.mem_append]
      rcases List.mem_cons.mp member with rfl | later
      · exact .inl (List.mem_append_left _ inside)
      · exact .inr (ih later)

theorem mem_of_mem_join {glue : Text} {parts : List Text} {p : CodePoint} (inside : p ∈ join glue parts) :
    p ∈ glue ∨ ∃ part ∈ parts, p ∈ part := by
  induction parts with
  | nil => cases inside
  | cons part parts ih =>
    cases parts with
    | nil =>
      rw [join, List.intercalate_singleton] at inside
      exact .inr ⟨part, List.mem_cons_self, inside⟩
    | cons next parts =>
      rw [join_cons_of_ne_nil (List.cons_ne_nil next parts), List.mem_append, List.mem_append] at inside
      rcases inside with (here | between) | later
      · exact .inr ⟨part, List.mem_cons_self, here⟩
      · exact .inl between
      · rcases ih later with between | ⟨other, member, here⟩
        · exact .inl between
        · exact .inr ⟨other, List.mem_cons_of_mem _ member, here⟩

theorem mem_of_mem_splitOn {t part : Text} {p : CodePoint} (inside : p ∈ part) (member : part ∈ splitOn separator t) :
    p ∈ t := by
  rw [← join_splitOn separator t]
  exact mem_join inside member

/-- All of a text but for the separators is in its pieces. -/
theorem exists_piece (separator : CodePoint) {t : Text} {p : CodePoint} (member : p ∈ t) :
    p = separator ∨ ∃ piece ∈ splitOn separator t, p ∈ piece := by
  rw [← join_splitOn separator t] at member
  exact (mem_of_mem_join member).imp_left List.mem_singleton.mp

theorem splitOn_join {parts : List Text} (some : parts ≠ []) (absent : ∀ part ∈ parts, separator ∉ part) :
    splitOn separator (join [separator] parts) = parts := by
  rw [splitOn_eq]
  exact List.splitOn_intercalate separator absent some

/-- Joined pieces are the pieces with a separator before each of them, but for the first one. -/
theorem cons_join {parts : List Text} (some : parts ≠ []) :
    separator :: join [separator] parts = parts.flatMap (separator :: ·) := by
  induction parts with
  | nil => exact absurd rfl some
  | cons part parts ih =>
    cases parts with
    | nil => rw [join, List.intercalate_singleton, List.flatMap_singleton]
    | cons next parts =>
      rw [join_cons_of_ne_nil (List.cons_ne_nil next parts), List.flatMap_cons, ← ih (List.cons_ne_nil next parts),
        List.append_assoc, List.singleton_append, List.cons_append]

/-- Fewer pieces, in the same order, join to a shorter text. -/
theorem length_join_lt {parts whole : List Text} (some : parts ≠ []) (sublist : parts.Sublist whole)
    (fewer : parts.length < whole.length) : (join [separator] parts).length < (join [separator] whole).length := by
  have less {xs ys : List Text} (sublist : xs.Sublist ys) : (xs.flatMap (separator :: ·)).length + ys.length ≤
      (ys.flatMap (separator :: ·)).length + xs.length := by
    induction sublist with
    | slnil => exact Nat.le_refl _
    | cons y _ ih =>
      rw [List.flatMap_cons, List.length_append, List.length_cons, List.length_cons]
      omega
    | cons_cons y _ ih =>
      rw [List.flatMap_cons, List.flatMap_cons, List.length_append, List.length_append, List.length_cons,
        List.length_cons, List.length_cons]
      omega
  have other : whole ≠ [] := fun empty => by
    rw [empty] at fewer
    exact absurd fewer (Nat.not_lt_zero _)
  have bound := less sublist
  rw [← cons_join some, ← cons_join other, List.length_cons, List.length_cons] at bound
  omega

end ProxyControl.Text
