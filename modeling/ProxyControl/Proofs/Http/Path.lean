import ProxyControl.Http.Url
import ProxyControl.Proofs.Http.Percent
import ProxyControl.Proofs.Text.Split

namespace ProxyControl.Http

open UrlParts

/-- A segment that leads somewhere else than to a place of its own name. -/
def IsDots (segment : Text) : Prop := segment = [.char '.'] ∨ segment = [.char '.', .char '.']

instance (segment : Text) : Decidable (IsDots segment) := inferInstanceAs (Decidable (_ ∨ _))

/-- A path without dot segments. -/
def Dotless (path : Text) : Prop := ∀ segment ∈ Text.splitOn (.char '/') path, ¬ IsDots segment

instance (path : Text) : Decidable (Dotless path) :=
  inferInstanceAs (Decidable (∀ segment ∈ Text.splitOn (.char '/') path, ¬ IsDots segment))

theorem dotless_append {path more : Text} :
    Dotless (path ++ .char '/' :: more) ↔ Dotless path ∧ Dotless more := by
  unfold Dotless
  rw [Text.splitOn_append_self]
  exact List.forall_mem_append

theorem resolveDots_append {segments : List Text} (dotless : ∀ segment ∈ segments, ¬ IsDots segment)
    (done rest : List Text) : resolveDots done (segments ++ rest) = resolveDots (segments.reverse ++ done) rest := by
  induction segments generalizing done with
  | nil => rfl
  | cons segment segments ih =>
    have first := dotless segment List.mem_cons_self
    rw [IsDots, not_or] at first
    rw [List.cons_append, resolveDots, if_neg first.1, if_neg first.2,
      ih fun segment member => dotless segment (List.mem_cons_of_mem _ member), List.reverse_cons, List.append_assoc,
      List.singleton_append]

/-- Resolving keeps a front part of what is done and some of the segments; dots always cost a segment. -/
theorem resolveDots_spec (done segments : List Text) : ∃ kept new, resolveDots done segments = kept ++ new ∧
    kept <+: done.reverse ∧ new.Sublist segments ∧ (∀ segment ∈ new, ¬ IsDots segment) ∧
      ((∃ segment ∈ segments, IsDots segment) → new.length < segments.length) := by
  induction segments generalizing done with
  | nil =>
    refine ⟨done.reverse, [], by rw [resolveDots, List.append_nil], List.prefix_rfl, List.Sublist.slnil, ?_, ?_⟩
    · intro segment member
      cases member
    · rintro ⟨segment, member, _⟩
      cases member
  | cons segment rest ih =>
    rw [resolveDots]
    split
    · obtain ⟨kept, new, result, before, sublist, dotless, _⟩ := ih done
      have fewer := sublist.length_le
      refine ⟨kept, new, result, before, sublist.cons _, dotless, fun _ => ?_⟩
      rw [List.length_cons]
      omega
    split
    · obtain ⟨kept, new, result, before, sublist, dotless, _⟩ := ih (if done = [[]] then done else done.tail)
      have fewer := sublist.length_le
      have back : (if done = [[]] then done else done.tail).reverse <+: done.reverse := by
        split
        · exact List.prefix_rfl
        · exact List.reverse_prefix.mpr (List.tail_suffix done)
      refine ⟨kept, new, result, before.trans back, sublist.cons _, dotless, fun _ => ?_⟩
      rw [List.length_cons]
      omega
    · rename_i single double
      have plain : ¬ IsDots segment := not_or.mpr ⟨single, double⟩
      obtain ⟨kept, new, result, before, sublist, dotless, strict⟩ := ih (segment :: done)
      have fewer := sublist.length_le
      rw [List.reverse_cons, List.prefix_concat_iff] at before
      rcases before with rfl | before
      · refine ⟨done.reverse, segment :: new, by rw [result, List.append_assoc, List.singleton_append],
          List.prefix_rfl, sublist.cons_cons _, ?_, ?_⟩
        · intro other member
          rcases List.mem_cons.mp member with rfl | later
          · exact plain
          · exact dotless other later
        · rintro ⟨other, member, dots⟩
          rcases List.mem_cons.mp member with rfl | later
          · exact absurd dots plain
          · exact Nat.succ_lt_succ (strict ⟨other, later, dots⟩)
      · refine ⟨kept, new, result, before, sublist.cons _, dotless, fun _ => ?_⟩
        rw [List.length_cons]
        omega

theorem normalizePath_of_dotless {path : Text} (dotless : Dotless path) : normalizePath path = path := by
  have whole := resolveDots_append dotless [] []
  rw [List.append_nil, List.append_nil, resolveDots, List.reverse_reverse] at whole
  rw [normalizePath, whole]
  exact Text.join_splitOn _ path

theorem resolveDots_nil_spec (segments : List Text) : (resolveDots [] segments).Sublist segments ∧
    ∀ segment ∈ resolveDots [] segments, ¬ IsDots segment := by
  obtain ⟨kept, new, result, before, sublist, dotless, _⟩ := resolveDots_spec [] segments
  obtain rfl := List.prefix_nil.mp before
  rw [result, List.nil_append]
  exact ⟨sublist, dotless⟩

theorem splitOn_normalizePath {path : Text} (some : resolveDots [] (Text.splitOn (.char '/') path) ≠ []) :
    Text.splitOn (.char '/') (normalizePath path) = resolveDots [] (Text.splitOn (.char '/') path) := by
  have sublist := (resolveDots_nil_spec (Text.splitOn (.char '/') path)).1
  exact Text.splitOn_join some fun part member => Text.not_mem_of_mem_splitOn (sublist.subset member)

theorem dotless_normalizePath (path : Text) : Dotless (normalizePath path) := by
  by_cases empty : resolveDots [] (Text.splitOn (.char '/') path) = []
  · have nothing : normalizePath path = [] := by rw [normalizePath, empty]; rfl
    rw [nothing]
    decide
  · intro segment member
    rw [splitOn_normalizePath empty] at member
    exact (resolveDots_nil_spec _).2 segment member

section

variable {isSafe : CodePoint → Bool}

theorem isDots_escaped {segment : Text} : IsDots (escaped isSafe segment) ↔ IsDots segment := by
  have kept : ∀ p ∈ ([.char '.', .char '.'] : Text), IsKept isSafe p := by
    intro p member
    simp only [List.mem_cons, List.not_mem_nil, or_false, or_self] at member
    rw [member]
    rfl
  constructor
  · intro dots
    have absent : .char '%' ∉ escaped isSafe segment := by
      rcases dots with single | double
      · rw [single]
        decide
      · rw [double]
        decide
    rwa [escaped_of_percent_not_mem absent] at dots
  · rintro (rfl | rfl)
    · exact .inl (escaped_of_isKept fun p member => kept p (List.mem_cons_of_mem _ member))
    · exact .inr (escaped_of_isKept kept)

variable (slash : isSafe (.char '/') = true)

include slash

theorem escaped_join (parts : List Text) :
    escaped isSafe (Text.join "/" parts) = Text.join "/" (parts.map (escaped isSafe)) := by
  have separator : escaped isSafe [.char '/'] = [.char '/'] := by
    rw [escaped_cons, escapedPoint_of_isKept (by rw [IsKept, slash, Bool.or_true])]
    rfl
  induction parts with
  | nil => rfl
  | cons part parts ih =>
    cases parts with
    | nil => rw [List.map_singleton, Text.join, List.intercalate_singleton, Text.join, List.intercalate_singleton]
    | cons next parts =>
      have shape : Text.join "/" (part :: next :: parts) = part ++ "/" ++ Text.join "/" (next :: parts) :=
        Text.join_cons_of_ne_nil (List.cons_ne_nil next parts)
      have other : Text.join "/" ((part :: next :: parts).map (escaped isSafe)) =
          escaped isSafe part ++ "/" ++ Text.join "/" ((next :: parts).map (escaped isSafe)) :=
        Text.join_cons_of_ne_nil (List.cons_ne_nil _ _)
      rw [shape, other, escaped_append, escaped_append, ih]
      exact congrArg (_ ++ · ++ _) separator

/-- Escaping goes segment by segment. -/
theorem splitOn_escaped (t : Text) :
    Text.splitOn (.char '/') (escaped isSafe t) = (Text.splitOn (.char '/') t).map (escaped isSafe) := by
  have pieces := escaped_join slash (Text.splitOn (.char '/') t)
  rw [show Text.join "/" (Text.splitOn (.char '/') t) = t from Text.join_splitOn _ t] at pieces
  rw [pieces]
  refine Text.splitOn_join (by simp [Text.splitOn_ne_nil]) fun part member => ?_
  obtain ⟨segment, within, rfl⟩ := List.mem_map.mp member
  intro inside
  rcases mem_escaped inside with same | percent | digit
  · exact Text.not_mem_of_mem_splitOn within same
  · cases percent
  · cases digit

theorem dotless_escaped {path : Text} : Dotless (escaped isSafe path) ↔ Dotless path := by
  unfold Dotless
  rw [splitOn_escaped slash]
  simp only [List.mem_map, forall_exists_index, and_imp, forall_apply_eq_imp_iff₂, isDots_escaped]

end

end ProxyControl.Http
