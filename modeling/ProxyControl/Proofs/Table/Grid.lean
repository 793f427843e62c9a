import ProxyControl.Proofs.Table.Row

namespace ProxyControl.Table

open Terminal

variable {available left right excess : Nat}

/-- Half of an excess is taken away, up to the next whole number. -/
theorem roundHalfEven_two (excess : Nat) :
    excess ≤ 2 * roundHalfEven excess 2 + 1 ∧ 2 * roundHalfEven excess 2 ≤ excess + 1 := by
  unfold roundHalfEven
  dsimp only
  split <;> omega

theorem roundHalfEven_one (excess : Nat) : roundHalfEven excess 1 = excess := by
  unfold roundHalfEven
  dsimp only
  rw [if_neg (by omega), Nat.div_one]

/-- Of two columns, each gives about half of an excess. -/
theorem reduceFrom_pair {m n limit : Nat} (some : m ≠ 0) (alsoSome : n ≠ 0) (enough : m + n ≤ limit)
    (low : excess ≤ m) (alsoLow : excess ≤ n) :
    ∃ i j, reduceFrom excess 2 limit [(m, m != 0), (n, n != 0)] = [i, j] ∧
      (m / 2 ≤ i ∧ i ≤ m) ∧ n / 2 ≤ j ∧ j ≤ n := by
  obtain ⟨more, less⟩ := roundHalfEven_two excess
  have first : (m != 0) = true := bne_iff_ne.mpr some
  have second : (n != 0) = true := bne_iff_ne.mpr alsoSome
  have reduced : reduceFrom excess 2 limit [(m, true), (n, true)] =
      [m - min (min limit m) (roundHalfEven excess 2),
        n - min (min limit n) (roundHalfEven (excess - min (min limit m) (roundHalfEven excess 2)) 1)] := rfl
  rw [first, second, reduced, roundHalfEven_one]
  exact ⟨_, _, rfl, by omega, by omega⟩

/-- Two columns that there is room for keep their widths. -/
theorem fit_of_le (a b : Text) (room : left + right ≤ available) :
    fit available (twoColumns a b left right) = [left, right] := by
  unfold fit
  simp only [List.map_cons, List.map_nil, total, List.foldl_cons, List.foldl_nil, Nat.zero_add]
  rw [Nat.min_eq_left (by omega), Nat.min_eq_left (by omega), if_pos room]

/-- Two columns that may not be broken are narrowed, if at all, by about the same number of cells; about half of what
there is room for is left of both. -/
theorem fit_pair (available left right : Nat) (a b : Text) :
    ∃ m n, fit available (twoColumns a b left right) = [m, n] ∧
      (min left available / 2 ≤ m ∧ m ≤ available) ∧ min right available / 2 ≤ n ∧ n ≤ available := by
  unfold fit
  simp only [List.map_cons, List.map_nil, total, List.foldl_cons, List.foldl_nil, Nat.zero_add]
  split
  · exact ⟨_, _, rfl, by omega, by omega⟩
  · rename_i large
    have kept : collapse available [false, false] [min left available, min right available] (available + 1) =
        [min left available, min right available] := by
      unfold collapse
      exact if_pos (.inr rfl)
    rw [kept]
    generalize narrow : min left available = m at *
    generalize alsoNarrow : min right available = n at *
    have excessive : m + n - available ≠ 0 := by omega
    have low : m + n - available ≤ m := by omega
    have alsoLow : m + n - available ≤ n := by omega
    obtain ⟨i, j, reduced, first, second⟩ :=
      reduceFrom_pair (by omega) (by omega) (Nat.le_refl (m + n)) low alsoLow
    simp only [List.foldl_cons, List.foldl_nil, Nat.zero_add, if_neg excessive, List.length_cons, List.length_nil,
      List.map_cons, List.map_nil]
    rw [reduced]
    exact ⟨min i left, min j right, rfl, by omega, by omega⟩

/-- The line between the parts of a table. -/
def rule (left right : Nat) : Text :=
  framed (.char '+') (List.replicate left (.char '-')) (List.replicate right (.char '-'))

/-- A rule tells how wide the columns are. -/
theorem rule_inj {m n : Nat} (same : rule left right = rule m n) : left = m ∧ right = n := by
  have plain (width : Nat) : .char '+' ∉ List.replicate width (CodePoint.char '-') := by
    intro member
    cases (List.mem_replicate.mp member).2
  have pieces := congrArg (Text.splitOn (.char '+')) same
  rw [rule, rule, splitOn_framed (plain _) (plain _), splitOn_framed (plain _) (plain _)] at pieces
  simp only [List.cons.injEq, List.replicate_inj, and_true, true_and] at pieces
  omega

theorem le_foldl_max (numbers : List Nat) (n : Nat) : n ≤ numbers.foldl max n := by
  induction numbers generalizing n with
  | nil => exact Nat.le_refl n
  | cons m numbers ih => exact Nat.le_trans (Nat.le_max_left n m) (ih (max n m))

theorem le_foldl_max_of_mem {numbers : List Nat} {m n : Nat} (member : m ∈ numbers) : m ≤ numbers.foldl max n := by
  induction numbers generalizing n with
  | nil => cases member
  | cons first numbers ih =>
    rcases List.mem_cons.mp member with rfl | later
    · exact Nat.le_trans (Nat.le_max_right n m) (le_foldl_max numbers _)
    · exact ih later

theorem foldl_max_le {numbers : List Nat} {n k : Nat} (low : n ≤ k) (each : ∀ m ∈ numbers, m ≤ k) :
    numbers.foldl max n ≤ k := by
  induction numbers generalizing n with
  | nil => exact low
  | cons m numbers ih =>
    obtain ⟨first, rest⟩ := List.forall_mem_cons.mp each
    exact ih (Nat.max_le.mpr ⟨low, first⟩) rest

theorem foldl_max_of_le {numbers : List Nat} {n : Nat} (low : ∀ m ∈ numbers, m ≤ n) : numbers.foldl max n = n :=
  Nat.le_antisymm (foldl_max_le (Nat.le_refl n) low) (le_foldl_max numbers n)

/-- What the contents of a column ask for, and the spaces around them. -/
def wanted (heading : Text) (contents : List Text) : Nat :=
  2 + ((heading :: contents).map naturalWidth).foldl max 0

theorem le_wanted {heading content : Text} {contents : List Text} (member : content ∈ heading :: contents) :
    naturalWidth content + 2 ≤ wanted heading contents := by
  have low : naturalWidth content ≤ ((heading :: contents).map naturalWidth).foldl max 0 :=
    le_foldl_max_of_mem (List.mem_map_of_mem member)
  unfold wanted
  omega

theorem wanted_le {heading : Text} {contents : List Text} {n : Nat}
    (each : ∀ content ∈ heading :: contents, naturalWidth content ≤ n) : wanted heading contents ≤ n + 2 := by
  have low : ((heading :: contents).map naturalWidth).foldl max 0 ≤ n := by
    refine foldl_max_le (Nat.zero_le n) fun m member => ?_
    obtain ⟨content, inside, rfl⟩ := List.mem_map.mp member
    exact each content inside
  unfold wanted
  omega

/-- A table of two columns, line by line. -/
theorem render_pairs {a b : Text} {pairs : List (Text × Text)}
    (room : fit (lineWidth - 3) (twoColumns (clean a) (clean b)
      (wanted (clean a) (pairs.map fun pair => clean pair.1))
      (wanted (clean b) (pairs.map fun pair => clean pair.2))) = [left, right]) :
    render [a, b] (pairs.map fun (name, details) => [name, details]) =
      (rule left right :: rowLines true (twoColumns (clean a) (clean b) left right) [clean a, clean b] ++
        rule left right :: pairs.flatMap (fun pair =>
          rowLines false (twoColumns (clean a) (clean b) left right) [clean pair.1, clean pair.2]) ++
        [rule left right]).flatMap fun line => line ++ [.char '\n'] := by
  unfold render
  extract_lets headings rows count heads contents measured widths columns separator lines
  have table : rows = pairs.map fun pair => [clean pair.1, clean pair.2] := by
    refine (List.map_map ..).trans (List.map_congr_left fun pair _ => rfl)
  have two : count = 2 := by
    refine foldl_max_of_le fun n member => ?_
    rw [table, List.map_map] at member
    obtain ⟨pair, _, rfl⟩ := List.mem_map.mp member
    exact Nat.le_refl 2
  have full : contents = pairs.map fun pair => [clean pair.1, clean pair.2] := by
    change rows.map (complete count) = _
    rw [table, two, List.map_map]
    exact List.map_congr_left fun pair _ => rfl
  have measures : measured = twoColumns (clean a) (clean b) (wanted (clean a) (pairs.map fun pair => clean pair.1))
      (wanted (clean b) (pairs.map fun pair => clean pair.2)) := by
    have first : contents.map (fun row => row.getD 0 []) = pairs.map fun pair => clean pair.1 := by
      rw [full, List.map_map]
      exact List.map_congr_left fun pair _ => rfl
    have second : contents.map (fun row => row.getD 1 []) = pairs.map fun pair => clean pair.2 := by
      rw [full, List.map_map]
      exact List.map_congr_left fun pair _ => rfl
    rw [← first, ← second]
    change (List.range count).map _ = _
    rw [two]
    rfl
  have fits : widths = [left, right] := by
    change fit (lineWidth - (count + 1)) measured = _
    rw [two, measures]
    exact room
  have known : columns = twoColumns (clean a) (clean b) left right := by
    change (measured.map Prod.fst).zip widths = _
    rw [measures, fits]
    rfl
  have ruled : separator = rule left right := by
    change "+" ++ Text.join "+" (widths.map fun width => List.replicate width (.char '-')) ++ "+" = _
    rw [fits]
    exact (framed_eq _ _ _).symm
  have body : contents.flatMap (rowLines false columns) = pairs.flatMap fun pair =>
      rowLines false (twoColumns (clean a) (clean b) left right) [clean pair.1, clean pair.2] := by
    rw [full, known, List.flatMap_map]
  have top : heads = [clean a, clean b] := by
    change complete count headings = _
    rw [two]
    rfl
  rw [if_neg (by omega)]
  change (separator :: rowLines true columns heads ++ separator :: contents.flatMap (rowLines false columns) ++
    [separator]).flatMap _ = _
  rw [body, ruled, known, top]
  rfl

/-- A grid of two columns: a rule, a line of headings, a rule, one line for each line of the details, and a rule. -/
def IsGrid (Fills : Nat → Text → Prop) (left right : Nat) (details lines : List Text) : Prop :=
  ∃ head heading body, lines = rule left right :: head :: rule left right :: body ++ [rule left right] ∧
    TwoCells Fills left right head heading ∧
    List.Forall₂ (fun line detail => TwoCells Fills left right line (cell false right (clean detail))) body details

variable {Fills More : Nat → Text → Prop} {details lines : List Text} {line second : Text}

theorem TwoCells.mono (fills : ∀ width cell, Fills width cell → More width cell)
    (row : TwoCells Fills left right line second) : TwoCells More left right line second := by
  obtain ⟨first, shape, filled, alsoFilled⟩ := row
  exact ⟨first, shape, fills _ _ filled, fills _ _ alsoFilled⟩

theorem IsGrid.mono (fills : ∀ width cell, Fills width cell → More width cell)
    (grid : IsGrid Fills left right details lines) : IsGrid More left right details lines := by
  obtain ⟨head, heading, body, shape, top, rows⟩ := grid
  exact ⟨head, heading, body, shape, top.mono fills, rows.imp fun _ _ row => row.mono fills⟩

theorem mem_framed {bar p : CodePoint} {first second : Text} (member : p ∈ framed bar first second) :
    p = bar ∨ p ∈ first ∨ p ∈ second := by
  simp only [framed, List.mem_append, List.mem_cons, List.not_mem_nil, or_false] at member
  tauto

theorem newline_not_mem_rule : .char '\n' ∉ rule left right := by
  intro member
  rcases mem_framed member with bar | first | second
  · cases bar
  · cases (List.mem_replicate.mp first).2
  · cases (List.mem_replicate.mp second).2

theorem TwoCells.newline_not_mem (row : TwoCells InLine left right line second) : .char '\n' ∉ line := by
  obtain ⟨first, rfl, filled, alsoFilled⟩ := row
  intro member
  rcases mem_framed member with bar | inFirst | inSecond
  · cases bar
  · exact filled.2 inFirst
  · exact alsoFilled.2 inSecond

/-- Every line below the headings shows a line of the details. -/
theorem exists_detail {body : List Text} {Shows : Text → Text → Prop} (rows : List.Forall₂ Shows body details)
    (member : line ∈ body) : ∃ detail ∈ details, Shows line detail := by
  induction rows with
  | nil => cases member
  | cons shown rows ih =>
    rcases List.mem_cons.mp member with rfl | later
    · exact ⟨_, List.mem_cons_self, shown⟩
    · obtain ⟨detail, inside, shown⟩ := ih later
      exact ⟨detail, List.mem_cons_of_mem _ inside, shown⟩

/-- A grid whose cells are in one line has just its lines. -/
theorem IsGrid.newline_not_mem (grid : IsGrid InLine left right details lines) (member : line ∈ lines) :
    .char '\n' ∉ line := by
  obtain ⟨head, heading, body, rfl, top, rows⟩ := grid
  simp only [List.mem_append, List.mem_cons, List.not_mem_nil, or_false] at member
  rcases member with (rfl | rfl | rfl | inside) | rfl
  · exact newline_not_mem_rule
  · exact top.newline_not_mem
  · exact newline_not_mem_rule
  · obtain ⟨detail, _, row⟩ := exists_detail rows inside
    exact row.newline_not_mem
  · exact newline_not_mem_rule

theorem forall₂_flatMap {α : Type} {Shows : Text → Text → Prop} {left right : α → List Text} {items : List α}
    (each : ∀ item ∈ items, List.Forall₂ Shows (left item) (right item)) :
    List.Forall₂ Shows (items.flatMap left) (items.flatMap right) := by
  induction items with
  | nil => exact .nil
  | cons item items ih =>
    rw [List.flatMap_cons, List.flatMap_cons]
    refine List.rel_append (each item List.mem_cons_self) (ih fun later member => ?_)
    exact each later (List.mem_cons_of_mem _ member)

theorem newline_not_mem_clean {t : Text} (unbroken : .char '\n' ∉ t) : .char '\n' ∉ clean t :=
  fun member => unbroken (List.mem_of_mem_filter member)

theorem splitOn_clean (t : Text) :
    Text.splitOn (.char '\n') (clean t) = (Text.splitOn (.char '\n') t).map clean :=
  Text.splitOn_filter (by decide) t

/-- The lines of a table of two columns, below its headings. -/
def pairLines (a b : Text) (left right : Nat) (pairs : List (Text × Text)) : List Text :=
  pairs.flatMap fun pair => rowLines false (twoColumns (clean a) (clean b) left right) [clean pair.1, clean pair.2]

/-- The lines of a table of two columns. -/
def pairTable (a b : Text) (left right : Nat) (pairs : List (Text × Text)) : List Text :=
  rule left right :: rowLines true (twoColumns (clean a) (clean b) left right) [clean a, clean b] ++
    rule left right :: pairLines a b left right pairs ++ [rule left right]

/-- They are a grid, and the lines of the details are in it, in their order. -/
theorem pairTable_isGrid {a b : Text} {pairs : List (Text × Text)} (unbroken : .char '\n' ∉ a)
    (alsoUnbroken : .char '\n' ∉ b) (wideLeft : 2 ≤ left) (wideRight : 2 ≤ right)
    (names : ∀ pair ∈ pairs, .char '\n' ∉ pair.1) :
    IsGrid InLine left right (pairs.flatMap fun pair => Text.splitOn (.char '\n') pair.2)
      (pairTable a b left right pairs) := by
  have top := rowLines_pair true (clean a) (clean b) (clean b) (newline_not_mem_clean unbroken) wideLeft wideRight
  rw [Text.splitOn_of_not_mem (newline_not_mem_clean alsoUnbroken)] at top
  obtain ⟨head, _, shown, none, single⟩ := List.forall₂_cons_right_iff.mp top
  cases none
  rw [pairTable, single]
  refine ⟨head, _, _, rfl, shown, forall₂_flatMap fun pair member => ?_⟩
  have row := rowLines_pair false (clean a) (clean b) (clean pair.2) (newline_not_mem_clean (names pair member))
    wideLeft wideRight
  rw [splitOn_clean, List.forall₂_map_right_iff] at row
  exact row

/-- Headings take one line. -/
theorem exists_pairTable {a b : Text} (unbroken : .char '\n' ∉ a) (alsoUnbroken : .char '\n' ∉ b) (left right : Nat)
    (pairs : List (Text × Text)) : ∃ head, pairTable a b left right pairs =
      rule left right :: head :: rule left right :: pairLines a b left right pairs ++ [rule left right] := by
  have top := rowLines_pair_cells true left right (clean a) (clean b) (clean b) (newline_not_mem_clean unbroken)
  rw [Text.splitOn_of_not_mem (newline_not_mem_clean alsoUnbroken)] at top
  obtain ⟨head, _, _, none, single⟩ := List.forall₂_cons_right_iff.mp top
  cases none
  rw [pairTable, single]
  exact ⟨head, rfl⟩

/-- Below them, each line has a line of the details in its second cell, and a name or a blank in the first. -/
theorem pairLines_cells (a b : Text) (left right : Nat) {pairs : List (Text × Text)}
    (names : ∀ pair ∈ pairs, .char '\n' ∉ pair.1) :
    List.Forall₂ (fun line detail => ∃ start, line = framed (.char '|') start (cell false right (clean detail)) ∧
        ((∃ pair ∈ pairs, start = cell false left (clean pair.1)) ∨ start = spaces left))
      (pairLines a b left right pairs) (pairs.flatMap fun pair => Text.splitOn (.char '\n') pair.2) := by
  refine forall₂_flatMap fun pair member => ?_
  have row := rowLines_pair_cells false left right (clean a) (clean b) (clean pair.2)
    (newline_not_mem_clean (names pair member))
  rw [splitOn_clean, List.forall₂_map_right_iff] at row
  refine row.imp fun line detail => ?_
  rintro ⟨start, shape, start_eq⟩
  exact ⟨start, shape, start_eq.imp (fun named => ⟨pair, member, named⟩) id⟩

/-- A table of two columns is a grid. -/
theorem render_isGrid {a b : Text} {pairs : List (Text × Text)} (unbroken : .char '\n' ∉ a)
    (alsoUnbroken : .char '\n' ∉ b) (wide : 2 ≤ naturalWidth (clean a)) (alsoWide : 2 ≤ naturalWidth (clean b))
    (names : ∀ pair ∈ pairs, .char '\n' ∉ pair.1) :
    ∃ left right lines,
      render [a, b] (pairs.map fun (name, details) => [name, details]) =
        lines.flatMap (fun line => line ++ [.char '\n']) ∧
      IsGrid InLine left right (pairs.flatMap fun pair => Text.splitOn (.char '\n') pair.2) lines := by
  have first := le_wanted (List.mem_cons_self : clean a ∈ clean a :: pairs.map fun pair => clean pair.1)
  have second := le_wanted (List.mem_cons_self : clean b ∈ clean b :: pairs.map fun pair => clean pair.2)
  have some : lineWidth - 3 = 4093 := rfl
  obtain ⟨left, right, room, ⟨half, _⟩, alsoHalf, _⟩ := fit_pair (lineWidth - 3)
    (wanted (clean a) (pairs.map fun pair => clean pair.1)) (wanted (clean b) (pairs.map fun pair => clean pair.2))
    (clean a) (clean b)
  exact ⟨left, right, _, render_pairs room,
    pairTable_isGrid unbroken alsoUnbroken (by omega) (by omega) names⟩

end ProxyControl.Table
