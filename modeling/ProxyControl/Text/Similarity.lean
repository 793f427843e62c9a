import ProxyControl.Text.Basic

namespace ProxyControl.Text

/-- How many code points two texts begin with in common. -/
def sharedStart : Text → Text → Nat
  | p :: t, q :: u => if p = q then sharedStart t u + 1 else 0
  | _, _ => 0

/-- A run that two texts have in common: where it starts in each of them, and its length. -/
structure SharedRun where
  left : Nat
  right : Nat
  length : Nat

/-- The longest common run; of several the one that starts first on the left, then on the right. -/
def longestRun (t u : Text) : SharedRun :=
  let starts := (List.range t.length).flatMap fun i => (List.range u.length).map fun j => (i, j)
  starts.foldl (fun best (i, j) =>
    let length := sharedStart (t.drop i) (u.drop j)
    if best.length < length then ⟨i, j, length⟩ else best) ⟨0, 0, 0⟩

/-- The number of code points in the longest common run, and in those of the texts before it and after it.
Every run takes at least one code point off the left text, so that its length is enough fuel. -/
def sharedCount (t u : Text) : Nat → Nat
  | 0 => 0
  | fuel + 1 =>
    let run := longestRun t u
    if run.length = 0 then 0
    else
      sharedCount (t.take run.left) (u.take run.right) fuel + run.length +
        sharedCount (t.drop (run.left + run.length)) (u.drop (run.right + run.length)) fuel

/-- How similar two texts are: their shared code points, and the code points of both. -/
def similarity (t u : Text) : Nat × Nat := (sharedCount t u (t.length + 1), t.length + u.length)

/-- The candidates, three at most, that share three fifths of their code points with a text, the most
similar first. -/
def similarTo (t : Text) (candidates : List Text) : List Text :=
  let scored := candidates.map fun candidate => (similarity candidate t, candidate)
  let close := scored.filter fun ((shared, total), _) => 3 * total ≤ 10 * shared
  let sorted := close.mergeSort fun ((m, a), t) ((n, b), u) => n * a < m * b || (n * a == m * b && u.le t)
  (sorted.map Prod.snd).take 3

end ProxyControl.Text
