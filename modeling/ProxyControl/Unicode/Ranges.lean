namespace ProxyControl.Unicode

/-- Whether a number lies in one of the given closed ranges. -/
def inRanges (n : Nat) (ranges : List (Nat × Nat)) : Bool :=
  ranges.any fun (first, last) => first ≤ n && n ≤ last

end ProxyControl.Unicode
