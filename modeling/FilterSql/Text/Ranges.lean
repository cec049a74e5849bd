namespace FilterSql.Text

/-- Whether a code point is in one of the ranges, which are in increasing order and include both
their ends. -/
def inRanges (n : Nat) : List (Nat × Nat) → Bool
  | [] => false
  | (first, last) :: rest => first ≤ n && (n ≤ last || inRanges n rest)

end FilterSql.Text
