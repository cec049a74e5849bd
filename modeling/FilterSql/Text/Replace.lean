namespace FilterSql.Text

def replaceEach (c : Char) (other text : List Char) : List Char :=
  other.intercalate (text.splitOn c)

theorem intercalate_modifyHead (other : List Char) (d : Char) {parts : List (List Char)}
    (h : parts ≠ []) :
    other.intercalate (parts.modifyHead (d :: ·)) = d :: other.intercalate parts := by
  cases parts with
  | nil => exact absurd rfl h
  | cons first parts => cases parts <;> simp

theorem replaceEach_eq_flatMap (c : Char) (other text : List Char) :
    replaceEach c other text = text.flatMap fun d => if d = c then other else [d] := by
  induction text with
  | nil => rfl
  | cons d text ih =>
    rw [List.flatMap_cons, ← ih, replaceEach, replaceEach, List.splitOn_cons_eq_if_modifyHead]
    by_cases hd : d = c
    · simp [hd, List.intercalate_cons_of_ne_nil, List.splitOn_ne_nil]
    · simp [hd, intercalate_modifyHead, List.splitOn_ne_nil]

end FilterSql.Text
