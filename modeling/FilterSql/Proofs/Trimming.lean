import FilterSql.Proofs.Token.Spelling

namespace FilterSql.Text

/-- Blanks stand around the part, and it neither begins nor ends with one. -/
structure Trims (text part : List Char) : Prop where
  around : ∃ before after, text = before ++ part ++ after ∧
    (∀ c ∈ before, isBlank c = true) ∧ ∀ c ∈ after, isBlank c = true
  first : ∀ c ∈ part.head?, isBlank c = false
  last : ∀ c ∈ part.getLast?, isBlank c = false

theorem trims_self {text : List Char} (hf : ∀ c ∈ text.head?, isBlank c = false)
    (hl : ∀ c ∈ text.getLast?, isBlank c = false) : Trims text text :=
  ⟨⟨[], [], by simp⟩, hf, hl⟩

theorem trim_of_trims {text part : List Char} (h : Trims text part) : trim text = part := by
  obtain ⟨⟨before, after, rfl, hbefore, hafter⟩, hfirst, hlast⟩ := h
  cases part with
  | nil =>
    have hall : ∀ c ∈ before ++ [] ++ after, isBlank c = true := by
      simpa [or_imp, forall_and] using ⟨hbefore, hafter⟩
    rw [trim, List.dropWhile_eq_nil_iff.2 hall]
    rfl
  | cons c part =>
    have hdrop : (before ++ (c :: part ++ after)).dropWhile isBlank = c :: part ++ after :=
      Lexer.dropWhile_eq hbefore (by simpa using hfirst)
    have hback : (after.reverse ++ (c :: part).reverse).dropWhile isBlank = (c :: part).reverse :=
      Lexer.dropWhile_eq (by simpa using hafter) (by rwa [List.head?_reverse])
    rw [trim, List.append_assoc, hdrop, List.reverse_append, hback, List.reverse_reverse]

theorem exists_dropWhile_eq (text : List Char) : ∃ after,
    text.dropWhile isBlank = trim text ++ after ∧ ∀ c ∈ after, isBlank c = true := by
  refine ⟨((text.dropWhile isBlank).reverse.takeWhile isBlank).reverse, ?_, fun c hc => ?_⟩
  · rw [trim, ← List.reverse_append, List.takeWhile_append_dropWhile, List.reverse_reverse]
  · exact List.all_eq_true.1 List.all_takeWhile c (List.mem_reverse.1 hc)

theorem trims_trim (text : List Char) : Trims text (trim text) := by
  obtain ⟨after, hdrop, hafter⟩ := exists_dropWhile_eq text
  refine ⟨⟨text.takeWhile isBlank, after, ?_, List.all_eq_true.1 List.all_takeWhile, hafter⟩,
    fun c hc => ?_, fun c hc => ?_⟩
  · rw [List.append_assoc, ← hdrop, List.takeWhile_append_dropWhile]
  · apply Lexer.head?_dropWhile text c
    rw [hdrop, List.head?_append, Option.mem_def.1 hc]
    rfl
  · rw [trim, List.getLast?_reverse] at hc
    exact Lexer.head?_dropWhile _ c hc

theorem trim_eq_iff {text part : List Char} : trim text = part ↔ Trims text part :=
  ⟨fun h => h ▸ trims_trim text, trim_of_trims⟩

theorem takeWhile_append_of_stop {p : Char → Bool} (text : List Char) {after : List Char}
    (h : ∀ c ∈ after.head?, p c = false) : (text ++ after).takeWhile p = text.takeWhile p := by
  have hnil : after.takeWhile p = [] := Lexer.takeWhile_eq (w := []) (by simp) h
  rw [List.takeWhile_append, hnil, List.append_nil, ite_eq_right_iff]
  exact fun hlength => ((List.takeWhile_prefix p).eq_of_length hlength).symm

theorem takeWhile_trim {p : Char → Bool} (hp : ∀ c, isBlank c = true → p c = false)
    (text : List Char) : (trim text).takeWhile p = (text.dropWhile isBlank).takeWhile p := by
  obtain ⟨after, hdrop, hafter⟩ := exists_dropWhile_eq text
  rw [hdrop, takeWhile_append_of_stop (trim text)]
  exact fun c hc => hp c (hafter c (List.mem_of_mem_head? hc))

end FilterSql.Text
