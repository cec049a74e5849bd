import FilterSql.Proofs.Engine

namespace FilterSql

theorem map_eq_error_iff {ε α β : Type} {x : Except ε α} {f : α → β} {e : ε} :
    x.map f = .error e ↔ x = .error e := by
  cases x <;> simp [Except.map]

theorem Statement.isInternal_of_relatedJoins {schema : Schema} {filter : Option ColumnCondition}
    {error : QueryError} (h : relatedJoins schema filter = .error error) :
    error.isInternal = true := by
  obtain ⟨table, -, ht⟩ := exists_of_mapM_error h
  unfold relatedJoin at ht
  split at ht
  · cases ht
    rfl
  · cases ht

theorem ResolvedQuery.isInternal_of_compile {dialect : Dialect} {schema : Schema}
    {q : ResolvedQuery} {error : QueryError} (h : q.compile dialect schema = .error error) :
    error.isInternal = true := by
  rw [Statement.compile_eq] at h
  split at h
  · exact Statement.isInternal_of_relatedJoins (map_eq_error_iff.1 h)
  · split at h
    · cases h
      rfl
    · split at h
      · cases h
        rfl
      · exact Statement.isInternal_of_relatedJoins (map_eq_error_iff.1 h)

namespace Engine

theorem parse_error_of_inText {e : Engine} {r : Request} {error : QueryError} {position : Nat}
    (h : e.compile r = .error error) (hp : error.InText position) :
    e.parse r.query = .error error := by
  simp only [compile, bind_eq_error_iff] at h
  rcases h with h | ⟨filter, -, h | ⟨dimensions, hd, h | ⟨page, -, h | ⟨q, hq, h⟩⟩⟩⟩
  · exact h
  · obtain ⟨input, rfl⟩ := Dimension.exists_of_parseList_error h
    cases hp
  · obtain rfl := Page.eq_of_make_error h
    cases hp
  · cases (QueryError.inText_iff.1 hp).symm.trans (Query.kind_of_validate_error h).2
  · cases hp.isInternal_eq_false.symm.trans (ResolvedQuery.isInternal_of_compile h)

/-- Every position that an error tells is in the text, between two characters or at an end, and the
parser has no errors but those that tell one. -/
theorem compile_error_meets (e : Engine) :
    (∀ (r : Request) error position, e.compile r = .error error → error.InText position →
      Text.Meets r.query position) ∧
    (∀ text error position, e.parse text = .error error → error.InText position →
      Text.Meets text position) ∧
    ∀ limits text error, parseFilter limits text = .error error →
      ∃ position, error.InText position ∧ Text.Meets text position := by
  have hparse (text : String) (error : QueryError) (position : Nat)
      (h : e.parse text = .error error) (hp : error.InText position) :
      Text.Meets text position := by
    obtain ⟨found, hfound, hmeets⟩ := liesAt_parseFilter h
    rwa [hp.unique hfound]
  refine ⟨fun r error position h hp => ?_, hparse, fun limits text error => liesAt_parseFilter⟩
  exact hparse r.query error position (parse_error_of_inText h hp) hp

theorem compile_error_meets_wide :
    let e := make .builtin ⟨.postgres, none⟩
    let r : Request := { query := "name = \"é\" AND )" }
    let error : QueryError := .syntaxError 16 Parser.operandStart .rparen
    e.compile r = .error error ∧ error.InText 16 ∧ Text.Meets r.query 16 := by
  intro e r error
  have h : e.compile r = .error error := by cbv
  exact ⟨h, .syntaxError .., (compile_error_meets e).1 r error 16 h (.syntaxError ..)⟩

end Engine

end FilterSql
