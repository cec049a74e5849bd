import FilterSql.Engine
import FilterSql.Proofs.Statement

namespace FilterSql

theorem bind_eq_ok_iff {ε α β : Type} {x : Except ε α} {f : α → Except ε β} {b : β} :
    (x >>= f) = .ok b ↔ ∃ a, x = .ok a ∧ f a = .ok b := by
  cases x <;> simp [bind, Except.bind]

theorem bind_eq_error_iff {ε α β : Type} {x : Except ε α} {f : α → Except ε β} {e : ε} :
    (x >>= f) = .error e ↔ x = .error e ∨ ∃ a, x = .ok a ∧ f a = .error e := by
  cases x <;> simp [bind, Except.bind]

theorem pure_eq_ok_iff {ε α : Type} {a b : α} : (pure a : Except ε α) = .ok b ↔ a = b := by
  simp [pure, Except.pure]

theorem Condition.leaves_of_traverse {α β γ ε : Type} {f : α → Except ε β} {g : α → γ} {k : β → γ}
    (hf : ∀ {a b}, f a = .ok b → k b = g a) {t : Condition α} {u : Condition β}
    (h : t.traverse f = .ok u) : u.leaves.map k = t.leaves.map g := by
  induction t generalizing u with
  | leaf test =>
    simp only [traverse, bind_eq_ok_iff, pure_eq_ok_iff] at h
    obtain ⟨b, hb, rfl⟩ := h
    simp [leaves, hf hb]
  | and l r ihl ihr =>
    simp only [traverse, bind_eq_ok_iff, pure_eq_ok_iff] at h
    obtain ⟨l', hl, r', hr, rfl⟩ := h
    simp [leaves, ihl hl, ihr hr]
  | or l r ihl ihr =>
    simp only [traverse, bind_eq_ok_iff, pure_eq_ok_iff] at h
    obtain ⟨l', hl, r', hr, rfl⟩ := h
    simp [leaves, ihl hl, ihr hr]
  | not t ih =>
    simp only [traverse, bind_eq_ok_iff, pure_eq_ok_iff] at h
    obtain ⟨t', ht, rfl⟩ := h
    simp [leaves, ih ht]

namespace FieldTest

variable {schema : Schema} {test : FieldTest} {column : ColumnTest}

theorem resolve_eq_ok_iff :
    test.resolve schema = .ok column ↔ ∃ field, schema.field? test.field = some field ∧
      field.kind = test.value.kind ∧ column = {
        field := test.field
        table := schema.tableOf field
        column := field.column
        kind := field.kind
        op := test.op
        value := test.value } := by
  unfold resolve
  cases schema.field? test.field with
  | none => simp
  | some field =>
    by_cases hkind : field.kind = test.value.kind
    · simp [hkind, @eq_comm _ column]
    · simp [hkind]

theorem value_resolve (h : test.resolve schema = .ok column) : column.value = test.value := by
  obtain ⟨field, -, -, rfl⟩ := resolve_eq_ok_iff.1 h
  rfl

end FieldTest

namespace Query

theorem resolveFilter_eq_ok_iff {schema : Schema} {filter : Option Filter}
    {resolved : Option ColumnCondition} :
    resolveFilter schema filter = .ok resolved ↔ filter = none ∧ resolved = none ∨
      ∃ t u, filter = some t ∧ resolved = some u ∧
        t.traverse (FieldTest.resolve schema) = .ok u := by
  cases filter with
  | none => simp [resolveFilter, @eq_comm _ resolved]
  | some t =>
    rw [resolveFilter, Filter.resolve]
    cases ht : t.traverse (FieldTest.resolve schema) <;> simp [Except.map, ht, @eq_comm _ resolved]

theorem value_resolveFilter {schema : Schema} {filter : Option Filter}
    {resolved : Option ColumnCondition} (h : resolveFilter schema filter = .ok resolved) :
    (resolved.elim [] Condition.leaves).map ColumnTest.value =
      (filter.elim [] Condition.leaves).map FieldTest.value := by
  obtain ⟨rfl, rfl⟩ | ⟨t, u, rfl, rfl, ht⟩ := resolveFilter_eq_ok_iff.1 h
  · rfl
  · exact Condition.leaves_of_traverse FieldTest.value_resolve ht

theorem validate_eq_ok_iff {schema : Schema} {q : Query} {r : ResolvedQuery} :
    q.validate schema = .ok r ↔ ∃ filter, resolveFilter schema q.filter = .ok filter ∧
      q.groupBy.Nodup ∧ r = ⟨filter, q.groupBy, q.page⟩ := by
  have hnodup := firstRepeated_eq_none_iff [] q.groupBy
  simp only [validate, bind_eq_ok_iff]
  cases hr : firstRepeated [] q.groupBy with
  | some d => simp_all [throw, throwThe, MonadExceptOf.throw]
  | none => simp_all [pure_eq_ok_iff, @eq_comm _ r]

end Query

theorem Page.make_eq_ok_iff {offset limit : UInt64} {page : Page} :
    Page.make offset limit = .ok page ↔ page.offset = offset ∧ page.limit = limit ∧ limit ≠ 0 := by
  obtain ⟨o, l, hl⟩ := page
  unfold Page.make
  split
  · next h => simp [h]
  · next h => simp [h, eq_comm]

theorem Engine.compile_eq_ok_iff {e : Engine} {r : Request} {s : Statement} :
    e.compile r = .ok s ↔ ∃ filter dimensions page q, e.parse r.query = .ok filter ∧
      Dimension.parseList r.groupBy = .ok dimensions ∧
      Page.make r.offset (min r.limit e.maxLimit) = .ok page ∧
      Query.validate e.schema ⟨filter, dimensions, page⟩ = .ok q ∧
      q.compile e.dialect e.schema = .ok s := by
  simp only [Engine.compile, bind_eq_ok_iff]
  constructor
  · rintro ⟨filter, hf, dimensions, hd, page, hp, q, hq, hs⟩
    exact ⟨filter, dimensions, page, q, hf, hd, hp, hq, hs⟩
  · rintro ⟨filter, dimensions, page, q, hf, hd, hp, hq, hs⟩
    exact ⟨filter, hf, dimensions, hd, page, hp, q, hq, hs⟩

end FilterSql
