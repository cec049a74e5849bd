import FilterSql.Proofs.Validation
import Mathlib

namespace FilterSql

section Failures

variable {α β ε : Type}

def failure? : Except ε β → Option ε
  | .error e => some e
  | .ok _ => none

@[simp] theorem failure?_eq_some_iff {result : Except ε β} {e : ε} :
    failure? result = some e ↔ result = .error e := by
  cases result <;> simp [failure?]

@[simp] theorem failure?_eq_none_iff {result : Except ε β} :
    failure? result = none ↔ ∃ b, result = .ok b := by
  cases result <;> simp [failure?]

theorem failure?_bind (result : Except ε α) (next : α → Except ε β) {e? : Option ε}
    (h : ∀ a, failure? (next a) = e?) : failure? (result >>= next) = (failure? result).or e? := by
  cases result with
  | error e => rfl
  | ok a => exact h a

theorem failure?_bind_pure (result : Except ε α) (g : α → β) :
    failure? (result >>= fun a => pure (g a)) = failure? result := by
  cases result <;> rfl

namespace Condition

/-- Two trees of the same shape with related tests. -/
inductive Alike (R : α → β → Prop) : Condition α → Condition β → Prop
  | leaf {a : α} {b : β} : R a b → Alike R (leaf a) (leaf b)
  | and {l r : Condition α} {l' r' : Condition β} : Alike R l l' → Alike R r r' →
      Alike R (and l r) (and l' r')
  | or {l r : Condition α} {l' r' : Condition β} : Alike R l l' → Alike R r r' →
      Alike R (or l r) (or l' r')
  | not {t : Condition α} {t' : Condition β} : Alike R t t' → Alike R (not t) (not t')

theorem alike_of_traverse {f : α → Except ε β} {R : α → β → Prop}
    (hf : ∀ {a b}, f a = .ok b → R a b) {t : Condition α} {u : Condition β}
    (h : t.traverse f = .ok u) : Alike R t u := by
  induction t generalizing u with
  | leaf test =>
    simp only [traverse, bind_eq_ok_iff, pure_eq_ok_iff] at h
    obtain ⟨b, hb, rfl⟩ := h
    exact .leaf (hf hb)
  | and l r ihl ihr =>
    simp only [traverse, bind_eq_ok_iff, pure_eq_ok_iff] at h
    obtain ⟨l', hl, r', hr, rfl⟩ := h
    exact .and (ihl hl) (ihr hr)
  | or l r ihl ihr =>
    simp only [traverse, bind_eq_ok_iff, pure_eq_ok_iff] at h
    obtain ⟨l', hl, r', hr, rfl⟩ := h
    exact .or (ihl hl) (ihr hr)
  | not t ih =>
    simp only [traverse, bind_eq_ok_iff, pure_eq_ok_iff] at h
    obtain ⟨t', ht, rfl⟩ := h
    exact .not (ih ht)

theorem failure?_traverse (f : α → Except ε β) (t : Condition α) :
    failure? (t.traverse f) = t.leaves.findSome? fun a => failure? (f a) := by
  induction t with
  | leaf test =>
    rw [traverse, failure?_bind_pure]
    simp [leaves]
  | and l r ihl ihr | or l r ihl ihr =>
    rw [traverse, leaves, List.findSome?_append, ← ihl, ← ihr]
    exact failure?_bind _ _ fun l' => failure?_bind_pure ..
  | not t ih => rw [traverse, leaves, ← ih, failure?_bind_pure]

end Condition

end Failures

theorem firstRepeated_eq_some_iff {α : Type} [DecidableEq α] {seen as : List α} {a : α} :
    firstRepeated seen as = some a ↔ ∃ before after, as = before ++ a :: after ∧
      (a ∈ before ∨ a ∈ seen) ∧ before.Nodup ∧ ∀ b ∈ before, b ∉ seen := by
  induction as generalizing seen with
  | nil => simp [firstRepeated]
  | cons b as ih =>
    rw [firstRepeated]
    split
    · next hb =>
      constructor
      · rintro ⟨⟩
        exact ⟨[], as, rfl, .inr hb, .nil, by simp⟩
      · rintro ⟨before, after, heq, -, -, hbefore⟩
        cases before with
        | nil =>
          cases heq
          rfl
        | cons c before =>
          cases heq
          exact absurd hb (hbefore _ List.mem_cons_self)
    · next hb =>
      rw [ih]
      constructor
      · rintro ⟨before, after, rfl, ha, hnodup, hbefore⟩
        refine ⟨b :: before, after, rfl, ?_, ?_, ?_⟩
        · grind
        · exact List.nodup_cons.2 ⟨fun hmem => hbefore b hmem List.mem_cons_self, hnodup⟩
        · grind
      · rintro ⟨before, after, heq, ha, hnodup, hbefore⟩
        cases before with
        | nil => grind
        | cons c before =>
          cases heq
          obtain ⟨hc, hnodup⟩ := List.nodup_cons.1 hnodup
          exact ⟨before, after, rfl, by grind, hnodup, by grind⟩

namespace NameMap

theorem find?_eq_some_iff {α : Type} {m : NameMap α} {name : String} {value : α} :
    m.find? name = some value ↔ (name, value) ∈ m.entries := by
  rw [find?, List.lookup_eq_some_iff]
  constructor
  · rintro ⟨before, after, hentries, -⟩
    simp [hentries]
  · intro h
    obtain ⟨before, after, hentries⟩ := List.append_of_mem h
    refine ⟨before, after, hentries, fun entry hmem => ?_⟩
    have hsorted := m.sorted
    rw [hentries] at hsorted
    have hlt := (List.pairwise_append.1 hsorted).2.2 entry hmem _ List.mem_cons_self
    simpa using (ne_of_gt hlt)

end NameMap

namespace Schema

def Accepts (schema : Schema) (test : FieldTest) : Prop :=
  ∃ field, (test.field, field) ∈ schema.fields.entries ∧ field.kind = test.value.kind

inductive Refuses (schema : Schema) (test : FieldTest) : QueryError → Prop
  | unknown : (∀ field, (test.field, field) ∉ schema.fields.entries) →
      Refuses schema test (.unknownField test.field)
  | mismatch {field : Field} : (test.field, field) ∈ schema.fields.entries →
      field.kind ≠ test.value.kind →
      Refuses schema test (.typeMismatch test.field field.kind test.value.kind)

/-- The test is the same, with the place where its field is stored. -/
structure Locates (schema : Schema) (test : FieldTest) (column : ColumnTest) : Prop where
  same : column.field = test.field ∧ column.op = test.op ∧ column.value = test.value
  stored : ∃ field, (test.field, field) ∈ schema.fields.entries ∧ column.column = field.column ∧
    column.kind = field.kind ∧ (∀ table, field.table = some table → column.table = table) ∧
    (field.table = none → column.table = schema.baseTable)

theorem field?_eq_some_iff {schema : Schema} {name : String} {field : Field} :
    schema.field? name = some field ↔ (name, field) ∈ schema.fields.entries :=
  NameMap.find?_eq_some_iff

end Schema

namespace FieldTest

variable {schema : Schema} {test : FieldTest}

theorem locates_of_resolve {column : ColumnTest} (h : test.resolve schema = .ok column) :
    schema.Locates test column := by
  obtain ⟨field, hf, -, rfl⟩ := resolve_eq_ok_iff.1 h
  refine ⟨⟨rfl, rfl, rfl⟩, field, Schema.field?_eq_some_iff.1 hf, rfl, rfl, ?_, ?_⟩
  · intro table ht
    simp [Schema.tableOf, ht]
  · intro ht
    simp [Schema.tableOf, ht]

theorem exists_resolve_iff :
    (∃ column, test.resolve schema = .ok column) ↔ schema.Accepts test := by
  simp only [resolve_eq_ok_iff, Schema.field?_eq_some_iff]
  constructor
  · rintro ⟨column, field, hmem, hkind, -⟩
    exact ⟨field, hmem, hkind⟩
  · rintro ⟨field, hmem, hkind⟩
    exact ⟨_, field, hmem, hkind, rfl⟩

theorem resolve_eq_error_iff {error : QueryError} :
    test.resolve schema = .error error ↔ schema.Refuses test error := by
  constructor
  · intro h
    unfold resolve at h
    split at h
    · next hf =>
      cases h
      refine .unknown fun field hmem => ?_
      cases hf.symm.trans (Schema.field?_eq_some_iff.2 hmem)
    · next field hf =>
      split at h
      · cases h
      · next hkind =>
        cases h
        exact .mismatch (Schema.field?_eq_some_iff.1 hf) hkind
  · intro h
    cases h with
    | unknown hnone =>
      have hf : schema.field? test.field = none :=
        Option.eq_none_iff_forall_ne_some.2 fun field hf =>
          hnone field (Schema.field?_eq_some_iff.1 hf)
      rw [resolve, hf]
    | @mismatch field hmem hkind =>
      rw [resolve, Schema.field?_eq_some_iff.2 hmem]
      exact if_neg hkind

end FieldTest

namespace Query

def tests (q : Query) : List FieldTest := q.filter.elim [] Condition.leaves

theorem failure?_resolveFilter (schema : Schema) (q : Query) :
    failure? (resolveFilter schema q.filter) =
      q.tests.findSome? fun test => failure? (test.resolve schema) := by
  rw [tests]
  cases q.filter with
  | none => rfl
  | some t =>
    rw [Option.elim_some, ← Condition.failure?_traverse, resolveFilter, Filter.resolve]
    cases t.traverse (FieldTest.resolve schema) <;> rfl

def FirstRefused (schema : Schema) (tests : List FieldTest) (error : QueryError) : Prop :=
  ∃ before test after, tests = before ++ test :: after ∧ (∀ t ∈ before, schema.Accepts t) ∧
    schema.Refuses test error

def FirstRepeated (dimensions : List Dimension) (error : QueryError) : Prop :=
  ∃ before dimension after, dimensions = before ++ dimension :: after ∧ dimension ∈ before ∧
    before.Nodup ∧ error = .repeatedDimension dimension

theorem resolveFilter_eq_error_iff {schema : Schema} {q : Query} {error : QueryError} :
    resolveFilter schema q.filter = .error error ↔ FirstRefused schema q.tests error := by
  rw [← failure?_eq_some_iff, failure?_resolveFilter, List.findSome?_eq_some_iff]
  simp only [failure?_eq_some_iff, failure?_eq_none_iff, FieldTest.exists_resolve_iff,
    FieldTest.resolve_eq_error_iff, FirstRefused]
  grind

theorem exists_resolveFilter_iff {schema : Schema} {q : Query} :
    (∃ filter, resolveFilter schema q.filter = .ok filter) ↔
      ∀ test ∈ q.tests, schema.Accepts test := by
  rw [← failure?_eq_none_iff, failure?_resolveFilter, List.findSome?_eq_none_iff]
  simp only [failure?_eq_none_iff, FieldTest.exists_resolve_iff]

theorem alike_of_resolveFilter {schema : Schema} {filter : Option Filter}
    {resolved : Option ColumnCondition} (h : resolveFilter schema filter = .ok resolved) :
    Option.Rel (Condition.Alike schema.Locates) filter resolved := by
  obtain ⟨rfl, rfl⟩ | ⟨t, u, rfl, rfl, ht⟩ := resolveFilter_eq_ok_iff.1 h
  · exact .none
  · exact .some (Condition.alike_of_traverse FieldTest.locates_of_resolve ht)

theorem nodup_iff_count {dimensions : List Dimension} :
    dimensions.Nodup ↔ dimensions.count .session ≤ 1 ∧ ∀ key, dimensions.count (.tag key) ≤ 1 := by
  rw [List.nodup_iff_count_le_one]
  refine ⟨fun h => ⟨h _, fun key => h _⟩, fun h d => ?_⟩
  cases d with
  | session => exact h.1
  | tag key => exact h.2 key

theorem firstRepeated_iff {dimensions : List Dimension} {error : QueryError} :
    FirstRepeated dimensions error ↔ ∃ dimension, firstRepeated [] dimensions = some dimension ∧
      error = .repeatedDimension dimension := by
  simp only [FirstRepeated, firstRepeated_eq_some_iff]
  constructor
  · rintro ⟨before, dimension, after, heq, hmem, hnodup, herror⟩
    exact ⟨dimension, ⟨before, after, heq, .inl hmem, hnodup, by simp⟩, herror⟩
  · rintro ⟨dimension, ⟨before, after, heq, hmem, hnodup, -⟩, herror⟩
    exact ⟨before, dimension, after, heq, by simpa using hmem, hnodup, herror⟩

theorem validate_eq_error_iff {schema : Schema} {q : Query} {error : QueryError} :
    q.validate schema = .error error ↔ resolveFilter schema q.filter = .error error ∨
      (∃ filter, resolveFilter schema q.filter = .ok filter) ∧ FirstRepeated q.groupBy error := by
  rw [firstRepeated_iff, validate, bind_eq_error_iff]
  cases firstRepeated [] q.groupBy with
  | none => simp [pure, Except.pure]
  | some dimension => simp [throw, throwThe, MonadExceptOf.throw, @eq_comm _ error]

/-- A query is accepted exactly if every test is and no dimension comes twice. It then keeps its
shape, its operators, its literals, its dimensions and its page. Else it is refused for its first
test that is, and if there is none for its first dimension that came before. -/
theorem validate_exact (schema : Schema) (q : Query) :
    ((∃ r, q.validate schema = .ok r) ↔ (∀ test ∈ q.tests, schema.Accepts test) ∧
      q.groupBy.count .session ≤ 1 ∧ ∀ key, q.groupBy.count (.tag key) ≤ 1) ∧
    (∀ r, q.validate schema = .ok r →
      Option.Rel (Condition.Alike schema.Locates) q.filter r.filter ∧
        r.groupBy = q.groupBy ∧ r.page = q.page) ∧
    ∀ error, q.validate schema = .error error ↔
      FirstRefused schema q.tests error ∨
        (∀ test ∈ q.tests, schema.Accepts test) ∧ FirstRepeated q.groupBy error := by
  refine ⟨?_, fun r h => ?_, fun error => ?_⟩
  · rw [← exists_resolveFilter_iff, ← nodup_iff_count]
    simp only [validate_eq_ok_iff]
    constructor
    · rintro ⟨r, filter, hf, hnodup, -⟩
      exact ⟨⟨filter, hf⟩, hnodup⟩
    · rintro ⟨⟨filter, hf⟩, hnodup⟩
      exact ⟨_, filter, hf, hnodup, rfl⟩
  · obtain ⟨filter, hf, -, rfl⟩ := validate_eq_ok_iff.1 h
    exact ⟨alike_of_resolveFilter hf, rfl, rfl⟩
  · rw [validate_eq_error_iff, resolveFilter_eq_error_iff, exists_resolveFilter_iff]

theorem validate_exact_first :
    let known : FieldTest := ⟨"duration", .gt, .int 5, ⟨0, 8⟩⟩
    let unknown : FieldTest := ⟨"x", .eq, .int 1, ⟨20, 21⟩⟩
    let mistyped : FieldTest := ⟨"name", .eq, .int 1, ⟨30, 34⟩⟩
    let q : Query :=
      { filter := some (.and (.leaf known) (.not (.or (.leaf unknown) (.leaf mistyped))))
        groupBy := [.session, .tag "os", .session]
        page := ⟨0, 50, by decide⟩ }
    q.validate .builtin = .error (.unknownField "x") ∧
      FirstRefused .builtin q.tests (.unknownField "x") := by
  intro known unknown mistyped q
  have h : q.validate .builtin = .error (.unknownField "x") := by cbv
  obtain hf | ⟨-, _, _, _, -, -, -, herror⟩ := ((validate_exact .builtin q).2.2 _).1 h
  · exact ⟨h, hf⟩
  · cases herror

end Query

end FilterSql
