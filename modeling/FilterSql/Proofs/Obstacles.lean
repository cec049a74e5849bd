import FilterSql.Proofs.Resolution

namespace FilterSql

theorem failure?_mapM {α β ε : Type} (f : α → Except ε β) (as : List α) :
    failure? (as.mapM f) = as.findSome? fun a => failure? (f a) := by
  induction as with
  | nil => rfl
  | cons a as ih =>
    rw [List.mapM_cons, List.findSome?_cons, ← ih]
    cases f a with
    | error e => rfl
    | ok b => exact failure?_bind_pure ..

def Dialect.CannotGroup (d : Dialect) : Prop :=
  d.supports .commonTableExpressions = false ∨ d.supports .windowFunctions = false

instance (d : Dialect) : Decidable d.CannotGroup := inferInstanceAs (Decidable (_ ∨ _))

theorem Dialect.isSome_missing?_iff {d : Dialect} : d.missing?.isSome = true ↔ d.CannotGroup := by
  unfold missing? CannotGroup
  cases d.supports .commonTableExpressions <;> cases d.supports .windowFunctions <;> decide

def Schema.Reaches (schema : Schema) (table : String) : Prop :=
  table = schema.baseTable ∨ ∃ relation, (table, relation) ∈ schema.relations.entries

theorem Schema.knows_iff {schema : Schema} {table : String} :
    schema.knows table = true ↔ schema.Reaches table := by
  simp only [knows, NameMap.contains, Reaches, Bool.or_eq_true, beq_iff_eq, Option.isSome_iff_exists,
    NameMap.find?_eq_some_iff]

namespace ResolvedQuery

variable (dialect : Dialect) (schema : Schema) (q : ResolvedQuery)

def tables : List String := q.filter.elim [] ColumnCondition.tables

def Ungroupable : Prop := q.groupBy ≠ [] ∧ dialect.CannotGroup

instance : Decidable (q.Ungroupable dialect) := inferInstanceAs (Decidable (_ ∧ _))

def EmptyKeyAt (i : Nat) : Prop :=
  q.groupBy[i]? = some (.tag "") ∧ ∀ j < i, q.groupBy[j]? ≠ some (.tag "")

def Unreached (table : String) : Prop :=
  ∃ before after, q.tables = before ++ table :: after ∧ (∀ t ∈ before, schema.Reaches t) ∧
    ¬schema.Reaches table

/-- What stands in the way of a statement, with the error that tells it. -/
inductive Obstacle : QueryError → Prop
  | server : q.Ungroupable dialect → Obstacle (.compile (.groupingUnsupported dialect.name))
  | emptyKey {i : Nat} : ¬q.Ungroupable dialect → q.EmptyKeyAt i →
      Obstacle (.unsupportedGrouping (.emptyKey i))
  | unreached {table : String} : ¬q.Ungroupable dialect → (∀ i, ¬q.EmptyKeyAt i) →
      q.Unreached schema table → Obstacle (.compile (.unrelatedTable table schema.baseTable))

end ResolvedQuery

namespace Statement

variable {dialect : Dialect} {schema : Schema} {q : ResolvedQuery}

theorem failure?_relatedJoin (schema : Schema) {table : String} (h : table ≠ schema.baseTable) :
    failure? (relatedJoin schema table) =
      if schema.knows table then none
      else some (.compile (.unrelatedTable table schema.baseTable)) := by
  unfold relatedJoin Schema.knows NameMap.contains
  cases schema.relations.find? table <;> simp [failure?, h]

theorem failure?_relatedJoins (schema : Schema) (q : ResolvedQuery) :
    failure? (relatedJoins schema q.filter) =
      (q.tables.find? (!schema.knows ·)).map fun table =>
        .compile (.unrelatedTable table schema.baseTable) := by
  have htables : (q.filter.map ColumnCondition.tables).getD [] = q.tables := by
    unfold ResolvedQuery.tables
    cases q.filter <;> rfl
  rw [relatedJoins, htables, failure?_mapM]
  induction q.tables with
  | nil => rfl
  | cons table tables ih =>
    by_cases hbase : table = schema.baseTable
    · simp [hbase, Schema.knows, ih]
    · rw [List.filter_cons_of_pos (by simpa using hbase), List.findSome?_cons, ih,
        failure?_relatedJoin schema hbase]
      cases hknows : schema.knows table <;> simp [hknows]

theorem groupFault?_of_nodup {dimensions : List Dimension} (h : dimensions.Nodup) :
    groupFault? dimensions = (emptyKey? dimensions).map .emptyKey := by
  rw [groupFault?, (firstRepeated_eq_none_iff [] dimensions).2 ⟨h, by simp⟩]

theorem failure?_compile (dialect : Dialect) (schema : Schema) (h : q.groupBy.Nodup) :
    failure? (q.compile dialect schema) =
      ((if q.Ungroupable dialect then some (.compile (.groupingUnsupported dialect.name))
        else none).or
      ((emptyKey? q.groupBy).map fun i => .unsupportedGrouping (.emptyKey i))).or
      (failure? (relatedJoins schema q.filter)) := by
  have hmap (f : List Sql.Join → Statement) :
      failure? ((relatedJoins schema q.filter).map f) = failure? (relatedJoins schema q.filter) := by
    cases relatedJoins schema q.filter <;> rfl
  simp only [compile_eq, groupFault?_of_nodup h, Dialect.isSome_missing?_iff,
    ResolvedQuery.Ungroupable]
  by_cases hg : q.groupBy = []
  · simp [hg, emptyKey?, hmap]
  · by_cases hm : dialect.CannotGroup
    · simp [hg, hm, failure?]
    · cases emptyKey? q.groupBy with
      | some i => simp [hg, hm, failure?]
      | none => simp [hg, hm, hmap]

theorem emptyKey?_eq_some_iff {i : Nat} : emptyKey? q.groupBy = some i ↔ q.EmptyKeyAt i := by
  rw [emptyKey?, List.idxOf?_eq_some_iff, ResolvedQuery.EmptyKeyAt, List.getElem?_eq_some_iff]
  grind

theorem find?_knows_eq_some_iff {table : String} :
    q.tables.find? (!schema.knows ·) = some table ↔ q.Unreached schema table := by
  rw [List.find?_eq_some_iff_append, ResolvedQuery.Unreached]
  simp only [← Schema.knows_iff]
  grind

open ResolvedQuery (Obstacle)

theorem compile_eq_error_iff (h : q.groupBy.Nodup) {error : QueryError} :
    q.compile dialect schema = .error error ↔ Obstacle dialect schema q error := by
  have hkey : emptyKey? q.groupBy = none ↔ ∀ i, ¬q.EmptyKeyAt i := by
    simp only [Option.eq_none_iff_forall_ne_some, ne_eq, emptyKey?_eq_some_iff]
  rw [← failure?_eq_some_iff, failure?_compile dialect schema h, failure?_relatedJoins]
  simp only [Option.or_eq_some_iff, Option.or_eq_none_iff, Option.map_eq_some_iff,
    Option.map_eq_none_iff, emptyKey?_eq_some_iff, find?_knows_eq_some_iff, hkey]
  constructor
  · rintro ((hs | ⟨hs, i, hi, rfl⟩) | ⟨⟨hs, hk⟩, table, ht, rfl⟩)
    · split at hs
      · next hu =>
        cases hs
        exact .server hu
      · cases hs
    · exact .emptyKey (by simpa using hs) hi
    · exact .unreached (by simpa using hs) hk ht
  · intro ho
    cases ho with
    | server hu => exact .inl (.inl (if_pos hu))
    | emptyKey hu hi => exact .inl (.inr ⟨if_neg hu, _, hi, rfl⟩)
    | unreached hu hk ht => exact .inr ⟨⟨if_neg hu, hk⟩, _, ht, rfl⟩

theorem exists_compile_iff_unobstructed (h : q.groupBy.Nodup) :
    (∃ statement, q.compile dialect schema = .ok statement) ↔
      ¬q.Ungroupable dialect ∧ (∀ i, ¬q.EmptyKeyAt i) ∧ ∀ table, ¬q.Unreached schema table := by
  have hobstacle : (∃ statement, q.compile dialect schema = .ok statement) ↔
      ∀ error, ¬Obstacle dialect schema q error := by
    simp only [← failure?_eq_none_iff, Option.eq_none_iff_forall_ne_some, ne_eq,
      failure?_eq_some_iff, compile_eq_error_iff h]
  rw [hobstacle]
  constructor
  · intro hnone
    have hu : ¬q.Ungroupable dialect := fun hu => hnone _ (.server hu)
    have hk : ∀ i, ¬q.EmptyKeyAt i := fun i hi => hnone _ (.emptyKey hu hi)
    exact ⟨hu, hk, fun table ht => hnone _ (.unreached hu hk ht)⟩
  · rintro ⟨hu, hk, ht⟩ error ho
    cases ho with
    | server hs => exact hu hs
    | emptyKey _ hi => exact hk _ hi
    | unreached _ _ hr => exact ht _ hr

/-- A query that was found good in any schema fails for the first of three reasons that applies, told
with what is to blame, and has a statement if none does. The check for a repeated dimension finds
none, and every tag has a name for its join, where it is selected and where it is grouped by. -/
theorem compile_fails_exactly (dialect : Dialect) (found schema : Schema) (query : Query)
    (q : ResolvedQuery) (h : query.validate found = .ok q) :
    let result := q.compile dialect schema
    (result = .error (.compile (.groupingUnsupported dialect.name)) ↔ q.Ungroupable dialect) ∧
    (∀ i, result = .error (.unsupportedGrouping (.emptyKey i)) ↔
      ¬q.Ungroupable dialect ∧ q.EmptyKeyAt i) ∧
    (∀ table, result = .error (.compile (.unrelatedTable table schema.baseTable)) ↔
      ¬q.Ungroupable dialect ∧ (∀ i, ¬q.EmptyKeyAt i) ∧ q.Unreached schema table) ∧
    ((∃ statement, result = .ok statement) ↔
      ¬q.Ungroupable dialect ∧ (∀ i, ¬q.EmptyKeyAt i) ∧ ∀ table, ¬q.Unreached schema table) ∧
    (∀ dimension, result ≠ .error (.unsupportedGrouping (.repeated dimension))) ∧
    (∀ key, result ≠ .error (.unsupportedGrouping (.unjoined key))) ∧
    firstRepeated [] q.groupBy = none ∧
    ∀ d ∈ q.groupBy.zipIdx, (∃ part, dimensionOutput schema d = .ok part) ∧
      ∃ column, groupKey schema d = .ok column := by
  obtain ⟨filter, -, hn, hq⟩ := Query.validate_eq_ok_iff.1 h
  have hnodup : q.groupBy.Nodup := by rwa [hq]
  have herror (error : QueryError) :
      q.compile dialect schema = .error error ↔ Obstacle dialect schema q error :=
    compile_eq_error_iff hnodup
  intro result
  refine ⟨(herror _).trans ⟨?_, .server⟩, fun i => (herror _).trans ⟨?_, fun ⟨hu, hi⟩ =>
    .emptyKey hu hi⟩, fun table => (herror _).trans ⟨?_, fun ⟨hu, hk, ht⟩ => .unreached hu hk ht⟩,
    exists_compile_iff_unobstructed hnodup, fun dimension hr => ?_, fun key hr => ?_,
    (firstRepeated_eq_none_iff [] q.groupBy).2 ⟨hnodup, by simp⟩,
    fun d _ => ⟨⟨_, dimensionOutput_eq schema d⟩, _, groupKey_eq schema d⟩⟩
  · rintro ⟨hu⟩
    exact hu
  · rintro ⟨⟩
    constructor <;> assumption
  · rintro ⟨⟩
    refine ⟨?_, ?_, ?_⟩ <;> assumption
  · cases (herror _).1 hr
  · cases (herror _).1 hr

theorem compile_fails_exactly_each :
    let page : Page := ⟨0, 50, by decide⟩
    let query (groupBy : List Dimension) : Query :=
      { filter := some (.and (.leaf ⟨"name", .eq, .string "a", ⟨0, 4⟩⟩)
          (.leaf ⟨"launch_name", .eq, .string "main", ⟨15, 26⟩⟩))
        groupBy := groupBy
        page := page }
    let resolved (groupBy : List Dimension) : ResolvedQuery :=
      { filter := some (.and (.leaf ⟨"name", "test_result", "name", .string, .eq, .string "a"⟩)
          (.leaf ⟨"launch_name", "launch", "name", .string, .eq, .string "main"⟩))
        groupBy := groupBy
        page := page }
    let grouped : List Dimension := [.session, .tag "", .tag "os"]
    let bare : Schema := { Schema.builtin with relations := .empty }
    let old : Dialect := ⟨.sqlite, some ⟨3, 20, 0⟩⟩
    (query grouped).validate .builtin = .ok (resolved grouped) ∧
      (query []).validate .builtin = .ok (resolved []) ∧
      (resolved grouped).compile old bare = .error (.compile (.groupingUnsupported "sqlite")) ∧
      (resolved grouped).compile ⟨.sqlite, none⟩ bare =
        .error (.unsupportedGrouping (.emptyKey 1)) ∧
      (resolved []).compile old bare =
        .error (.compile (.unrelatedTable "launch" "test_result")) := by
  intro page query resolved grouped bare old
  have hgrouped : (query grouped).validate .builtin = .ok (resolved grouped) := rfl
  have hplain : (query []).validate .builtin = .ok (resolved []) := rfl
  refine ⟨hgrouped, hplain, ?_, ?_, ?_⟩
  · exact (compile_fails_exactly old .builtin bare _ _ hgrouped).1.2 (by decide)
  · exact ((compile_fails_exactly ⟨.sqlite, none⟩ .builtin bare _ _ hgrouped).2.1 1).2
      ⟨by decide, rfl, by decide⟩
  · refine ((compile_fails_exactly old .builtin bare _ _ hplain).2.2.1 "launch").2
      ⟨by decide, fun i hi => ?_, ["test_result"], [], rfl, ?_, ?_⟩
    · cases hi.1
    · simp [Schema.Reaches, bare, Schema.builtin]
    · simp [Schema.Reaches, bare, Schema.builtin, NameMap.empty]

end Statement

end FilterSql
