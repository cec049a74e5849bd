import FilterSql.Proofs.Sql.Scoping
import FilterSql.Proofs.Sql.Unambiguous
import FilterSql.Query.Validation

/-!
The names that a grouped statement makes up. A dimension has one name in every clause, by its
position, and no two of these names are the same. But nothing keeps a schema from giving such a name
to a table, and where it does so for a table that a query reads, the statement has the name twice.
-/

namespace FilterSql

open Sql

def Schema.dimensionColumn (schema : Schema) (position : Nat) : Dimension → Column
  | .session => ⟨schema.baseTable, schema.sessionColumn⟩
  | .tag _ => ⟨Statement.labelName position, schema.labels.valueColumn⟩

def Schema.keyJoin (schema : Schema) (name key : String) : LeftJoin where
  table := schema.labels.table
  as? := some name
  on := .and
    (.leaf ⟨.column ⟨name, schema.labels.foreignKey⟩, .eq,
      .column ⟨schema.baseTable, schema.primaryKey⟩⟩)
    (.leaf ⟨.column ⟨name, schema.labels.keyColumn⟩, .eq, .bound (.string key)⟩)

/-- What stands at the position of a dimension is the same in every clause: its column in SELECT and
GROUP BY, its name in SELECT and ORDER BY, and one join of the labels with its key. -/
structure Sql.PagedQuery.Aligned (schema : Schema) (dimensions : List Dimension)
    (names : List String) (tree : PagedQuery) : Prop where
  names_length : names.length = dimensions.length
  outputs_names : tree.body.outputs.map Prod.snd = names ++ [worstRankName, recordCountName]
  groupBy_length : tree.body.groupBy.length = dimensions.length
  order_length : tree.order.length = dimensions.length
  position : ∀ i d, dimensions[i]? = some d → ∃ name, names[i]? = some name ∧
    tree.body.outputs[i]? = some (.column (schema.dimensionColumn i d), name) ∧
    tree.body.groupBy[i]? = some (schema.dimensionColumn i d) ∧ tree.order[i]? = some name
  label : ∀ i key, dimensions[i]? = some (.tag key) →
    tree.body.tables.joins.filter (·.as? = some (Statement.labelName i)) =
      [schema.keyJoin (Statement.labelName i) key]

theorem filter_eq_singleton {α β : Type} [DecidableEq β] {f : α → β} {l : List α}
    (h : (l.map f).Nodup) {a : α} (ha : a ∈ l) : l.filter (f · = f a) = [a] := by
  induction l with
  | nil => cases ha
  | cons b l ih =>
    obtain ⟨hb, hl⟩ := List.nodup_cons.1 h
    by_cases he : f b = f a
    · have hrest : l.filter (f · = f a) = [] :=
        List.filter_eq_nil_iff.2 fun c hc hce =>
          hb (List.mem_map.2 ⟨c, hc, (of_decide_eq_true hce).trans he.symm⟩)
      have hba : a = b := (List.mem_cons.1 ha).resolve_right fun ha =>
        hb (List.mem_map.2 ⟨a, ha, he.symm⟩)
      rw [List.filter_cons_of_pos (by simpa using he), hrest, hba]
    · have ha : a ∈ l := (List.mem_cons.1 ha).resolve_left fun hab => he (hab ▸ rfl)
      rw [List.filter_cons_of_neg (by simpa using he), ih hl ha]

namespace Statement

variable {schema : Schema} {q : ResolvedQuery} {joins : List Join}

theorem output_eq (schema : Schema) (i : Nat) (d : Dimension) :
    output schema (d, i) = ⟨schema.dimensionColumn i d, outputName i d⟩ := by
  cases d <;> rfl

theorem getElem?_dimensions (schema : Schema) (joins : List Join) {i : Nat} {d : Dimension}
    (hd : q.groupBy[i]? = some d) : (groups schema q joins).dimensions[i]? =
      some ⟨schema.dimensionColumn i d, outputName i d⟩ := by
  simp [groups, gather, hd, output_eq]

theorem length_dimensions (schema : Schema) (q : ResolvedQuery) (joins : List Join) :
    (groups schema q joins).dimensions.length = q.groupBy.length := by
  simp [groups, gather]

theorem map_as?_labelJoins (schema : Schema) (dimensions : List (Dimension × Nat)) :
    ((dimensions.filterMap (labelJoin? schema)).map Join.leftJoin).map LeftJoin.as? =
      ((dimensions.filterMap (labelJoin? schema)).map Join.name).map some := by
  simp only [List.map_map]
  refine List.map_congr_left fun join hj => ?_
  obtain ⟨key, i, -, rfl⟩ := mem_labelJoins_iff.1 hj
  rfl

theorem filterMap_as?_labelJoins (schema : Schema) (dimensions : List (Dimension × Nat)) :
    ((dimensions.filterMap (labelJoin? schema)).map Join.leftJoin).filterMap LeftJoin.as? =
      (dimensions.filterMap (labelJoin? schema)).map Join.name := by
  have hsome (names : List String) : (names.map some).filterMap id = names := by simp
  have has (l : List LeftJoin) : l.filterMap LeftJoin.as? = (l.map LeftJoin.as?).filterMap id := by
    simp
  rw [has, map_as?_labelJoins, hsome]

theorem nodup_as?_labelJoins (schema : Schema) (dimensions : List Dimension) :
    (((dimensions.zipIdx.filterMap (labelJoin? schema)).map Join.leftJoin).map
      LeftJoin.as?).Nodup := by
  rw [map_as?_labelJoins]
  exact (nodup_map_name_labelJoins schema dimensions).map fun _ _ => Option.some.inj

theorem nodup_aliases (h : relatedJoins schema q.filter = .ok joins) :
    ((groups schema q joins).source.tables.joins.filterMap LeftJoin.as?).Nodup := by
  have hrelated : (joins.map Join.leftJoin).filterMap LeftJoin.as? = [] :=
    List.filterMap_eq_nil_iff.2 fun j hj => as?_of_mem_relatedJoins h hj
  rw [Source.tables, groups, gather, List.map_append, List.filterMap_append, hrelated,
    List.nil_append, filterMap_as?_labelJoins]
  exact nodup_map_name_labelJoins schema q.groupBy

theorem filter_labelName (h : relatedJoins schema q.filter = .ok joins) {i : Nat} {key : String}
    (hd : q.groupBy[i]? = some (.tag key)) :
    (groups schema q joins).source.tables.joins.filter (·.as? = some (labelName i)) =
      [schema.keyJoin (labelName i) key] := by
  have hrelated : (joins.map Join.leftJoin).filter (·.as? = some (labelName i)) = [] :=
    List.filter_eq_nil_iff.2 fun j hj => by simp [as?_of_mem_relatedJoins h hj]
  have hmem : (labelJoin schema (labelName i) key).leftJoin ∈
      (q.groupBy.zipIdx.filterMap (labelJoin? schema)).map Join.leftJoin :=
    List.mem_map_of_mem (mem_labelJoins_iff.2 ⟨key, i, List.mem_zipIdx_iff_getElem?.2 hd, rfl⟩)
  rw [Source.tables, groups, gather, List.map_append, List.filter_append, hrelated, List.nil_append]
  exact filter_eq_singleton (nodup_as?_labelJoins schema q.groupBy) hmem

theorem aligned_groups (h : relatedJoins schema q.filter = .ok joins) :
    (groups schema q joins).query.Aligned schema q.groupBy
      ((groups schema q joins).dimensions.map Output.name) where
  names_length := by rw [List.length_map, length_dimensions]
  outputs_names := map_snd_outputs _
  groupBy_length := by rw [GroupSelect.query, keys_groups, List.length_map, length_dimensions]
  order_length := by rw [GroupSelect.query, List.length_map, length_dimensions]
  position i d hd := by
    have hdimension := getElem?_dimensions schema joins hd
    have hlt : i < (groups schema q joins).dimensions.length :=
      (List.getElem?_eq_some_iff.1 hdimension).1
    refine ⟨outputName i d, ?_, ?_, ?_, ?_⟩
    · simp [hdimension]
    · rw [GroupSelect.query, List.getElem?_append_left (by simpa using hlt), List.getElem?_map,
        hdimension]
      rfl
    · simp [GroupSelect.query, keys_groups, hdimension]
    · simp [GroupSelect.query, hdimension]
  label i key hd := filter_labelName h hd

end Statement

/-- A grouped statement is that of one query and no other, whose clauses agree on the dimensions at
every position. The names of its columns are all different, and so are those of the labels. -/
theorem compile_aligned (dialect : Dialect) (schema : Schema) (q : ResolvedQuery)
    (statement : Statement) (hc : q.compile dialect schema = .ok statement) (hg : q.groupBy ≠ []) :
    ∃ tree : PagedQuery,
      (∀ other : PagedQuery, spell dialect.backend other.pieces = statement.sql ∧
        params other.pieces = statement.params ↔ other = tree) ∧
      tree.Aligned schema q.groupBy statement.groupColumns ∧ tree.total = totalCountName ∧
      (statement.groupColumns ++ [worstRankName, recordCountName, totalCountName]).Nodup ∧
      (tree.body.tables.joins.filterMap LeftJoin.as?).Nodup := by
  obtain ⟨joins, hj, ⟨hnil, -⟩ | ⟨-, -, hfault, rfl⟩⟩ := Statement.compile_eq_ok_iff.1 hc
  · exact absurd hnil hg
  · have hn : q.groupBy.Nodup := ((Statement.groupFault?_eq_none_iff q.groupBy).1 hfault).1
    exact ⟨(Statement.groups schema q joins).query, written_iff dialect.backend _,
      Statement.aligned_groups hj, rfl, Statement.nodup_groupColumns schema joins hn,
      Statement.nodup_aliases hj⟩

theorem compile_aligned_keys :
    let q : ResolvedQuery :=
      { filter := none
        groupBy := [.tag "os", .session, .tag "browser"]
        page := ⟨0, 5, by decide⟩ }
    ∃ statement, q.compile ⟨.mysql, none⟩ .builtin = .ok statement ∧
      ∃ tree : PagedQuery,
        spell .mysql tree.pieces = statement.sql ∧ params tree.pieces = statement.params ∧
        tree.Aligned .builtin [.tag "os", .session, .tag "browser"] statement.groupColumns ∧
        (statement.groupColumns ++ [worstRankName, recordCountName, totalCountName]).Nodup ∧
        (tree.body.tables.joins.filterMap LeftJoin.as?).Nodup := by
  intro q
  obtain ⟨statement, hc⟩ := (Statement.exists_compile_iff ⟨.mysql, none⟩ .builtin q).2
    ⟨⟨[], rfl⟩, .inr (by decide)⟩
  obtain ⟨tree, hwritten, haligned, -, hcolumns, haliases⟩ :=
    compile_aligned ⟨.mysql, none⟩ .builtin q statement hc (by decide)
  obtain ⟨hsql, hparams⟩ := (hwritten tree).2 rfl
  exact ⟨statement, hc, tree, hsql, hparams, haligned, hcolumns, haliases⟩

/-- The names in the FROM of a grouped statement are different exactly if no table that it reads has
the name of one of its labels, and none of them is that of the common table exactly if no table that
it reads has this name. -/
theorem compile_names_nodup_iff (dialect : Dialect) (schema : Schema) (q : ResolvedQuery)
    (statement : Statement) (hc : q.compile dialect schema = .ok statement) (hg : q.groupBy ≠ []) :
    ∃ tree : PagedQuery,
      (∀ other : PagedQuery, spell dialect.backend other.pieces = statement.sql ∧
        params other.pieces = statement.params ↔ other = tree) ∧
      (tree.body.tables.names.Nodup ↔ ∀ i key, q.groupBy[i]? = some (.tag key) →
        Statement.labelName i ∉ schema.baseTable :: q.testTables) ∧
      (tree.name ∉ tree.body.tables.names ↔
        groupsName ∉ schema.baseTable :: q.testTables) := by
  obtain ⟨joins, hj, ⟨hnil, -⟩ | ⟨-, -, -, rfl⟩⟩ := Statement.compile_eq_ok_iff.1 hc
  · exact absurd hnil hg
  · refine ⟨(Statement.groups schema q joins).query, written_iff dialect.backend _,
      Statement.nodup_names_iff hj, not_congr ((Statement.mem_names_groups_iff hj).trans ?_)⟩
    have hprefix : ¬"label_".toList <+: groupsName.toList := by decide
    refine or_iff_left ?_
    rintro ⟨i, key, -, hname⟩
    exact Statement.labelName_ne hprefix i hname

theorem compile_names_nodup_iff_launches :
    let q : ResolvedQuery :=
      { filter := some (.leaf ⟨"launch_name", "launch", "name", .string, .eq, .string "main"⟩)
        groupBy := [.session, .tag "os"]
        page := ⟨0, 5, by decide⟩ }
    ∃ statement, q.compile ⟨.postgres, none⟩ .builtin = .ok statement ∧
      ∃ tree : PagedQuery,
        spell .postgres tree.pieces = statement.sql ∧ params tree.pieces = statement.params ∧
        tree.body.tables.names.Nodup ∧ tree.name ∉ tree.body.tables.names := by
  intro q
  have hjoins : ∃ joins, Statement.relatedJoins .builtin q.filter = .ok joins :=
    (Statement.exists_relatedJoins_iff _ _).2 (by decide)
  obtain ⟨statement, hc⟩ := (Statement.exists_compile_iff ⟨.postgres, none⟩ .builtin q).2
    ⟨hjoins, .inr (by decide)⟩
  obtain ⟨tree, hwritten, hnodup, hname⟩ :=
    compile_names_nodup_iff ⟨.postgres, none⟩ .builtin q statement hc (by decide)
  obtain ⟨hsql, hparams⟩ := (hwritten tree).2 rfl
  have hapart : ∀ table ∈ ["test_result", "launch"], ¬"label_".toList <+: table.toList := by decide
  refine ⟨statement, hc, tree, hsql, hparams, hnodup.2 fun i key _ hi => ?_, hname.2 (by decide)⟩
  exact Statement.labelName_ne (hapart _ hi) i rfl

/-- A schema whose tables have the names that grouped statements make up. -/
def crossedSchema : Schema :=
  { Schema.builtin with
    baseTable := "label_0"
    relations := .ofList [("grouped_results", ⟨"launch_id", "id"⟩)]
    fields := .ofList [("launch_name", ⟨"name", .string, some "grouped_results"⟩)] }

theorem compile_names_crossed :
    let query : Query :=
      { filter := some (.leaf ⟨"launch_name", .eq, .string "main", ⟨0, 11⟩⟩)
        groupBy := [.tag "os"]
        page := ⟨0, 50, by decide⟩ }
    crossedSchema.check = .ok () ∧
    ∃ q statement, query.validate crossedSchema = .ok q ∧
      q.compile ⟨.postgres, none⟩ crossedSchema = .ok statement ∧
      ∃ tree : PagedQuery,
        (∀ other : PagedQuery, spell .postgres other.pieces = statement.sql ∧
          params other.pieces = statement.params ↔ other = tree) ∧
        tree.body.tables.names = ["label_0", "grouped_results", "label_0"] ∧
        tree.name = "grouped_results" ∧
        ¬tree.body.tables.names.Nodup ∧ tree.name ∈ tree.body.tables.names := by
  intro query
  let q : ResolvedQuery :=
    { filter := some (.leaf ⟨"launch_name", "grouped_results", "name", .string, .eq,
        .string "main"⟩)
      groupBy := [.tag "os"]
      page := ⟨0, 50, by decide⟩ }
  let joins := [Statement.linked crossedSchema "grouped_results" ⟨"launch_id", "id"⟩]
  have hv : query.validate crossedSchema = .ok q := rfl
  have hj : Statement.relatedJoins crossedSchema q.filter = .ok joins := rfl
  have hc : q.compile ⟨.postgres, none⟩ crossedSchema =
      .ok (.ofSelect .postgres (.groups (Statement.groups crossedSchema q joins))) :=
    Statement.compile_eq_ok_iff.2 ⟨joins, hj, .inr ⟨by decide, by decide, by decide, rfl⟩⟩
  exact ⟨by decide, q, _, hv, hc, _, written_iff .postgres _, rfl, rfl, by decide, by decide⟩

end FilterSql
