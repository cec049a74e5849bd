import FilterSql.Proofs.Sql.Listing
import FilterSql.Proofs.Sql.Scoping

namespace FilterSql

namespace Sql

def Tree.tables : Tree → Tables
  | .listing q => q.tables
  | .paged q => q.body.tables

def Tree.qualifiers : Tree → List String
  | .listing q => q.all :: q.order.map (·.column.table)
  | .paged q => (q.body.outputs.flatMap (·.1.columns) ++ q.body.groupBy).map Column.table

/-- The tables by which WHERE names columns, from left to right. -/
def Tables.mentioned (t : Tables) : List String :=
  (t.filter.elim [] formulaColumns).map Column.table

def Tables.unaliased (t : Tables) : List String :=
  (t.joins.filter (·.as?.isNone)).map LeftJoin.table

/-- Columns are named by what stands in FROM, and in the condition of a join by the base table or by
what it joins. -/
structure Tree.Scoped (t : Tree) : Prop where
  qualifiers : ∀ name ∈ t.qualifiers, name ∈ t.tables.names
  mentioned : ∀ name ∈ t.tables.mentioned, name ∈ t.tables.names
  on : ∀ j ∈ t.tables.joins, ∀ c ∈ formulaColumns j.on, c.table = t.tables.base ∨ c.table = j.name

def Select.source : Select → Source
  | .records s => s.source
  | .groups s => s.source

theorem tables_tree (s : Select) : s.tree.tables = s.source.tables := by
  cases s <;> rfl

end Sql

namespace Statement

open Sql

variable {schema : Schema} {q : ResolvedQuery} {joins : List Join}

theorem mentioned_groups (schema : Schema) (q : ResolvedQuery) (joins : List Join) :
    (groups schema q joins).source.tables.mentioned = q.testTables := by
  simp only [Tables.mentioned, Source.tables, groups, gather, ResolvedQuery.testTables]
  cases q.filter with
  | none => rfl
  | some t => exact map_table_formulaColumns t

theorem table_recordOrder {key : SortKey} (h : key ∈ recordOrder schema) :
    key.column.table = schema.baseTable := by
  unfold recordOrder at h
  split at h
  · obtain rfl := List.mem_singleton.1 h
    rfl
  · split at h
    · obtain rfl := List.mem_singleton.1 h
      rfl
    · rcases List.mem_pair.1 h with rfl | rfl <;> rfl

theorem joins_kinds (h : relatedJoins schema q.filter = .ok joins) {j : LeftJoin}
    (hj : j ∈ (groups schema q joins).source.tables.joins) :
    j.as? = none ∧ schema.relations.contains j.table = true ∨
      ∃ i < q.groupBy.length, j.as? = some (labelName i) ∧ j.table = schema.labels.table := by
  obtain ⟨join, hjoin, rfl⟩ := List.mem_map.1 hj
  rcases List.mem_append.1 hjoin with hjoin | hjoin
  · obtain ⟨table, relation, -, hr, rfl⟩ := exists_linked h hjoin
    exact .inl ⟨rfl, Option.isSome_iff_exists.2 ⟨relation, hr⟩⟩
  · obtain ⟨key, i, hd, rfl⟩ := mem_labelJoins_iff.1 hjoin
    exact .inr ⟨i, (List.getElem?_eq_some_iff.1 (List.mem_zipIdx_iff_getElem?.1 hd)).1, rfl, rfl⟩

theorem unaliased_groups (h : relatedJoins schema q.filter = .ok joins) :
    (groups schema q joins).source.tables.unaliased =
      ((q.filter.map ColumnCondition.tables).getD []).filter (· != schema.baseTable) := by
  have hrelated : ∀ j ∈ joins.map Join.leftJoin, j.as?.isNone = true := fun j hj => by
    rw [as?_of_mem_relatedJoins h hj, Option.isNone_none]
  have hlabels : ∀ j ∈ (q.groupBy.zipIdx.filterMap (labelJoin? schema)).map Join.leftJoin,
      ¬j.as?.isNone = true := by
    intro j hj
    obtain ⟨join, hjoin, rfl⟩ := List.mem_map.1 hj
    obtain ⟨key, i, -, rfl⟩ := mem_labelJoins_iff.1 hjoin
    exact Bool.false_ne_true
  have htables : (joins.map Join.leftJoin).map LeftJoin.table = joins.map Join.name := by
    rw [List.map_map]
    refine List.map_congr_left fun join hjoin => ?_
    obtain ⟨table, relation, -, -, rfl⟩ := exists_linked h hjoin
    rfl
  rw [Tables.unaliased, Source.tables, groups, gather, List.map_append, List.filter_append,
    List.filter_eq_self.2 hrelated, List.filter_eq_nil_iff.2 hlabels, List.append_nil, htables,
    map_name_relatedJoins h]

theorem firsts_unaliased (h : relatedJoins schema q.filter = .ok joins) :
    Firsts (q.testTables.filter (· != schema.baseTable))
      (groups schema q joins).source.tables.unaliased := by
  rw [unaliased_groups h, ResolvedQuery.testTables]
  cases q.filter with
  | none => exact (firsts_eraseDups []).filter _
  | some t => exact (firsts_eraseDups _).filter _

theorem exists_select (dialect : Dialect) {statement : Statement}
    (hc : q.compile dialect schema = .ok statement) :
    ∃ joins s, relatedJoins schema q.filter = .ok joins ∧
      statement = ofSelect dialect.backend s ∧ s.source = (groups schema q joins).source ∧
      ∀ name ∈ s.tree.qualifiers, name ∈ s.source.tables.names := by
  obtain ⟨joins, hj, ⟨hg, rfl⟩ | ⟨-, -, -, rfl⟩⟩ := compile_eq_ok_iff.1 hc
  · refine ⟨joins, _, hj, rfl, ?_, fun name hname => ?_⟩
    · simp [Select.source, records, groups, gather, hg]
    · have hbase : name = schema.baseTable := by
        rcases List.mem_cons.1 hname with hname | hname
        · exact hname
        · obtain ⟨key, hkey, rfl⟩ := List.mem_map.1 hname
          exact table_recordOrder hkey
      exact hbase ▸ List.mem_cons_self
  · refine ⟨joins, _, hj, rfl, rfl, fun name hname => ?_⟩
    obtain ⟨c, hc, rfl⟩ := List.mem_map.1 hname
    rcases List.mem_append.1 hc with hc | hc
    · obtain ⟨output, hout, hc⟩ := List.mem_flatMap.1 hc
      exact table_mem_outputs hout hc
    · obtain ⟨o, ho, rfl⟩ := List.mem_map.1 hc
      exact table_mem_names ho

theorem scoped_tree {s : Select} (h : relatedJoins schema q.filter = .ok joins)
    (hs : s.source = (groups schema q joins).source)
    (hq : ∀ name ∈ s.tree.qualifiers, name ∈ s.source.tables.names) : s.tree.Scoped := by
  refine ⟨?_, ?_, ?_⟩
  all_goals rw [tables_tree]
  · exact hq
  · rw [hs, mentioned_groups]
    exact fun name hname => (mem_names_groups_iff h).2 (.inl (List.mem_cons_of_mem _ hname))
  · rw [hs]
    intro j hj c hc
    obtain ⟨join, hjoin, rfl⟩ := List.mem_map.1 hj
    exact (mem_formulaColumns_on (qualified_groups h join hjoin) hc).symm

end Statement

open Sql

/-- Every statement is that of one tree and no other, which names columns by what stands in its
FROM. That is the base table, tables that the schema relates to it, and labels. The related tables
are those of the tests but the base table, in the order in which they stand first in the filter. -/
theorem compile_scoped (dialect : Dialect) (schema : Schema) (q : ResolvedQuery)
    (statement : Statement) (hc : q.compile dialect schema = .ok statement) :
    ∃ tree : Tree,
      (∀ other : Tree, spell dialect.backend other.pieces = statement.sql ∧
        params other.pieces = statement.params ↔ other = tree) ∧
      tree.Scoped ∧ tree.tables.base = schema.baseTable ∧
      (∀ j ∈ tree.tables.joins, j.as? = none ∧ schema.relations.contains j.table = true ∨
        ∃ i < q.groupBy.length, j.as? = some (Statement.labelName i) ∧ j.table = schema.labels.table) ∧
      tree.tables.mentioned = q.testTables ∧
      Firsts (q.testTables.filter (· != schema.baseTable)) tree.tables.unaliased ∧
      ∀ t ∈ q.filter, Firsts (t.leaves.map ColumnTest.table) t.tables := by
  obtain ⟨joins, s, hj, rfl, hs, hq⟩ := Statement.exists_select dialect hc
  refine ⟨s.tree, tree_written_iff dialect.backend s, Statement.scoped_tree hj hs hq, ?_⟩
  rw [tables_tree, hs]
  exact ⟨rfl, fun j => Statement.joins_kinds hj, Statement.mentioned_groups schema q joins,
    Statement.firsts_unaliased hj, fun t _ => firsts_eraseDups _⟩

theorem compile_scoped_launches :
    let q : ResolvedQuery :=
      { filter := some (.or
          (.and (.leaf ⟨"launch_name", "launch", "name", .string, .eq, .string "main"⟩)
            (.leaf ⟨"status", "test_result", "status", .string, .ne, .string "passed"⟩))
          (.not (.leaf ⟨"launch_name", "launch", "name", .string, .eq, .string "next"⟩)))
        groupBy := [.session, .tag "os"]
        page := ⟨0, 5, by decide⟩ }
    ∃ statement, q.compile ⟨.postgres, none⟩ .builtin = .ok statement ∧
      ∃ tree : Tree,
        spell .postgres tree.pieces = statement.sql ∧ params tree.pieces = statement.params ∧
        tree.Scoped ∧ tree.tables.mentioned = ["launch", "test_result", "launch"] ∧
        Firsts ["launch", "launch"] tree.tables.unaliased := by
  intro q
  have hjoins : ∃ joins, Statement.relatedJoins .builtin q.filter = .ok joins :=
    (Statement.exists_relatedJoins_iff _ _).2 (by decide)
  obtain ⟨statement, hc⟩ := (Statement.exists_compile_iff ⟨.postgres, none⟩ .builtin q).2
    ⟨hjoins, .inr (by decide)⟩
  obtain ⟨tree, hwritten, hscoped, -, -, hmentioned, hfirsts, -⟩ :=
    compile_scoped ⟨.postgres, none⟩ .builtin q statement hc
  obtain ⟨hsql, hparams⟩ := (hwritten tree).2 rfl
  exact ⟨statement, hc, tree, hsql, hparams, hscoped, hmentioned, hfirsts⟩

end FilterSql
