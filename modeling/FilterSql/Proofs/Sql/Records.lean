import FilterSql.Proofs.Sql.Scoping

namespace FilterSql

open Sql

variable {V : Type} (S : Server V) (db : Database V)

namespace Schema

variable (schema : Schema)

def relatedRow (table : String) (record : Row V) : Row V :=
  match schema.relations.find? table with
  | none => nullRow
  | some relation =>
    ((db table).find? fun row =>
      S.equal (row relation.foreignColumn) (record relation.localColumn)).getD nullRow

def fieldValue (record : Row V) (test : ColumnTest) : Option V :=
  if test.table = schema.baseTable then record test.column
  else schema.relatedRow S db test.table record test.column

end Schema

namespace ResolvedQuery

variable (schema : Schema) (q : ResolvedQuery)

def passes (record : Row V) : Bool :=
  q.filter.all fun t => t.truth (fun test =>
    S.compare test.op (schema.fieldValue S db record test)
      (some (S.literal (.ofLiteral test.value)))) == some true

def selected : List (Row V) := (db schema.baseTable).filter (q.passes S db schema)

end ResolvedQuery

namespace Sql

/-- A source that has the tables of a query's filter, joined to the base table under names of their
own. -/
structure Source.Serves (schema : Schema) (q : ResolvedQuery) (source : Source) : Prop where
  base : source.base = schema.baseTable
  filter : source.filter = q.filter
  related : ∃ joins, Statement.relatedJoins schema q.filter = .ok joins ∧ joins ⊆ source.joins
  attached : ∀ join ∈ source.joins, join.Attached source.base
  nodup : (source.joins.map Join.name).Nodup

def Source.scope (source : Source) (record : Row V) : Scope V :=
  Join.attach S db source.joins record (Function.update (fun _ => nullRow) source.base record)

theorem matches_linked (schema : Schema) (table : String) (relation : Relation) (record : Row V) :
    (Statement.linked schema table relation).matches S record = fun row =>
      S.equal (row relation.foreignColumn) (record relation.localColumn) := by
  funext row
  exact Bool.and_true _

theorem partner_linked {schema : Schema} {table : String} {relation : Relation}
    (h : schema.relations.find? table = some relation) (record : Row V) :
    (Statement.linked schema table relation).partner S db record =
      schema.relatedRow S db table record := by
  simp only [Join.partner, Schema.relatedRow, h, matches_linked]
  rfl

namespace Source.Serves

variable {source : Source} {schema : Schema} {q : ResolvedQuery} (h : source.Serves schema q)

include h

theorem scope_base (record : Row V) : source.scope S db record schema.baseTable = record := by
  have hbase : source.base ∉ source.joins.map Join.name := by
    intro hmem
    obtain ⟨join, hj, hname⟩ := List.mem_map.1 hmem
    exact (h.attached join hj).name_ne hname
  rw [← h.base]
  exact (attach_of_notMem S db hbase record _).trans (Function.update_self ..)

theorem scope_join {join : Join} (hj : join ∈ source.joins) (record : Row V) :
    source.scope S db record join.name = join.partner S db record :=
  attach_of_mem S db h.nodup hj record _

theorem scope_test {t : ColumnCondition} (ht : q.filter = some t) {test : ColumnTest}
    (htest : test ∈ t.leaves) (record : Row V) :
    source.scope S db record test.table test.column = schema.fieldValue S db record test := by
  obtain ⟨joins, hrelated, hsub⟩ := h.related
  rw [ht] at hrelated
  rcases Statement.table_cases hrelated htest with htable | ⟨hne, relation, hr, hjoin⟩
  · rw [Schema.fieldValue, if_pos htable, htable, h.scope_base]
  · have hpartner := h.scope_join S db (hsub hjoin) record
    rw [partner_linked S db hr] at hpartner
    rw [Schema.fieldValue, if_neg hne, ← hpartner]
    rfl

theorem all_holds (record : Row V) :
    source.tables.filter.all (holds S (source.scope S db record)) =
      q.passes S db schema record := by
  have htables : source.tables.filter = q.filter.map (Condition.map Comparing.ofTest) := by
    rw [← h.filter]
    rfl
  cases ht : q.filter with
  | none => simp only [htables, ResolvedQuery.passes, ht, Option.map_none, Option.all_none]
  | some t =>
    simp only [htables, ResolvedQuery.passes, ht, Option.map_some, Option.all_some, holds,
      Condition.truth_map]
    congr 1
    refine Condition.truth_congr fun test htest => ?_
    rw [← h.scope_test S db ht htest]
    rfl

/-- Where a record has at most one partner in every table that is joined, the source has one row for
every record that passes the filter. -/
theorem scopes_eq (hone : ∀ join ∈ source.joins, ∀ record ∈ db schema.baseTable,
      (db join.table).countP (join.matches S record) ≤ 1) :
    source.tables.scopes S db = (q.selected S db schema).map (source.scope S db) := by
  rw [← h.base] at hone
  have hjoined := foldl_extend S db h.attached hone
    (Function.update (fun _ => nullRow) source.base) fun record => Function.update_self ..
  have hscopes : source.tables.scopes S db =
      ((db source.base).map (source.scope S db)).filter fun s =>
        source.tables.filter.all (holds S s) := congrArg (List.filter _) hjoined
  rw [hscopes, List.filter_map, ResolvedQuery.selected, ← h.base]
  congr 2
  funext record
  exact h.all_holds S db record

end Source.Serves

end Sql

theorem Statement.serves_of_nodup {schema : Schema} {q : ResolvedQuery} {joins : List Join}
    (h : relatedJoins schema q.filter = .ok joins)
    (hn : (groups schema q joins).source.tables.names.Nodup) :
    (groups schema q joins).source.Serves schema q := by
  have hnodup := (List.nodup_cons.1 hn).2
  rw [Source.tables, List.map_map] at hnodup
  exact ⟨rfl, rfl, ⟨joins, h, List.subset_append_left _ _⟩, attached_groups h hn, hnodup⟩

end FilterSql
