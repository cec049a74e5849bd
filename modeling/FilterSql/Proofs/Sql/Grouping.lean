import FilterSql.Proofs.Engine
import FilterSql.Proofs.Sql.Records
import FilterSql.Proofs.Sql.Unambiguous

namespace FilterSql

open Sql

variable {V : Type} (S : Server V) (db : Database V)

namespace Schema

variable (schema : Schema)

def isLabel (record : Row V) (key : String) (row : Row V) : Bool :=
  S.equal (row schema.labels.foreignKey) (record schema.primaryKey) &&
    S.equal (row schema.labels.keyColumn) (some (S.literal (.string key)))

def labelValue (record : Row V) (key : String) : Option V :=
  ((db schema.labels.table).find? (schema.isLabel S record key)).bind fun row =>
    row schema.labels.valueColumn

def dimensionValue (record : Row V) : Dimension → Option V
  | .session => record schema.sessionColumn
  | .tag key => schema.labelValue S db record key

/-- The rank of the first listed status that a value equals; zero if there is none. -/
def rankOf (value : Option V) : Nat :=
  ((schema.status.severity.find? fun status =>
    S.equal value (some (S.literal (.string status)))).map schema.statusRank).getD 0

/-- The keys of a database: every record has its primary key, no value is found twice in a column
that a relation leads to, and a record has at most one label of each key. -/
structure Keyed : Prop where
  primaryKey : ∀ record ∈ db schema.baseTable, (record schema.primaryKey).isSome = true
  related : ∀ table relation, schema.relations.find? table = some relation → ∀ value,
    (db table).countP (fun row => S.equal (row relation.foreignColumn) value) ≤ 1
  labels : ∀ record ∈ db schema.baseTable, ∀ key,
    (db schema.labels.table).countP (schema.isLabel S record key) ≤ 1

end Schema

abbrev tupleLe : List (Option V) → List (Option V) → Prop := lexLe fun a b => S.le a b = true

namespace ResolvedQuery

variable (schema : Schema) (q : ResolvedQuery)

def tuple (record : Row V) : List (Option V) := q.groupBy.map (schema.dimensionValue S db record)

def columns : List String := q.groupBy.zipIdx.map fun (d, i) => Statement.outputName i d

variable [DecidableEq V]

def tuples : List (List (Option V)) :=
  ((q.selected S db schema).map (q.tuple S db schema)).dedup.insertionSort (tupleLe S)

def part (tuple : List (Option V)) : List (Row V) :=
  (q.selected S db schema).filter (q.tuple S db schema · = tuple)

def worstRank (records : List (Row V)) : Nat :=
  (records.map fun record => schema.rankOf S (record schema.status.column)).max?.getD 0

def groupRecord (tuple : List (Option V)) : Record V :=
  q.columns.zip (tuple.map .value) ++
    [(worstRankName, .number (worstRank S schema (q.part S db schema tuple))),
      (recordCountName, .number (q.part S db schema tuple).length),
      (totalCountName, .number (q.tuples S db schema).length)]

def groupPage : List (Record V) :=
  (((q.tuples S db schema).drop q.page.offset.toNat).take q.page.limit.toNat).map
    (q.groupRecord S db schema)

end ResolvedQuery

namespace Statement

section Groups

variable {schema : Schema} {q : ResolvedQuery} {joins : List Join}

theorem countP_matches_le (h : relatedJoins schema q.filter = .ok joins)
    (hk : schema.Keyed S db) :
    ∀ join ∈ (groups schema q joins).source.joins, ∀ record ∈ db schema.baseTable,
      (db join.table).countP (join.matches S record) ≤ 1 := by
  intro join hj record hr
  rcases List.mem_append.1 hj with hj | hj
  · obtain ⟨table, relation, -, hrelation, rfl⟩ := exists_linked h hj
    rw [matches_linked]
    exact hk.related table relation hrelation _
  · obtain ⟨key, i, -, rfl⟩ := mem_labelJoins_iff.1 hj
    exact hk.labels record hr key

theorem partner_labelJoin (name key : String) (record : Row V) :
    (labelJoin schema name key).partner S db record schema.labels.valueColumn =
      schema.labelValue S db record key := by
  have hpartner : (labelJoin schema name key).partner S db record =
      ((db schema.labels.table).find? (schema.isLabel S record key)).getD nullRow := rfl
  rw [hpartner, Schema.labelValue]
  cases (db schema.labels.table).find? (schema.isLabel S record key) <;> rfl

theorem tuple_eq (record : Row V) : q.tuple S db schema record =
    q.groupBy.zipIdx.map fun position => schema.dimensionValue S db record position.1 := by
  have hmap := List.map_map (g := schema.dimensionValue S db record) (f := Prod.fst)
    (l := q.groupBy.zipIdx)
  rw [List.zipIdx_map_fst] at hmap
  exact hmap

theorem caseValue_ranks (scope : Scope V) :
    caseValue S ((groups schema q joins).ranks.map fun entry =>
        (⟨.column (groups schema q joins).status, .eq, .constant entry.1⟩, entry.2)) 0 scope =
      schema.rankOf S (scope schema.baseTable schema.status.column) := by
  simp only [caseValue, groups, gather, List.map_map, List.find?_map, Option.map_map]
  rfl

variable (h : relatedJoins schema q.filter = .ok joins) (ha : schema.NamesApart)

include h ha

theorem serves_groups : (groups schema q joins).source.Serves schema q :=
  serves_of_nodup h (nodup_names h ha)

theorem scope_output {d : Dimension} {i : Nat} (hd : (d, i) ∈ q.groupBy.zipIdx) (record : Row V) :
    (groups schema q joins).source.scope S db record
        (output schema (d, i)).column.table (output schema (d, i)).column.name =
      schema.dimensionValue S db record d := by
  have hserves := serves_groups h ha
  cases d with
  | session => exact congrFun (hserves.scope_base S db record) _
  | tag key =>
    have hjoin : labelJoin schema (labelName i) key ∈ (groups schema q joins).source.joins :=
      List.mem_append_right _ (mem_labelJoins_iff.2 ⟨key, i, hd, rfl⟩)
    exact (congrFun (hserves.scope_join S db hjoin record) _).trans
      (partner_labelJoin S db (labelName i) key record)

theorem key_scope (record : Row V) :
    (groups schema q joins).query.body.key
        ((groups schema q joins).source.scope S db record) =
      q.tuple S db schema record := by
  rw [tuple_eq, Gathering.key]
  simp only [GroupSelect.query, groups, gather, List.map_map]
  exact List.map_congr_left fun position hd => scope_output S db h ha hd record

theorem caseValue_scope (record : Row V) :
    caseValue S ((groups schema q joins).ranks.map fun (status, rank) =>
        (⟨.column (groups schema q joins).status, .eq, .constant status⟩, rank)) 0
        ((groups schema q joins).source.scope S db record) =
      schema.rankOf S (record schema.status.column) := by
  have hstatus := congrFun ((serves_groups h ha).scope_base S db record) schema.status.column
  rw [← hstatus]
  exact caseValue_ranks S _

end Groups

section Parts

variable [DecidableEq V] {schema : Schema} {q : ResolvedQuery} {joins : List Join}

theorem mem_tuples_iff {t : List (Option V)} :
    t ∈ q.tuples S db schema ↔
      ∃ record ∈ q.selected S db schema, q.tuple S db schema record = t := by
  rw [ResolvedQuery.tuples, List.mem_insertionSort, List.mem_dedup, List.mem_map]

theorem exists_part_eq_cons {t : List (Option V)} (ht : t ∈ q.tuples S db schema) :
    ∃ record rest, q.part S db schema t = record :: rest ∧ q.tuple S db schema record = t := by
  obtain ⟨record, hr, htuple⟩ := (mem_tuples_iff S db).1 ht
  have hmem : record ∈ q.part S db schema t := List.mem_filter.2 ⟨hr, by simpa using htuple⟩
  cases hpart : q.part S db schema t with
  | nil => simp [hpart] at hmem
  | cons first rest =>
    have hfirst : first ∈ q.part S db schema t := by simp [hpart]
    exact ⟨first, rest, rfl, by simpa using (List.mem_filter.1 hfirst).2⟩

variable (h : relatedJoins schema q.filter = .ok joins) (ha : schema.NamesApart)

include h ha

theorem cells_dimensions {t : List (Option V)} (ht : t ∈ q.tuples S db schema) :
    ((groups schema q joins).dimensions.map fun output => (output.name, Projection.cell S
        ((q.part S db schema t).map ((groups schema q joins).source.scope S db))
        (.column output.column))) = q.columns.zip (t.map .value) := by
  obtain ⟨record, rest, hpart, rfl⟩ := exists_part_eq_cons S db ht
  rw [hpart, tuple_eq, ResolvedQuery.columns, List.map_map, List.zip_map', groups, gather,
    List.map_map]
  refine List.map_congr_left ?_
  rintro ⟨d, i⟩ hd
  have hvalue := congrArg Cell.value (scope_output S db h ha hd record)
  have hname : (output schema (d, i)).name = outputName i d := by
    cases d <;> rfl
  exact Prod.ext hname hvalue

theorem cell_worstRank {t : List (Option V)} (ht : t ∈ q.tuples S db schema) :
    Projection.cell S ((q.part S db schema t).map ((groups schema q joins).source.scope S db))
        (.maxCase ((groups schema q joins).ranks.map fun (status, rank) =>
          (⟨.column (groups schema q joins).status, .eq, .constant status⟩, rank)) 0) =
      .number (ResolvedQuery.worstRank S schema (q.part S db schema t)) := by
  obtain ⟨record, rest, hpart, -⟩ := exists_part_eq_cons S db ht
  simp only [Projection.cell, List.map_map, Function.comp_def, caseValue_scope S db h ha,
    ResolvedQuery.worstRank, hpart, List.map_cons, List.max?_cons', Option.getD_some]

theorem cell_recordCount (hk : schema.Keyed S db) (t : List (Option V)) :
    Projection.cell S ((q.part S db schema t).map ((groups schema q joins).source.scope S db))
        (.count (groups schema q joins).primaryKey) =
      .number (q.part S db schema t).length := by
  rw [Projection.cell, List.countP_map, List.countP_eq_length.2]
  intro record hr
  have hrecord : record ∈ db schema.baseTable := (List.mem_filter.1 (List.mem_filter.1 hr).1).1
  have hkey := congrFun ((serves_groups h ha).scope_base S db record) schema.primaryKey
  exact (congrArg Option.isSome hkey).trans (hk.primaryKey record hrecord)

/-- The common table has one row for every tuple. -/
theorem body_records (hk : schema.Keyed S db) :
    (groups schema q joins).query.body.records S db =
      ((q.selected S db schema).map (q.tuple S db schema)).dedup.map fun t =>
        q.columns.zip (t.map .value) ++
          [(worstRankName, .number (ResolvedQuery.worstRank S schema (q.part S db schema t))),
            (recordCountName, .number (q.part S db schema t).length)] := by
  have hscopes : (groups schema q joins).query.body.tables.scopes S db =
      (q.selected S db schema).map ((groups schema q joins).source.scope S db) :=
    (serves_groups h ha).scopes_eq S db (countP_matches_le S db h hk)
  have hkeys : (groups schema q joins).query.body.key ∘ (groups schema q joins).source.scope S db =
      q.tuple S db schema := by
    funext record
    exact key_scope S db h ha record
  have hpart (t : List (Option V)) :
      ((q.selected S db schema).map ((groups schema q joins).source.scope S db)).filter
          ((groups schema q joins).query.body.key · = t) =
        (q.part S db schema t).map ((groups schema q joins).source.scope S db) := by
    rw [List.filter_map, ResolvedQuery.part, ← hkeys]
    rfl
  simp only [Gathering.records, hscopes, List.map_map, hkeys, hpart]
  refine List.map_congr_left fun t ht => ?_
  have ht : t ∈ q.tuples S db schema :=
    (mem_tuples_iff S db).2 (List.mem_map.1 (List.mem_dedup.1 ht))
  simp only [GroupSelect.query, List.map_append, List.map_map, List.map_cons, List.map_nil,
    cell_worstRank S db h ha ht, cell_recordCount S db h ha hk]
  exact congrArg (· ++ _) (cells_dimensions S db h ha ht)

theorem query_records (hk : schema.Keyed S db) :
    (groups schema q joins).query.records S db =
      ((q.selected S db schema).map (q.tuple S db schema)).dedup.map
        (q.groupRecord S db schema) := by
  have hcount : (q.tuples S db schema).length =
      ((q.selected S db schema).map (q.tuple S db schema)).dedup.length :=
    List.length_insertionSort ..
  simp only [PagedQuery.records, body_records S db h ha hk, List.map_map, List.length_map, ← hcount]
  refine List.map_congr_left fun t _ => ?_
  exact List.append_assoc _ _ _

end Parts

section Order

variable [DecidableEq V] {schema : Schema} {q : ResolvedQuery} {joins : List Join}

theorem precedes_groupRecord_iff (hn : q.groupBy.Nodup) {s t : List (Option V)}
    (hs : s ∈ q.tuples S db schema) (ht : t ∈ q.tuples S db schema) :
    (groups schema q joins).query.Precedes S (q.groupRecord S db schema s)
      (q.groupRecord S db schema t) ↔ tupleLe S s t := by
  have hcells {u : List (Option V)} (hu : u ∈ q.tuples S db schema) :
      (groups schema q joins).query.order.map (q.groupRecord S db schema u).cell =
        u.map .value := by
    obtain ⟨record, -, rfl⟩ := (mem_tuples_iff S db).1 hu
    have horder : (groups schema q joins).query.order = q.columns :=
      map_name_dimensions schema q joins
    rw [horder]
    refine Record.map_cell_zip (nodup_outputNames hn) ?_ _
    simp [ResolvedQuery.tuple]
  rw [PagedQuery.Precedes, hcells hs, hcells ht, lexLe_map]
  rfl

theorem pairwise_tuples : (q.tuples S db schema).Pairwise (tupleLe S) := by
  have : Std.Total (tupleLe S) := ⟨lexLe_total S.le_total⟩
  have : IsTrans _ (tupleLe S) := ⟨fun _ _ _ => lexLe_trans S.le_trans⟩
  exact List.pairwise_insertionSort (tupleLe S) _

theorem returns_iff (h : relatedJoins schema q.filter = .ok joins) (ha : schema.NamesApart)
    (hk : schema.Keyed S db) (hg : q.groupBy ≠ []) (hn : q.groupBy.Nodup)
    {records : List (Record V)} :
    (groups schema q joins).query.Returns S db records ↔ records = q.groupPage S db schema := by
  have hperm : ((q.tuples S db schema).map (q.groupRecord S db schema)).Perm
      ((groups schema q joins).query.records S db) := by
    rw [query_records S db h ha hk]
    exact (List.perm_insertionSort (tupleLe S) _).map _
  have hsorted : ((q.tuples S db schema).map (q.groupRecord S db schema)).Pairwise
      ((groups schema q joins).query.Precedes S) :=
    List.pairwise_map.2 ((pairwise_tuples S db).imp_of_mem fun hs ht hle =>
      (precedes_groupRecord_iff S db hn hs ht).2 hle)
  have hpage : q.groupPage S db schema =
      (((q.tuples S db schema).map (q.groupRecord S db schema)).drop q.page.offset.toNat).take
        q.page.limit.toNat := by
    rw [ResolvedQuery.groupPage, List.map_take, List.map_drop]
  constructor
  · rintro ⟨-, sorted, hp, hs, rfl⟩
    have heq : sorted = (q.tuples S db schema).map (q.groupRecord S db schema) := by
      refine List.Perm.eq_of_pairwise (fun first second hfirst hsecond hle hge => ?_) hs hsorted
        (hp.trans hperm.symm)
      obtain ⟨s, hs, rfl⟩ := List.mem_map.1 ((hp.trans hperm.symm).mem_iff.1 hfirst)
      obtain ⟨t, ht, rfl⟩ := List.mem_map.1 hsecond
      rw [precedes_groupRecord_iff S db hn hs ht] at hle
      rw [precedes_groupRecord_iff S db hn ht hs] at hge
      rw [lexLe_antisymm S.le_antisymm hle hge]
    rw [heq, hpage]
    rfl
  · rintro rfl
    exact ⟨wellScoped_groups h ha hg hn, _, hperm, hsorted, hpage⟩

end Order

end Statement

theorem Schema.rankOf_text (schema : Schema) {S : Server V} (hS : S.TellsTexts) (status : String) :
    schema.rankOf S (some (S.literal (.string status))) = schema.statusRank status := by
  simp only [Schema.rankOf, Server.equal_some, hS status]
  cases hfind : schema.status.severity.find? fun other => decide (status = other) with
  | none =>
    have hmem : status ∉ schema.status.severity := fun hmem => by
      simpa using List.find?_eq_none.1 hfind status hmem
    rw [Schema.statusRank, List.idxOf?_eq_none_iff.2 hmem]
    rfl
  | some other =>
    have heq : status = other := by simpa using List.find?_some hfind
    rw [heq]
    rfl

def textServer : Server String where
  literal
    | .string s => s
    | _ => ""
  holds op a b := op = .eq && a == b
  le
    | none, _ => true
    | some _, none => false
    | some a, some b => decide (a ≤ b)
  le_total := by
    rintro (_ | a) (_ | b) <;> simp [String.le_total]
  le_trans := by
    rintro (_ | a) (_ | b) (_ | c) <;> simp
    exact String.le_trans
  le_antisymm := by
    rintro (_ | a) (_ | b) <;> simp
    exact String.le_antisymm

def sampleRows : Database String
  | "test_result" =>
    [(List.lookup · [("id", "1"), ("launch_id", "7"), ("status", "passed")]),
      (List.lookup · [("id", "2"), ("launch_id", "8"), ("status", "broken")]),
      (List.lookup · [("id", "3"), ("launch_id", "7"), ("status", "failed")]),
      (List.lookup · [("id", "4"), ("launch_id", "9"), ("status", "passed")])]
  | "launch" =>
    [(List.lookup · [("id", "7"), ("name", "main")]),
      (List.lookup · [("id", "8"), ("name", "main")])]
  | "test_result_label" =>
    [(List.lookup · [("test_result_id", "1"), ("name", "os"), ("value", "linux")]),
      (List.lookup · [("test_result_id", "3"), ("name", "os"), ("value", "linux")])]
  | _ => []

theorem relations_builtin {table : String} {relation : Relation}
    (h : Schema.builtin.relations.find? table = some relation) :
    table = "launch" ∧ relation = ⟨"launch_id", "id"⟩ := by
  have h : List.lookup table [("launch", (⟨"launch_id", "id"⟩ : Relation))] = some relation := h
  rw [List.lookup_cons] at h
  split at h
  · next heq =>
    cases h
    exact ⟨by simpa using heq, rfl⟩
  · cases h

theorem namesApart_builtin : Schema.builtin.NamesApart where
  base := Statement.labelName_ne (by decide)
  related table h := by
    obtain ⟨relation, hr⟩ := Option.isSome_iff_exists.1 h
    obtain ⟨rfl, -⟩ := relations_builtin hr
    exact Statement.labelName_ne (by decide)

theorem keyed_sampleRows : Schema.builtin.Keyed textServer sampleRows where
  primaryKey := by decide
  related table relation h value := by
    obtain ⟨rfl, rfl⟩ := relations_builtin h
    cases value with
    | none => decide
    | some v =>
      have hcount : (sampleRows "launch").countP
          (fun row => textServer.equal (row "id") (some v)) =
            [some "7", some "8"].countP (textServer.equal · (some v)) := rfl
      rw [hcount]
      by_cases h₇ : v = "7"
      · subst h₇
        decide
      · have hne : textServer.equal (some "7") (some v) = false := by
          simpa [Server.equal_some, textServer] using Ne.symm h₇
        rw [List.countP_cons_of_neg (by simp [hne])]
        exact List.countP_le_length
  labels record hr key := by
    have hlabels : ∀ record ∈ sampleRows "test_result", (sampleRows "test_result_label").countP
        (fun row => textServer.equal (row "test_result_id") (record "id")) ≤ 1 := by
      decide
    refine le_trans (List.countP_mono_left fun row _ h => ?_) (hlabels record hr)
    exact (Bool.and_eq_true_iff.1 h).1

/-- A grouped query that was found good in a schema that passes the check has a statement, if the
server can run it and its keys are not empty. The statement is that of one query and no other, which
returns the page of the groups from every server and on every database with proper keys. -/
theorem compile_returns_groupPage (dialect : Dialect) (schema : Schema) (query : Query)
    (q : ResolvedQuery) (hs : schema.check = .ok ()) (hv : query.validate schema = .ok q)
    (hg : q.groupBy ≠ []) (ha : schema.NamesApart) :
    ((∃ statement, q.compile dialect schema = .ok statement) ↔
      dialect.missing? = none ∧ .tag "" ∉ q.groupBy) ∧
    (∀ statement, q.compile dialect schema = .ok statement →
      statement.groupColumns = q.columns ∧
      ∃ tree : PagedQuery,
        (∀ other : PagedQuery, spell dialect.backend other.pieces = statement.sql ∧
          params other.pieces = statement.params ↔ other = tree) ∧
        ∀ (V : Type) [DecidableEq V] (S : Server V) (db : Database V), schema.Keyed S db →
          ∀ records, tree.Returns S db records ↔ records = q.groupPage S db schema) ∧
    ∀ (V : Type) (S : Server V), S.TellsTexts → ∀ status,
      schema.rankOf S (some (S.literal (.string status))) = schema.statusRank status := by
  obtain ⟨filter, hf, hn, rfl⟩ := Query.validate_eq_ok_iff.1 hv
  refine ⟨?_, fun statement hc => ?_, fun V S hS => schema.rankOf_text hS⟩
  · rw [Statement.exists_compile_iff]
    constructor
    · rintro ⟨-, hnil | ⟨hm, -, hkey⟩⟩
      · exact absurd hnil hg
      · exact ⟨hm, hkey⟩
    · rintro ⟨hm, hkey⟩
      exact ⟨Query.exists_relatedJoins_of_resolveFilter hs hf, .inr ⟨hm, hn, hkey⟩⟩
  · obtain ⟨joins, hj, ⟨hnil, -⟩ | ⟨-, -, -, rfl⟩⟩ := Statement.compile_eq_ok_iff.1 hc
    · exact absurd hnil hg
    · exact ⟨Statement.map_name_dimensions schema _ joins, (Statement.groups schema _ joins).query,
        written_iff dialect.backend _, fun V _ S db hk records =>
          Statement.returns_iff S db hj ha hk hg hn⟩

theorem compile_returns_groupPage_launches :
    let query : Query :=
      { filter := some (.leaf ⟨"launch_name", .eq, .string "main", ⟨0, 0⟩⟩)
        groupBy := [.tag "os", .session]
        page := ⟨1, 5, by decide⟩ }
    (∃ q statement, query.validate .builtin = .ok q ∧
      q.compile ⟨.sqlite, none⟩ .builtin = .ok statement ∧
      ∃ tree : PagedQuery,
        spell .sqlite tree.pieces = statement.sql ∧ params tree.pieces = statement.params ∧
        ∀ records, tree.Returns textServer sampleRows records ↔ records =
          [[("tag_0", .value "linux"), ("session_id", .value "7"), ("worst_status_rank", .number 4),
            ("record_count", .number 2), ("total_count", .number 2)]]) ∧
    ∀ status, Schema.builtin.rankOf textServer (some status) =
      Schema.builtin.statusRank status := by
  intro query
  have hv : query.validate .builtin = .ok
      { filter := some (.leaf ⟨"launch_name", "launch", "name", .string, .eq, .string "main"⟩)
        groupBy := [.tag "os", .session]
        page := ⟨1, 5, by decide⟩ } := rfl
  have htexts : textServer.TellsTexts := fun a b => by simp [textServer, beq_eq_decide]
  obtain ⟨hexists, hreturns, hrank⟩ := compile_returns_groupPage ⟨.sqlite, none⟩ .builtin query _
    Schema.check_builtin hv (by decide) namesApart_builtin
  obtain ⟨statement, hc⟩ := hexists.2 ⟨by decide, by decide⟩
  obtain ⟨-, tree, hwritten, htree⟩ := hreturns statement hc
  obtain ⟨hsql, hparams⟩ := (hwritten tree).2 rfl
  refine ⟨⟨_, statement, hv, hc, tree, hsql, hparams, fun records => ?_⟩,
    hrank String textServer htexts⟩
  rw [htree String textServer sampleRows keyed_sampleRows]
  have hpage : ResolvedQuery.groupPage textServer sampleRows .builtin
      { filter := some (.leaf ⟨"launch_name", "launch", "name", .string, .eq, .string "main"⟩)
        groupBy := [.tag "os", .session]
        page := ⟨1, 5, by decide⟩ } =
      [[("tag_0", .value "linux"), ("session_id", .value "7"), ("worst_status_rank", .number 4),
        ("record_count", .number 2), ("total_count", .number 2)]] := by
    decide
  rw [hpage]

end FilterSql
