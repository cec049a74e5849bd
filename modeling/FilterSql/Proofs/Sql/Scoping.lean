import FilterSql.Proofs.Sql.Joining

namespace FilterSql

/-- No table of the schema has a name under which labels are joined. -/
structure Schema.NamesApart (schema : Schema) : Prop where
  base : ∀ i, schema.baseTable ≠ Statement.labelName i
  related : ∀ table, schema.relations.contains table = true → ∀ i, table ≠ Statement.labelName i

def ResolvedQuery.testTables (q : ResolvedQuery) : List String :=
  (q.filter.elim [] Condition.leaves).map ColumnTest.table

section Firsts

variable {α : Type} [DecidableEq α]

/-- The items of a list in the order in which they stand first in it. -/
structure Firsts (all firsts : List α) : Prop where
  mem_iff : ∀ a, a ∈ firsts ↔ a ∈ all
  ordered : firsts.Pairwise fun a b => all.idxOf a < all.idxOf b

theorem idxOf_filter_lt_iff {p : α → Bool} {a b : α} (ha : p a = true) (hb : p b = true)
    (l : List α) : (l.filter p).idxOf a < (l.filter p).idxOf b ↔ l.idxOf a < l.idxOf b := by
  induction l with
  | nil => rfl
  | cons c l ih =>
    by_cases hc : p c = true
    · simp only [List.filter_cons_of_pos hc, List.idxOf_cons, cond_eq_ite, beq_iff_eq]
      split <;> split <;> omega
    · have hca : c ≠ a := fun h => hc (h ▸ ha)
      have hcb : c ≠ b := fun h => hc (h ▸ hb)
      rw [List.filter_cons_of_neg hc, ih, List.idxOf_cons_ne l hca, List.idxOf_cons_ne l hcb]
      omega

theorem Firsts.filter {all firsts : List α} (h : Firsts all firsts) (p : α → Bool) :
    Firsts (all.filter p) (firsts.filter p) := by
  refine ⟨fun a => by simp [h.mem_iff a], ?_⟩
  refine (h.ordered.filter p).imp_of_mem fun ha hb hlt => ?_
  exact (idxOf_filter_lt_iff (List.mem_filter.1 ha).2 (List.mem_filter.1 hb).2 all).2 hlt

theorem firsts_eraseDups (l : List α) : Firsts l l.eraseDups := by
  refine ⟨fun a => List.mem_eraseDups, ?_⟩
  -- `eraseDups` goes on with what its first item leaves of the rest: induction on the length
  induction hn : l.length using Nat.strongRecOn generalizing l with
  | ind n ih =>
    cases l with
    | nil => exact .nil
    | cons c l =>
      have hlt : (l.filter fun a => !a == c).length < n := by
        have := List.length_filter_le (fun a => !a == c) l
        simp only [List.length_cons] at hn
        omega
      have hne {a : α} (ha : a ∈ (l.filter fun a => !a == c).eraseDups) : c ≠ a := by
        have h := (List.mem_filter.1 (List.mem_eraseDups.1 ha)).2
        rintro rfl
        simp at h
      rw [List.eraseDups_cons]
      refine List.pairwise_cons.2 ⟨fun a ha => ?_, (ih _ hlt _ rfl).imp_of_mem fun ha hb h => ?_⟩
      · rw [List.idxOf_cons_self, List.idxOf_cons_ne l (hne ha)]
        omega
      · have hkept {a : α} (h : c ≠ a) : (!a == c) = true := by simpa using h.symm
        rw [idxOf_filter_lt_iff (p := (!· == c)) (hkept (hne ha)) (hkept (hne hb))] at h
        rw [List.idxOf_cons_ne l (hne ha), List.idxOf_cons_ne l (hne hb)]
        omega

theorem nodup_eraseDups (l : List α) : l.eraseDups.Nodup :=
  (firsts_eraseDups l).ordered.imp fun hlt heq => absurd (heq ▸ hlt) (Nat.lt_irrefl _)

end Firsts

theorem pairwise_zipIdx {α : Type} (l : List α) :
    l.zipIdx.Pairwise fun first second => first.2 ≠ second.2 := by
  have h : (l.zipIdx.map Prod.snd).Nodup := by
    rw [List.zipIdx_map_snd]
    exact List.nodup_range'
  exact List.pairwise_map.1 h

namespace Statement

theorem labelName_injective {i j : Nat} (h : labelName i = labelName j) : i = j := by
  have h : "label_" ++ toString i = "label_" ++ toString j := h
  exact Nat.repr_injective (by simpa using h)

theorem labelName_ne {name : String} (h : ¬"label_".toList <+: name.toList) (i : Nat) :
    name ≠ labelName i := by
  rintro rfl
  have hlabel : labelName i = "label_" ++ toString i := rfl
  rw [hlabel, String.toList_append] at h
  exact h (List.prefix_append _ _)

theorem tagName_injective {i j : Nat} {key key' : String}
    (h : outputName i (.tag key) = outputName j (.tag key')) : i = j := by
  have h : "tag_" ++ toString i = "tag_" ++ toString j := h
  exact Nat.repr_injective (by simpa using h)

theorem tagName_ne {name : String} (h : ¬"tag_".toList <+: name.toList) (i : Nat) (key : String) :
    outputName i (.tag key) ≠ name := by
  rintro rfl
  have htag : outputName i (.tag key) = "tag_" ++ toString i := rfl
  rw [htag, String.toList_append] at h
  exact h (List.prefix_append _ _)

theorem outputName_ne {name : String} (hs : sessionName ≠ name)
    (ht : ¬"tag_".toList <+: name.toList) (i : Nat) (d : Dimension) : outputName i d ≠ name := by
  cases d with
  | session => exact hs
  | tag key => exact tagName_ne ht i key

def linked (schema : Schema) (table : String) (relation : Relation) : Sql.Join where
  table := table
  as? := none
  foreign := ⟨table, relation.foreignColumn⟩
  localKey := ⟨schema.baseTable, relation.localColumn⟩
  fixed? := none

theorem relatedJoin_eq_ok_iff {schema : Schema} {table : String} {join : Sql.Join} :
    relatedJoin schema table = .ok join ↔
      ∃ relation, schema.relations.find? table = some relation ∧
        join = linked schema table relation := by
  unfold relatedJoin
  cases schema.relations.find? table with
  | none => simp
  | some relation => simp [linked, eq_comm]

section Joins

variable {schema : Schema} {filter : Option ColumnCondition} {joins : List Sql.Join}

theorem map_name_relatedJoins (h : relatedJoins schema filter = .ok joins) :
    joins.map Sql.Join.name =
      ((filter.map ColumnCondition.tables).getD []).filter (· != schema.baseTable) := by
  refine map_of_mapM (fun {table join} hj => ?_) h
  obtain ⟨relation, -, rfl⟩ := relatedJoin_eq_ok_iff.1 hj
  rfl

theorem exists_linked (h : relatedJoins schema filter = .ok joins) {join : Sql.Join}
    (hj : join ∈ joins) : ∃ table relation, table ≠ schema.baseTable ∧
      schema.relations.find? table = some relation ∧ join = linked schema table relation := by
  obtain ⟨table, ht, hjoin⟩ := exists_of_mem_mapM h hj
  obtain ⟨relation, hr, rfl⟩ := relatedJoin_eq_ok_iff.1 hjoin
  exact ⟨table, relation, by simpa using (List.mem_filter.1 ht).2, hr, rfl⟩

theorem table_cases {t : ColumnCondition} (h : relatedJoins schema (some t) = .ok joins)
    {test : ColumnTest} (ht : test ∈ t.leaves) :
    test.table = schema.baseTable ∨ test.table ≠ schema.baseTable ∧
      ∃ relation, schema.relations.find? test.table = some relation ∧
        linked schema test.table relation ∈ joins := by
  by_cases hb : test.table = schema.baseTable
  · exact .inl hb
  · have hmem : test.table ∈ joins.map Sql.Join.name := by
      rw [map_name_relatedJoins h]
      simp only [Option.map_some, Option.getD_some, ColumnCondition.tables, List.mem_filter,
        List.mem_eraseDups, List.mem_map]
      exact ⟨⟨test, ht, rfl⟩, by simpa using hb⟩
    obtain ⟨join, hj, hname⟩ := List.mem_map.1 hmem
    obtain ⟨table, relation, -, hr, rfl⟩ := exists_linked h hj
    cases hname
    exact .inr ⟨hb, relation, hr, hj⟩

theorem as?_of_mem_relatedJoins (h : relatedJoins schema filter = .ok joins) {j : Sql.LeftJoin}
    (hj : j ∈ joins.map Sql.Join.leftJoin) : j.as? = none := by
  obtain ⟨join, hjoin, rfl⟩ := List.mem_map.1 hj
  obtain ⟨table, relation, -, -, rfl⟩ := exists_linked h hjoin
  rfl

theorem mem_labelJoins_iff {dimensions : List (Dimension × Nat)} {join : Sql.Join} :
    join ∈ dimensions.filterMap (labelJoin? schema) ↔
      ∃ key i, (.tag key, i) ∈ dimensions ∧ join = labelJoin schema (labelName i) key := by
  rw [List.mem_filterMap]
  constructor
  · rintro ⟨⟨_ | key, i⟩, hmem, hj⟩
    · cases hj
    · cases hj
      exact ⟨key, i, hmem, rfl⟩
  · rintro ⟨key, i, hmem, rfl⟩
    exact ⟨_, hmem, rfl⟩

theorem nodup_map_name_labelJoins (schema : Schema) (dimensions : List Dimension) :
    ((dimensions.zipIdx.filterMap (labelJoin? schema)).map Sql.Join.name).Nodup := by
  rw [List.Nodup, List.pairwise_map, List.pairwise_filterMap]
  refine (pairwise_zipIdx dimensions).imp ?_
  rintro ⟨_ | key, i⟩ ⟨_ | key', i'⟩ hne join hj join' hj' hname
  all_goals cases hj
  all_goals cases hj'
  exact hne (labelName_injective hname)

variable {q : ResolvedQuery}

theorem names_groups (schema : Schema) (q : ResolvedQuery) (joins : List Sql.Join) :
    (groups schema q joins).source.tables.names = schema.baseTable ::
      (joins.map Sql.Join.name ++
        (q.groupBy.zipIdx.filterMap (labelJoin? schema)).map Sql.Join.name) := by
  simp only [Sql.Tables.names, Sql.Source.tables, groups, List.map_map, ← List.map_append]
  rfl

theorem mem_relatedNames_iff (h : relatedJoins schema q.filter = .ok joins) {name : String} :
    name ∈ joins.map Sql.Join.name ↔ name ∈ q.testTables ∧ name ≠ schema.baseTable := by
  rw [map_name_relatedJoins h, List.mem_filter, ResolvedQuery.testTables]
  cases q.filter with
  | none => simp
  | some t => simp [ColumnCondition.tables, List.mem_eraseDups]

theorem mem_labelNames_iff {dimensions : List Dimension} {name : String} :
    name ∈ (dimensions.zipIdx.filterMap (labelJoin? schema)).map Sql.Join.name ↔
      ∃ i key, dimensions[i]? = some (.tag key) ∧ name = labelName i := by
  simp only [List.mem_map, mem_labelJoins_iff, List.mem_zipIdx_iff_getElem?]
  constructor
  · rintro ⟨_, ⟨key, i, hd, rfl⟩, rfl⟩
    exact ⟨i, key, hd, rfl⟩
  · rintro ⟨i, key, hd, rfl⟩
    exact ⟨_, ⟨key, i, hd, rfl⟩, rfl⟩

theorem mem_names_groups_iff (h : relatedJoins schema q.filter = .ok joins) {name : String} :
    name ∈ (groups schema q joins).source.tables.names ↔
      name ∈ schema.baseTable :: q.testTables ∨
        ∃ i key, q.groupBy[i]? = some (.tag key) ∧ name = labelName i := by
  rw [names_groups, List.mem_cons, List.mem_append, mem_relatedNames_iff h, mem_labelNames_iff,
    List.mem_cons]
  by_cases hb : name = schema.baseTable <;> simp [hb]

/-- The names under which the tables of a grouped statement are joined are different, but for tables
that have the name of a label. -/
theorem nodup_names_iff (h : relatedJoins schema q.filter = .ok joins) :
    (groups schema q joins).source.tables.names.Nodup ↔
      ∀ i key, q.groupBy[i]? = some (.tag key) →
        labelName i ∉ schema.baseTable :: q.testTables := by
  have hrelated : (schema.baseTable :: joins.map Sql.Join.name).Nodup := by
    rw [List.nodup_cons, mem_relatedNames_iff h, map_name_relatedJoins h]
    refine ⟨fun hb => hb.2 rfl, ?_⟩
    cases q.filter with
    | none => exact .nil
    | some t => exact (nodup_eraseDups _).filter _
  have hmem {name : String} : name ∈ schema.baseTable :: joins.map Sql.Join.name ↔
      name ∈ schema.baseTable :: q.testTables := by
    rw [List.mem_cons, List.mem_cons, mem_relatedNames_iff h]
    by_cases hb : name = schema.baseTable <;> simp [hb]
  rw [names_groups, ← List.cons_append, List.nodup_append]
  constructor
  · rintro ⟨-, -, hne⟩ i key hd hname
    exact hne _ (hmem.2 hname) _ (mem_labelNames_iff.2 ⟨i, key, hd, rfl⟩) rfl
  · refine fun hne => ⟨hrelated, nodup_map_name_labelJoins schema q.groupBy, ?_⟩
    rintro name hname _ hlabel rfl
    obtain ⟨i, key, hd, rfl⟩ := mem_labelNames_iff.1 hlabel
    exact hne i key hd (hmem.1 hname)

theorem nodup_names (h : relatedJoins schema q.filter = .ok joins) (ha : schema.NamesApart) :
    (groups schema q joins).source.tables.names.Nodup := by
  refine (nodup_names_iff h).2 fun i key _ hname => ?_
  have hb := (ha.base i).symm
  have htest := (List.mem_cons.1 hname).resolve_left hb
  obtain ⟨join, hj, hname⟩ := List.mem_map.1 ((mem_relatedNames_iff h).2 ⟨htest, hb⟩)
  obtain ⟨table, relation, -, hr, rfl⟩ := exists_linked h hj
  exact ha.related table (by simp [NameMap.contains, hr]) i hname

theorem qualified_groups (h : relatedJoins schema q.filter = .ok joins) :
    ∀ join ∈ (groups schema q joins).source.joins, join.Qualified schema.baseTable := by
  intro join hj
  rcases List.mem_append.1 hj with hj | hj
  · obtain ⟨table, relation, -, -, rfl⟩ := exists_linked h hj
    exact ⟨rfl, rfl, fun _ _ hf => by cases hf⟩
  · obtain ⟨key, i, -, rfl⟩ := mem_labelJoins_iff.1 hj
    exact ⟨rfl, rfl, fun _ _ hf => by cases hf; rfl⟩

theorem attached_groups (h : relatedJoins schema q.filter = .ok joins)
    (hn : (groups schema q joins).source.tables.names.Nodup) :
    ∀ join ∈ (groups schema q joins).source.joins, join.Attached schema.baseTable := by
  intro join hj
  have hbase : schema.baseTable ∉
      (groups schema q joins).source.tables.joins.map Sql.LeftJoin.name := (List.nodup_cons.1 hn).1
  have hname : join.name ∈ (groups schema q joins).source.tables.joins.map Sql.LeftJoin.name :=
    List.mem_map.2 ⟨join.leftJoin, List.mem_map_of_mem hj, rfl⟩
  have hne : join.name ≠ schema.baseTable := fun heq => hbase (heq ▸ hname)
  exact ⟨qualified_groups h join hj, hne⟩

end Joins

section Outputs

variable {schema : Schema} {q : ResolvedQuery} {joins : List Sql.Join}

theorem nodup_outputNames {dimensions : List Dimension} (h : dimensions.Nodup) :
    (dimensions.zipIdx.map fun (d, i) => outputName i d).Nodup := by
  have hfirst : dimensions.zipIdx.Pairwise fun first second => first.1 ≠ second.1 := by
    rw [← List.zipIdx_map_fst 0 dimensions] at h
    exact List.pairwise_map.1 h
  have hsession : ¬"tag_".toList <+: sessionName.toList := by decide
  rw [List.Nodup, List.pairwise_map]
  refine (hfirst.and (pairwise_zipIdx dimensions)).imp ?_
  rintro ⟨_ | key, i⟩ ⟨_ | key', i'⟩ ⟨hd, hi⟩
  · exact absurd rfl hd
  · exact (tagName_ne hsession i' key').symm
  · exact tagName_ne hsession i key
  · exact fun hname => hi (tagName_injective hname)

theorem mem_formulaColumns_on {base : String} {join : Sql.Join} (h : join.Qualified base)
    {c : Sql.Column} (hc : c ∈ Sql.formulaColumns join.on) :
    c.table = join.name ∨ c.table = base := by
  cases hf : join.fixed? with
  | none =>
    simp only [Sql.formulaColumns, Sql.Join.on, hf, Condition.leaves, Sql.Term.columns,
      List.flatMap_cons, List.flatMap_nil, List.mem_append, List.mem_singleton, List.not_mem_nil,
      or_false] at hc
    rcases hc with rfl | rfl
    · exact .inl h.foreign
    · exact .inr h.localKey
  | some fixed =>
    obtain ⟨column, value⟩ := fixed
    simp only [Sql.formulaColumns, Sql.Join.on, hf, Condition.leaves, Sql.Term.columns,
      List.cons_append, List.nil_append, List.flatMap_cons, List.flatMap_nil, List.mem_cons,
      List.not_mem_nil, or_false] at hc
    rcases hc with rfl | rfl | rfl
    · exact .inl h.foreign
    · exact .inr h.localKey
    · exact .inl (h.fixed _ _ hf)

theorem map_table_formulaColumns (t : ColumnCondition) :
    (Sql.formulaColumns (t.map Sql.Comparing.ofTest)).map Sql.Column.table =
      t.leaves.map ColumnTest.table := by
  have hcolumns : Sql.formulaColumns (t.map Sql.Comparing.ofTest) =
      t.leaves.map fun test => ⟨test.table, test.column⟩ := by
    rw [Sql.formulaColumns, Condition.leaves_map, List.flatMap_map, List.map_eq_flatMap]
    rfl
  rw [hcolumns, List.map_map]
  rfl

theorem wellScoped_tables (h : relatedJoins schema q.filter = .ok joins)
    (hn : (groups schema q joins).source.tables.names.Nodup) :
    (groups schema q joins).source.tables.WellScoped := by
  refine ⟨hn, fun before j after hj c hc => ?_, fun f hf c hc => ?_⟩
  · have hmem : j ∈ (groups schema q joins).source.tables.joins := by simp [hj]
    obtain ⟨join, hjoin, rfl⟩ := List.mem_map.1 hmem
    rcases mem_formulaColumns_on (qualified_groups h join hjoin) hc with hc | hc
    · rw [hc, List.map_append]
      exact List.mem_cons_of_mem _ (List.mem_append_right _ List.mem_cons_self)
    · exact hc ▸ List.mem_cons_self
  · obtain ⟨t, ht, rfl⟩ := Option.map_eq_some_iff.1 hf
    have ht : q.filter = some t := ht
    have hmem : c.table ∈ q.testTables := by
      rw [ResolvedQuery.testTables, ht, Option.elim_some, ← map_table_formulaColumns]
      exact List.mem_map_of_mem hc
    exact (mem_names_groups_iff h).2 (.inl (List.mem_cons_of_mem _ hmem))

theorem table_mem_names {o : Sql.Output} (ho : o ∈ (groups schema q joins).dimensions) :
    o.column.table ∈ (groups schema q joins).source.tables.names := by
  rw [names_groups]
  obtain ⟨⟨d, i⟩, hd, rfl⟩ := List.mem_map.1 ho
  cases d with
  | session => exact List.mem_cons_self
  | tag key =>
    have hjoin : labelJoin schema (labelName i) key ∈
        q.groupBy.zipIdx.filterMap (labelJoin? schema) :=
      mem_labelJoins_iff.2 ⟨key, i, hd, rfl⟩
    exact List.mem_cons_of_mem _ (List.mem_append_right _ (List.mem_map_of_mem hjoin))

theorem map_name_dimensions (schema : Schema) (q : ResolvedQuery) (joins : List Sql.Join) :
    (groups schema q joins).dimensions.map Sql.Output.name =
      q.groupBy.zipIdx.map fun (d, i) => outputName i d := by
  rw [groups, gather, List.map_map]
  refine List.map_congr_left ?_
  rintro ⟨_ | key, i⟩ - <;> rfl

theorem table_mem_outputs {output : Sql.Projection × String}
    (hout : output ∈ (groups schema q joins).query.body.outputs) {c : Sql.Column}
    (hc : c ∈ output.1.columns) : c.table ∈ (groups schema q joins).source.tables.names := by
  rcases List.mem_append.1 hout with hout | hout
  · obtain ⟨o, ho, rfl⟩ := List.mem_map.1 hout
    obtain rfl := List.mem_singleton.1 hc
    exact table_mem_names ho
  · have hbase : c.table = schema.baseTable := by
      rcases List.mem_cons.1 hout with rfl | hout
      · obtain ⟨branch, hbranch, hc⟩ := List.mem_flatMap.1 hc
        obtain ⟨rank, -, rfl⟩ := List.mem_map.1 hbranch
        have hc : c = (groups schema q joins).status := by simpa [Sql.Term.columns] using hc
        rw [hc]
        rfl
      · obtain rfl := List.mem_singleton.1 hout
        obtain rfl := List.mem_singleton.1 hc
        rfl
    rw [hbase]
    exact List.mem_cons_self

theorem nodup_groupColumns (schema : Schema) (joins : List Sql.Join) (hn : q.groupBy.Nodup) :
    ((groups schema q joins).dimensions.map Sql.Output.name ++
      [Sql.worstRankName, Sql.recordCountName, Sql.totalCountName]).Nodup := by
  have hfresh : ∀ name ∈ [Sql.worstRankName, Sql.recordCountName, Sql.totalCountName],
      sessionName ≠ name ∧ ¬"tag_".toList <+: name.toList := by decide
  have hcounts : [Sql.worstRankName, Sql.recordCountName, Sql.totalCountName].Nodup := by decide
  rw [map_name_dimensions]
  refine List.nodup_append.2 ⟨nodup_outputNames hn, hcounts, ?_⟩
  rintro _ houtput name hname rfl
  obtain ⟨⟨d, i⟩, -, he⟩ := List.mem_map.1 houtput
  obtain ⟨hs, ht⟩ := hfresh _ hname
  exact outputName_ne hs ht i d he

theorem map_snd_outputs (s : Sql.GroupSelect) : s.query.body.outputs.map Prod.snd =
    s.dimensions.map Sql.Output.name ++ [Sql.worstRankName, Sql.recordCountName] := by
  simp [Sql.GroupSelect.query, Function.comp_def]

theorem wellScoped_groups (h : relatedJoins schema q.filter = .ok joins) (ha : schema.NamesApart)
    (hg : q.groupBy ≠ []) (hn : q.groupBy.Nodup) :
    (groups schema q joins).query.WellScoped := by
  refine ⟨wellScoped_tables h (nodup_names h ha), ?_, ?_,
    fun output hout c hc => table_mem_outputs hout hc, ?_, ?_, rfl, ?_⟩
  · simpa [Sql.GroupSelect.query, groups, gather] using hg
  · intro c hc
    obtain ⟨o, ho, rfl⟩ := List.mem_map.1 hc
    exact table_mem_names ho
  · intro c name hmem
    rcases List.mem_append.1 hmem with hmem | hmem
    · obtain ⟨o, ho, he⟩ := List.mem_map.1 hmem
      cases he
      exact List.mem_map_of_mem ho
    · simp at hmem
  · rw [map_snd_outputs, List.append_assoc]
    exact nodup_groupColumns schema joins hn
  · intro name hname
    rw [map_snd_outputs]
    exact List.mem_append_left _ hname

end Outputs

end Statement

end FilterSql
