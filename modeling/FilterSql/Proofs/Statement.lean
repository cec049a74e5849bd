import FilterSql.Statement

namespace FilterSql

def Dimension.key? : Dimension → Option String
  | .session => none
  | .tag key => some key

theorem firstRepeated_eq_none_iff {α : Type} [DecidableEq α] (seen as : List α) :
    firstRepeated seen as = none ↔ as.Nodup ∧ ∀ a ∈ as, a ∉ seen := by
  induction as generalizing seen with
  | nil => simp [firstRepeated]
  | cons a as ih =>
    simp only [firstRepeated, List.nodup_cons, List.mem_cons, forall_eq_or_imp]
    split
    · next h => simp [h]
    · next h =>
      rw [ih]
      constructor
      · rintro ⟨hn, hs⟩
        exact ⟨⟨fun ha => hs a ha (by simp), hn⟩, h, fun b hb hbs => hs b hb (by simp [hbs])⟩
      · rintro ⟨⟨ha, hn⟩, -, hs⟩
        refine ⟨hn, fun b hb hbs => ?_⟩
        rcases List.mem_cons.1 hbs with rfl | hbs
        · exact ha hb
        · exact hs b hb hbs

section Traversal

variable {α β ε : Type} {f : α → Except ε β}

theorem mapM_cons_eq_ok_iff {a : α} {as : List α} {bs : List β} :
    (a :: as).mapM f = .ok bs ↔ ∃ b rest, f a = .ok b ∧ as.mapM f = .ok rest ∧ b :: rest = bs := by
  rw [List.mapM_cons]
  rcases f a with _ | b
  · simp [bind, Except.bind]
  · rcases as.mapM f with _ | rest <;> simp [bind, Except.bind, pure, Except.pure]

theorem exists_mapM_eq_ok_iff {as : List α} :
    (∃ bs, as.mapM f = .ok bs) ↔ ∀ a ∈ as, ∃ b, f a = .ok b := by
  induction as with
  | nil => exact ⟨fun _ => by simp, fun _ => ⟨[], rfl⟩⟩
  | cons a as ih =>
    simp only [mapM_cons_eq_ok_iff, List.forall_mem_cons, ← ih]
    constructor
    · rintro ⟨-, b, rest, hb, hrest, rfl⟩
      exact ⟨⟨b, hb⟩, rest, hrest⟩
    · rintro ⟨⟨b, hb⟩, rest, hrest⟩
      exact ⟨_, b, rest, hb, hrest, rfl⟩

theorem exists_of_mem_mapM {as : List α} {bs : List β} {b : β} (h : as.mapM f = .ok bs)
    (hb : b ∈ bs) : ∃ a ∈ as, f a = .ok b := by
  induction as generalizing bs with
  | nil => cases h; cases hb
  | cons a as ih =>
    obtain ⟨c, rest, hc, hrest, rfl⟩ := mapM_cons_eq_ok_iff.1 h
    rcases List.mem_cons.1 hb with rfl | hb
    · exact ⟨a, by simp, hc⟩
    · obtain ⟨a', ha', hf⟩ := ih hrest hb
      exact ⟨a', by simp [ha'], hf⟩

theorem map_of_mapM {g : β → α} (hg : ∀ {a b}, f a = .ok b → g b = a) {as : List α} {bs : List β}
    (h : as.mapM f = .ok bs) : bs.map g = as := by
  induction as generalizing bs with
  | nil =>
    cases h
    rfl
  | cons a as ih =>
    obtain ⟨b, rest, hb, hrest, rfl⟩ := mapM_cons_eq_ok_iff.1 h
    rw [List.map_cons, hg hb, ih hrest]

theorem exists_of_mapM_error {as : List α} {e : ε} (h : as.mapM f = .error e) :
    ∃ a ∈ as, f a = .error e := by
  induction as with
  | nil => cases h
  | cons a as ih =>
    rw [List.mapM_cons] at h
    cases hf : f a with
    | error e' =>
      rw [hf] at h
      cases h
      exact ⟨a, by simp, hf⟩
    | ok b =>
      cases hm : as.mapM f with
      | error e' =>
        rw [hf, hm] at h
        cases h
        obtain ⟨a', ha', hf'⟩ := ih hm
        exact ⟨a', by simp [ha'], hf'⟩
      | ok rest =>
        rw [hf, hm] at h
        cases h

end Traversal

namespace Statement

def labelJoin? (schema : Schema) : Dimension × Nat → Option Sql.Join
  | (.session, _) => none
  | (.tag key, position) => some (labelJoin schema (labelName position) key)

def output (schema : Schema) : Dimension × Nat → Sql.Output
  | (.session, position) =>
    ⟨⟨schema.baseTable, schema.sessionColumn⟩, outputName position .session⟩
  | (.tag key, position) =>
    ⟨⟨labelName position, schema.labels.valueColumn⟩, outputName position (.tag key)⟩

/-- Labels are joined under the name that their dimension has for them, so neither of the two checks
for that name finds it missing. -/
theorem dimensionOutput_eq (schema : Schema) (d : Dimension × Nat) :
    dimensionOutput schema d = .ok (labelJoin? schema d, output schema d) := by
  obtain ⟨_ | key, position⟩ := d <;> rfl

theorem groupKey_eq (schema : Schema) (d : Dimension × Nat) :
    groupKey schema d = .ok (output schema d).column := by
  obtain ⟨_ | key, position⟩ := d <;> rfl

def groups (schema : Schema) (q : ResolvedQuery) (joins : List Sql.Join) : Sql.GroupSelect :=
  gather schema q (joins ++ q.groupBy.zipIdx.filterMap (labelJoin? schema))
    (q.groupBy.zipIdx.map (output schema))
    ((q.groupBy.zipIdx.map (output schema)).map Sql.Output.column)

theorem keys_groups (schema : Schema) (q : ResolvedQuery) (joins : List Sql.Join) :
    (groups schema q joins).keys = (groups schema q joins).dimensions.map Sql.Output.column := rfl

theorem groupSelect_eq (schema : Schema) (q : ResolvedQuery) (h : groupFault? q.groupBy = none) :
    groupSelect schema q = (relatedJoins schema q.filter).map (groups schema q) := by
  have houtputs : q.groupBy.zipIdx.mapM (dimensionOutput schema) =
      .ok (q.groupBy.zipIdx.map fun d => (labelJoin? schema d, output schema d)) := by
    rw [funext (dimensionOutput_eq schema)]
    exact List.mapM_pure
  have hkeys : q.groupBy.zipIdx.mapM (groupKey schema) =
      .ok ((q.groupBy.zipIdx.map (output schema)).map Sql.Output.column) := by
    rw [funext (groupKey_eq schema), List.map_map]
    exact List.mapM_pure
  cases hj : relatedJoins schema q.filter with
  | error e => simp [groupSelect, h, hj, bind, Except.bind, Except.map]
  | ok joins =>
    simp [groupSelect, h, hj, houtputs, hkeys, bind, Except.bind, Except.map, pure, Except.pure,
      groups, List.filterMap_map, Function.comp_def]

theorem groupSelect_fault (schema : Schema) (q : ResolvedQuery) {fault : GroupFault}
    (h : groupFault? q.groupBy = some fault) :
    groupSelect schema q = .error (.unsupportedGrouping fault) := by
  rw [groupSelect, h]
  rfl

theorem groupFault?_eq_none_iff (dimensions : List Dimension) :
    groupFault? dimensions = none ↔ dimensions.Nodup ∧ .tag "" ∉ dimensions := by
  have hr := firstRepeated_eq_none_iff [] dimensions
  unfold groupFault?
  cases h : firstRepeated [] dimensions with
  | some d => simp_all
  | none => simp_all [emptyKey?, List.idxOf?_eq_none_iff]

theorem exists_relatedJoins_iff (schema : Schema) (t : ColumnCondition) :
    (∃ joins, relatedJoins schema (some t) = .ok joins) ↔
      ∀ test ∈ t.leaves, test.table = schema.baseTable ∨
        (schema.relations.find? test.table).isSome = true := by
  have hjoin (table : String) : (∃ join, relatedJoin schema table = .ok join) ↔
      (schema.relations.find? table).isSome = true := by
    unfold relatedJoin
    cases schema.relations.find? table <;> simp
  simp only [relatedJoins, exists_mapM_eq_ok_iff, hjoin, Option.map_some, Option.getD_some,
    ColumnCondition.tables, List.mem_filter, List.mem_eraseDups, List.mem_map]
  constructor
  · intro h test ht
    by_cases hb : test.table = schema.baseTable
    · exact .inl hb
    · exact .inr (h _ ⟨⟨test, ht, rfl⟩, by simpa using hb⟩)
  · rintro h _ ⟨⟨test, ht, rfl⟩, hb⟩
    exact (h test ht).resolve_left (by simpa using hb)

theorem fixed?_eq_none_of_mem {schema : Schema} {filter : Option ColumnCondition}
    {joins : List Sql.Join} (h : relatedJoins schema filter = .ok joins) {join : Sql.Join}
    (hj : join ∈ joins) : join.fixed? = none := by
  obtain ⟨table, -, ht⟩ := exists_of_mem_mapM h hj
  unfold relatedJoin at ht
  split at ht
  · cases ht
  · cases ht
    rfl

/-- The faults in the order in which they are found, and the statement where there is none. -/
theorem compile_eq (dialect : Dialect) (schema : Schema) (q : ResolvedQuery) :
    q.compile dialect schema =
      if q.groupBy = [] then
        (relatedJoins schema q.filter).map fun joins =>
          ofSelect dialect.backend (.records (records schema q joins))
      else if dialect.missing?.isSome then .error (.compile (.groupingUnsupported dialect.name))
      else
        match groupFault? q.groupBy with
        | some fault => .error (.unsupportedGrouping fault)
        | none =>
          (relatedJoins schema q.filter).map fun joins =>
            ofSelect dialect.backend (.groups (groups schema q joins)) := by
  unfold ResolvedQuery.compile select ResolvedQuery.isGrouped
  by_cases hg : q.groupBy = []
  · cases hj : relatedJoins schema q.filter <;> simp [hg, recordSelect, hj, Except.map]
  · have hgrouped : (!q.groupBy.isEmpty) = true := by simpa using hg
    rw [if_pos hgrouped, if_neg hg]
    split
    · rfl
    · cases hf : groupFault? q.groupBy with
      | some fault => rw [groupSelect_fault schema q hf]; rfl
      | none =>
        rw [groupSelect_eq schema q hf]
        cases relatedJoins schema q.filter <;> rfl

theorem compile_eq_ok_iff {dialect : Dialect} {schema : Schema} {q : ResolvedQuery}
    {s : Statement} :
    q.compile dialect schema = .ok s ↔ ∃ joins, relatedJoins schema q.filter = .ok joins ∧
      (q.groupBy = [] ∧ s = ofSelect dialect.backend (.records (records schema q joins)) ∨
        q.groupBy ≠ [] ∧ dialect.missing? = none ∧ groupFault? q.groupBy = none ∧
          s = ofSelect dialect.backend (.groups (groups schema q joins))) := by
  rw [compile_eq]
  by_cases hg : q.groupBy = []
  · cases relatedJoins schema q.filter <;> simp [hg, Except.map, @eq_comm _ s]
  · cases dialect.missing? with
    | some feature => simp [hg]
    | none =>
      cases groupFault? q.groupBy with
      | some fault => simp [hg]
      | none => cases relatedJoins schema q.filter <;> simp [hg, Except.map, @eq_comm _ s]

theorem exists_compile_iff (dialect : Dialect) (schema : Schema) (q : ResolvedQuery) :
    (∃ s, q.compile dialect schema = .ok s) ↔
      (∃ joins, relatedJoins schema q.filter = .ok joins) ∧
        (q.groupBy = [] ∨ dialect.missing? = none ∧ q.groupBy.Nodup ∧ .tag "" ∉ q.groupBy) := by
  simp only [compile_eq_ok_iff, groupFault?_eq_none_iff]
  constructor
  · rintro ⟨s, joins, hj, ⟨hg, -⟩ | ⟨-, hm, hf, -⟩⟩
    · exact ⟨⟨joins, hj⟩, .inl hg⟩
    · exact ⟨⟨joins, hj⟩, .inr ⟨hm, hf⟩⟩
  · rintro ⟨⟨joins, hj⟩, h⟩
    by_cases hg : q.groupBy = []
    · exact ⟨_, joins, hj, .inl ⟨hg, rfl⟩⟩
    · obtain ⟨hm, hf⟩ := h.resolve_left hg
      exact ⟨_, joins, hj, .inr ⟨hg, hm, hf, rfl⟩⟩

end Statement

end FilterSql
