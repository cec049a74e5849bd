import FilterSql.Proofs.Sql.Grouping
import FilterSql.Proofs.Sql.Qualifiers

/-!
The pages of a query without dimensions. A server may put rows that tie in ORDER BY in any order,
and in another one each time it is asked. The keys of a page leave no ties, so the pages that follow
one another are the records that pass the filter, each once and in one order.
-/

namespace FilterSql

open Sql

variable {V : Type} (S : Server V)

namespace Sql

def SortKey.Le : SortKey → Scope V → Scope V → Prop
  | ⟨c, false⟩, first, second => S.le (first c.table c.name) (second c.table c.name) = true
  | ⟨c, true⟩, first, second => S.le (second c.table c.name) (first c.table c.name) = true

def KeysLe : List SortKey → Scope V → Scope V → Prop
  | [], _, _ => True
  | k :: keys, first, second =>
    k.Le S first second ∧ (k.Le S second first → KeysLe keys first second)

structure Listing.WellScoped (q : Listing) : Prop where
  tables : q.tables.WellScoped
  all : q.all ∈ q.tables.names
  order : ∀ key ∈ q.order, key.column.table ∈ q.tables.names

/-- The listing can be run, and these are rows that it may return: a page of its rows in an order
that its keys allow. -/
structure Listing.Returns (db : Database V) (q : Listing) (rows : List (Row V)) : Prop where
  wellScoped : q.WellScoped
  page : ∃ sorted : List (Scope V), sorted.Perm (q.tables.scopes S db) ∧
    sorted.Pairwise (KeysLe S q.order) ∧
    rows = ((sorted.drop q.offset.toNat).take q.limit.toNat).map (· q.all)

section Order

variable {S}

theorem SortKey.le_total (k : SortKey) (first second : Scope V) :
    k.Le S first second ∨ k.Le S second first := by
  rcases k with ⟨c, _ | _⟩
  · exact S.le_total _ _
  · exact S.le_total _ _

theorem SortKey.le_trans {k : SortKey} {first second third : Scope V}
    (h₁ : k.Le S first second) (h₂ : k.Le S second third) : k.Le S first third := by
  rcases k with ⟨c, _ | _⟩
  · exact S.le_trans _ _ _ h₁ h₂
  · exact S.le_trans _ _ _ h₂ h₁

theorem SortKey.le_antisymm {k : SortKey} {first second : Scope V} (h₁ : k.Le S first second)
    (h₂ : k.Le S second first) :
    first k.column.table k.column.name = second k.column.table k.column.name := by
  rcases k with ⟨c, _ | _⟩
  · exact S.le_antisymm _ _ h₁ h₂
  · exact S.le_antisymm _ _ h₂ h₁

theorem SortKey.le_of_eq {k : SortKey} {first second : Scope V}
    (h : first k.column.table k.column.name = second k.column.table k.column.name) :
    k.Le S first second := by
  have hrefl (a : Option V) : S.le a a = true := (S.le_total a a).elim id id
  rcases k with ⟨c, _ | _⟩
  · simp only [SortKey.Le, h, hrefl]
  · simp only [SortKey.Le, h, hrefl]

theorem keysLe_total (keys : List SortKey) (first second : Scope V) :
    KeysLe S keys first second ∨ KeysLe S keys second first := by
  induction keys with
  | nil => exact .inl trivial
  | cons k keys ih =>
    have hk := k.le_total (S := S) first second
    simp only [KeysLe]
    tauto

theorem keysLe_trans {keys : List SortKey} {first second third : Scope V}
    (h₁ : KeysLe S keys first second) (h₂ : KeysLe S keys second third) :
    KeysLe S keys first third := by
  induction keys with
  | nil => trivial
  | cons k keys ih =>
    refine ⟨SortKey.le_trans h₁.1 h₂.1, fun h => ih (h₁.2 ?_) (h₂.2 ?_)⟩
    · exact SortKey.le_trans h₂.1 h
    · exact SortKey.le_trans h h₁.1

theorem keysLe_antisymm {keys : List SortKey} {first second : Scope V}
    (h₁ : KeysLe S keys first second) (h₂ : KeysLe S keys second first) :
    ∀ k ∈ keys, first k.column.table k.column.name = second k.column.table k.column.name := by
  induction keys with
  | nil => intro k hk; cases hk
  | cons k keys ih =>
    rw [List.forall_mem_cons]
    exact ⟨SortKey.le_antisymm h₁.1 h₂.1, ih (h₁.2 h₂.1) (h₂.2 h₁.1)⟩

end Order

end Sql

section Spec

variable (db : Database V) (schema : Schema)

/-- The keys of a database: no two records have the same primary key, and no value is found twice in
a column that a relation leads to. -/
structure Schema.Identified : Prop where
  primaryKey : ((db schema.baseTable).map (· schema.primaryKey)).Nodup
  related : ∀ table relation, schema.relations.find? table = some relation → ∀ value,
    (db table).countP (fun row => S.equal (row relation.foreignColumn) value) ≤ 1

variable [DecidableEq V]

/-- The default order, and that of the primary key for records that are the same in it. -/
def Schema.recordLe (first second : Row V) : Bool :=
  match schema.defaultOrder with
  | none => S.le (first schema.primaryKey) (second schema.primaryKey)
  | some order =>
    if first order.column = second order.column then
      S.le (first schema.primaryKey) (second schema.primaryKey)
    else if order.descending then S.le (second order.column) (first order.column)
    else S.le (first order.column) (second order.column)

def ResolvedQuery.listed (q : ResolvedQuery) : List (Row V) :=
  (q.selected S db schema).insertionSort fun first second => schema.recordLe S first second = true

end Spec

def ResolvedQuery.startingAt (q : ResolvedQuery) (offset : UInt64) : ResolvedQuery :=
  { q with page := { q.page with offset := offset } }

namespace Statement

theorem exists_mem_recordOrder (schema : Schema) :
    ∃ key ∈ recordOrder schema, key.column = ⟨schema.baseTable, schema.primaryKey⟩ := by
  unfold recordOrder
  cases schema.defaultOrder with
  | none => exact ⟨_, List.mem_cons_self, rfl⟩
  | some order =>
    by_cases hcolumn : order.column = schema.primaryKey
    · simp [hcolumn]
    · simp [hcolumn]

end Statement

section Order

variable [DecidableEq V] {S} {schema : Schema}

theorem keysLe_recordOrder_iff (first second : Scope V) :
    KeysLe S (Statement.recordOrder schema) first second ↔
      schema.recordLe S (first schema.baseTable) (second schema.baseTable) = true := by
  unfold Statement.recordOrder Schema.recordLe
  cases schema.defaultOrder with
  | none => exact ⟨fun h => h.1, fun h => ⟨h, fun _ => trivial⟩⟩
  | some order =>
    obtain ⟨column, descending⟩ := order
    let key : SortKey := ⟨⟨schema.baseTable, column⟩, descending⟩
    by_cases heq : first schema.baseTable column = second schema.baseTable column
    · have hkey : key.Le S first second := SortKey.le_of_eq heq
      simp only [if_pos heq]
      split
      · next hcolumn =>
        -- records with the same primary key are in order either way
        have hprimary : first schema.baseTable schema.primaryKey =
          second schema.baseTable schema.primaryKey := hcolumn ▸ heq
        exact ⟨fun _ => SortKey.le_of_eq (k := ⟨⟨_, _⟩, false⟩) hprimary,
          fun _ => ⟨hkey, fun _ => trivial⟩⟩
      · exact ⟨fun h => (h.2 (SortKey.le_of_eq heq.symm)).1,
          fun h => ⟨hkey, fun _ => ⟨h, fun _ => trivial⟩⟩⟩
    · have hkeys (keys : List SortKey) :
          KeysLe S (key :: keys) first second ↔ key.Le S first second :=
        ⟨fun h => h.1, fun h => ⟨h, fun hge => absurd (SortKey.le_antisymm h hge) heq⟩⟩
      have hle : key.Le S first second ↔ (if descending = true then
          S.le (second schema.baseTable column) (first schema.baseTable column)
          else S.le (first schema.baseTable column) (second schema.baseTable column)) = true := by
        cases descending <;> exact Iff.rfl
      simp only [if_neg heq]
      split
      · exact (hkeys _).trans hle
      · exact (hkeys _).trans hle

theorem recordLe_total (first second : Row V) :
    schema.recordLe S first second = true ∨ schema.recordLe S second first = true := by
  have h := keysLe_total (S := S) (Statement.recordOrder schema) (fun _ => first) fun _ => second
  rwa [keysLe_recordOrder_iff, keysLe_recordOrder_iff] at h

theorem keysLe_of_recordLe {first second : Row V} (h : schema.recordLe S first second = true) :
    KeysLe S (Statement.recordOrder schema) (fun _ => first) fun _ => second :=
  (keysLe_recordOrder_iff _ _).2 h

theorem recordLe_trans {first second third : Row V} (h₁ : schema.recordLe S first second = true)
    (h₂ : schema.recordLe S second third = true) : schema.recordLe S first third = true := by
  have hkeys := keysLe_trans (keysLe_of_recordLe h₁) (keysLe_of_recordLe h₂)
  exact (keysLe_recordOrder_iff _ _).1 hkeys

theorem primaryKey_eq_of_recordLe {first second : Row V}
    (h₁ : schema.recordLe S first second = true) (h₂ : schema.recordLe S second first = true) :
    first schema.primaryKey = second schema.primaryKey := by
  obtain ⟨key, hkey, hcolumn⟩ := Statement.exists_mem_recordOrder schema
  have heq := keysLe_antisymm (keysLe_of_recordLe h₁) (keysLe_of_recordLe h₂) key hkey
  rwa [hcolumn] at heq

variable {db : Database V} {q : ResolvedQuery}

theorem perm_listed : (q.listed S db schema).Perm (q.selected S db schema) :=
  List.perm_insertionSort _ _

theorem pairwise_listed :
    (q.listed S db schema).Pairwise fun first second => schema.recordLe S first second = true := by
  have : Std.Total fun first second : Row V => schema.recordLe S first second = true :=
    ⟨recordLe_total⟩
  have : IsTrans (Row V) fun first second => schema.recordLe S first second = true :=
    ⟨fun _ _ _ => recordLe_trans⟩
  exact List.pairwise_insertionSort _ _

theorem eq_listed {records : List (Row V)} (hk : schema.Identified S db)
    (hp : records.Perm (q.selected S db schema))
    (hs : records.Pairwise fun first second => schema.recordLe S first second = true) :
    records = q.listed S db schema := by
  refine List.Perm.eq_of_pairwise (fun first second hfirst hsecond h₁ h₂ => ?_) hs pairwise_listed
    (hp.trans perm_listed.symm)
  have hmem {record : Row V} (h : record ∈ q.selected S db schema) : record ∈ db schema.baseTable :=
    List.mem_of_mem_filter h
  exact List.inj_on_of_nodup_map hk.primaryKey (hmem (hp.mem_iff.1 hfirst))
    (hmem (perm_listed.mem_iff.1 hsecond)) (primaryKey_eq_of_recordLe h₁ h₂)

end Order

namespace Statement

section Pages

variable {schema : Schema} {q : ResolvedQuery} {joins : List Join}
  (h : relatedJoins schema q.filter = .ok joins) (hg : q.groupBy = [])

theorem source_groups (schema : Schema) (joins : List Join) (hg : q.groupBy = []) :
    (groups schema q joins).source = (records schema q joins).source := by
  simp [groups, gather, records, hg]

theorem nodup_names_of_nil (h : relatedJoins schema q.filter = .ok joins) (hg : q.groupBy = []) :
    (groups schema q joins).source.tables.names.Nodup :=
  (nodup_names_iff h).2 fun i key hi => by simp [hg] at hi

include h hg

theorem serves_records : (records schema q joins).source.Serves schema q :=
  source_groups schema joins hg ▸ serves_of_nodup h (nodup_names_of_nil h hg)

theorem wellScoped_listing : (records schema q joins).listing.WellScoped where
  tables := by
    have htables := wellScoped_tables h (nodup_names_of_nil h hg)
    rw [source_groups schema joins hg] at htables
    exact htables
  all := List.mem_cons_self
  order key hkey := table_recordOrder hkey ▸ List.mem_cons_self

theorem scopes_listing {db : Database V} (hk : schema.Identified S db) :
    (records schema q joins).listing.tables.scopes S db =
      (q.selected S db schema).map ((records schema q joins).source.scope S db) := by
  refine (serves_records h hg).scopes_eq S db fun join hj record _ => ?_
  obtain ⟨table, relation, -, hr, rfl⟩ := exists_linked h hj
  rw [matches_linked]
  exact hk.related table relation hr _

theorem returns_listing_iff [DecidableEq V] {db : Database V} (hk : schema.Identified S db)
    {rows : List (Row V)} :
    (records schema q joins).listing.Returns S db rows ↔
      rows = ((q.listed S db schema).drop q.page.offset.toNat).take q.page.limit.toNat := by
  let scope := (records schema q joins).source.scope S db
  have hscopes := scopes_listing S h hg hk
  have hbase (record : Row V) : scope record schema.baseTable = record :=
    (serves_records h hg).scope_base S db record
  have hmap (records : List (Row V)) : (records.map scope).map (· schema.baseTable) = records := by
    rw [List.map_map]
    exact (List.map_congr_left fun record _ => hbase record).trans (List.map_id _)
  constructor
  · rintro ⟨-, sorted, hp, hs, rfl⟩
    have hsorted : sorted.map (· schema.baseTable) = q.listed S db schema := by
      apply eq_listed hk
      · rw [hscopes] at hp
        exact hmap (q.selected S db schema) ▸ hp.map (· schema.baseTable)
      · exact List.pairwise_map.2 (hs.imp fun hle => (keysLe_recordOrder_iff _ _).1 hle)
    rw [← hsorted, ← List.map_drop, ← List.map_take]
    rfl
  · rintro rfl
    refine ⟨wellScoped_listing h hg, (q.listed S db schema).map scope, ?_, ?_, ?_⟩
    · rw [hscopes]
      exact perm_listed.map scope
    · refine List.pairwise_map.2 (pairwise_listed.imp fun hle => ?_)
      exact (keysLe_recordOrder_iff _ _).2 (by rwa [hbase, hbase])
    · rw [← List.map_drop, ← List.map_take]
      exact (hmap _).symm

end Pages

end Statement

theorem flatMap_pages {α : Type} (l : List α) (size n : Nat) :
    (List.range n).flatMap (fun k => (l.drop (k * size)).take size) = l.take (n * size) := by
  induction n with
  | zero => simp
  | succ n ih =>
    rw [List.range_succ, List.flatMap_append, ih, List.flatMap_singleton, Nat.succ_mul,
      List.take_add]

/-- A query without dimensions that was found good in a schema that passes the check has a statement
for every page, which is that of one listing and no other. On every database with proper keys, pages
that are asked for one after the other are together the beginning of the records that pass the
filter, in their order, and once there are enough pages all of these records. -/
theorem compile_pages_listed (dialect : Dialect) (schema : Schema) (query : Query)
    (q : ResolvedQuery) (hs : schema.check = .ok ()) (hv : query.validate schema = .ok q)
    (hg : q.groupBy = []) :
    ∃ tree : UInt64 → Listing,
      (∀ offset, ∃ statement, (q.startingAt offset).compile dialect schema = .ok statement ∧
        ∀ other : Tree, spell dialect.backend other.pieces = statement.sql ∧
          params other.pieces = statement.params ↔ other = .listing (tree offset)) ∧
      ∀ (V : Type) [DecidableEq V] (S : Server V) (db : Database V), schema.Identified S db →
        (∀ offset, ∃ rows, (tree offset).Returns S db rows) ∧
        ∀ (n : Nat) (pages : Nat → List (Row V)),
          (∀ k < n, k * q.page.limit.toNat < UInt64.size) →
          (∀ k < n, (tree (.ofNat (k * q.page.limit.toNat))).Returns S db (pages k)) →
          (List.range n).flatMap pages =
            (q.listed S db schema).take (n * q.page.limit.toNat) ∧
          ((q.selected S db schema).length ≤ n * q.page.limit.toNat →
            ((List.range n).flatMap pages).Perm (q.selected S db schema) ∧
            ((List.range n).flatMap pages).Pairwise fun first second =>
              schema.recordLe S first second = true) := by
  obtain ⟨filter, hf, -, rfl⟩ := Query.validate_eq_ok_iff.1 hv
  obtain ⟨joins, hj⟩ := Query.exists_relatedJoins_of_resolveFilter hs hf
  set q : ResolvedQuery := ⟨filter, query.groupBy, query.page⟩
  refine ⟨fun offset => (Statement.records schema (q.startingAt offset) joins).listing,
    fun offset => ?_, fun V _ S db hk => ?_⟩
  · refine ⟨_, Statement.compile_eq_ok_iff.2 ⟨joins, hj, .inl ⟨hg, rfl⟩⟩, ?_⟩
    exact tree_written_iff dialect.backend
      (.records (Statement.records schema (q.startingAt offset) joins))
  · have hreturns (offset : UInt64) {rows : List (Row V)} :
        (Statement.records schema (q.startingAt offset) joins).listing.Returns S db rows ↔
          rows = ((q.listed S db schema).drop offset.toNat).take q.page.limit.toNat :=
      Statement.returns_listing_iff (q := q.startingAt offset) S hj hg hk
    refine ⟨fun offset => ⟨_, (hreturns offset).2 rfl⟩, fun n pages hfits hpages => ?_⟩
    have hpage : ∀ k ∈ List.range n, pages k =
        ((q.listed S db schema).drop (k * q.page.limit.toNat)).take q.page.limit.toNat := by
      intro k hkn
      have hkn := List.mem_range.1 hkn
      rw [(hreturns _).1 (hpages k hkn), UInt64.toNat_ofNat_of_lt' (hfits k hkn)]
    have htake : (List.range n).flatMap pages =
        (q.listed S db schema).take (n * q.page.limit.toNat) := by
      rw [List.flatMap_congr hpage, flatMap_pages]
    refine ⟨htake, fun hn => ?_⟩
    rw [← perm_listed.length_eq] at hn
    rw [htake, List.take_of_length_le hn]
    exact ⟨perm_listed, pairwise_listed⟩

theorem compile_pages_listed_launches :
    let query : Query :=
      { filter := some (.leaf ⟨"launch_name", .eq, .string "main", ⟨0, 0⟩⟩)
        groupBy := []
        page := ⟨0, 2, by decide⟩ }
    ∃ q, query.validate .builtin = .ok q ∧ ∃ tree : UInt64 → Listing,
      (∀ offset, ∃ statement,
        (q.startingAt offset).compile ⟨.mysql, none⟩ .builtin = .ok statement ∧
        spell .mysql (tree offset).pieces = statement.sql) ∧
      ∀ pages : Nat → List (Row String),
        (tree 0).Returns textServer sampleRows (pages 0) →
        (tree 2).Returns textServer sampleRows (pages 1) →
        (pages 0 ++ pages 1).map (· "id") = [some "1", some "2", some "3"] := by
  intro query
  have hv : query.validate .builtin = .ok
      { filter := some (.leaf ⟨"launch_name", "launch", "name", .string, .eq, .string "main"⟩)
        groupBy := []
        page := ⟨0, 2, by decide⟩ } := rfl
  have hkeys : Schema.builtin.Identified textServer sampleRows :=
    ⟨by decide, keyed_sampleRows.related⟩
  obtain ⟨tree, hcompile, hreturns⟩ := compile_pages_listed ⟨.mysql, none⟩ .builtin query _
    Schema.check_builtin hv rfl
  refine ⟨_, hv, tree, fun offset => ?_, fun pages hfirst hsecond => ?_⟩
  · obtain ⟨statement, hc, hwritten⟩ := hcompile offset
    exact ⟨statement, hc, ((hwritten _).2 rfl).1⟩
  · have hboth : ∀ k < 2, (tree (.ofNat (k * UInt64.toNat 2))).Returns textServer sampleRows
        (pages k) := by
      intro k hk
      obtain rfl | rfl : k = 0 ∨ k = 1 := by omega
      · exact hfirst
      · exact hsecond
    have hpages : pages 0 ++ (pages 1 ++ []) = _ :=
      ((hreturns String textServer sampleRows hkeys).2 2 pages (by decide) hboth).1
    rw [List.append_nil] at hpages
    rw [hpages]
    decide

end FilterSql
