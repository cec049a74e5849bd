import FilterSql.Proofs.Sql.Syntax
import FilterSql.Proofs.Statement
import FilterSql.Schema.Builtin

namespace FilterSql

def ColumnTest.target (t : ColumnTest) : String × String × Comparison := (t.table, t.column, t.op)

/-- The queries differ in literals, keys and pages at most. -/
structure SameShape (q q' : ResolvedQuery) : Prop where
  filter : q.filter.map (·.map ColumnTest.target) = q'.filter.map (·.map ColumnTest.target)
  groupBy : q.groupBy.map (·.key?.isSome) = q'.groupBy.map (·.key?.isSome)

/-- The keys of the dimensions are not empty, and none comes twice. -/
structure ProperKeys (dimensions : List Dimension) : Prop where
  nodup : (dimensions.filterMap Dimension.key?).Nodup
  ne_empty : "" ∉ dimensions.filterMap Dimension.key?

def ColumnTest.ofTarget (target : String × String × Comparison) : ColumnTest :=
  ⟨"", target.1, target.2.1, .string, target.2.2, .string ""⟩

def Dimension.erase : Dimension → Dimension
  | .session => .session
  | .tag _ => .tag ""

def ResolvedQuery.erase (q : ResolvedQuery) : ResolvedQuery where
  filter := q.filter.map (·.map fun t => .ofTarget t.target)
  groupBy := q.groupBy.map Dimension.erase
  page := ⟨0, 1, by decide⟩

theorem Condition.map_map {α β γ : Type} (f : α → β) (g : β → γ) (t : Condition α) :
    (t.map f).map g = t.map fun a => g (f a) := by
  induction t with
  | leaf => rfl
  | and _ _ ihl ihr => simp [Condition.map, ihl, ihr]
  | or _ _ ihl ihr => simp [Condition.map, ihl, ihr]
  | not _ ih => simp [Condition.map, ih]

theorem Dimension.erase_eq (d : Dimension) :
    d.erase = if d.key?.isSome then .tag "" else .session := by
  cases d <;> rfl

theorem SameShape.erase_eq {q q' : ResolvedQuery} (h : SameShape q q') : q.erase = q'.erase := by
  have hfilter (q : ResolvedQuery) : q.filter.map (·.map fun t => ColumnTest.ofTarget t.target) =
      (q.filter.map (·.map ColumnTest.target)).map (·.map ColumnTest.ofTarget) := by
    cases q.filter <;> simp [Condition.map_map]
  have hgroupBy (q : ResolvedQuery) : q.groupBy.map Dimension.erase =
      (q.groupBy.map (·.key?.isSome)).map fun b => if b then .tag "" else .session := by
    simp [Dimension.erase_eq]
  simp only [ResolvedQuery.erase, hfilter, hgroupBy, h.filter, h.groupBy]

namespace Sql

def Piece.erase : Piece → Piece
  | .bound _ => .bound (.string "")
  | piece => piece

theorem spellFrom_erase (b : Backend) (index : Nat) (ps : List Piece) :
    spellFrom b index (ps.map Piece.erase) = spellFrom b index ps := by
  induction ps generalizing index with
  | nil => rfl
  | cons p ps ih => cases p <;> simp [spellFrom, Piece.erase, Piece.spell, Piece.next, ih]

def SameText (ps qs : List Piece) : Prop := ps.map Piece.erase = qs.map Piece.erase

theorem SameText.spell_eq {ps qs : List Piece} (h : SameText ps qs) (b : Backend) :
    spell b ps = spell b qs := by
  rw [spell, spell, ← spellFrom_erase, h, spellFrom_erase]

theorem SameText.refl (ps : List Piece) : SameText ps ps := rfl

theorem SameText.append {ps ps' qs qs' : List Piece} (hp : SameText ps ps')
    (hq : SameText qs qs') : SameText (ps ++ qs) (ps' ++ qs') := by
  simp only [SameText, List.map_append] at *
  rw [hp, hq]

theorem SameText.cons {ps qs : List Piece} (h : SameText ps qs) (piece : Piece) :
    SameText (piece :: ps) (piece :: qs) :=
  SameText.append (.refl [piece]) h

theorem SameText.parenthesized {ps qs : List Piece} (h : SameText ps qs) (b : Bool) :
    SameText (parenthesized b ps) (parenthesized b qs) := by
  cases b with
  | false => exact h
  | true => exact (h.append (.refl _)).cons _

theorem sameText_condition (t : ColumnCondition) :
    SameText (conditionPieces (t.map fun t => .ofTarget t.target)) (conditionPieces t) := by
  induction t with
  | leaf test => rfl
  | and l r ihl ihr =>
    simp only [Condition.map, conditionPieces, isLeaf_map, isAnd_map]
    exact (ihl.parenthesized _).append ((ihr.parenthesized _).cons _)
  | or l r ihl ihr =>
    simp only [Condition.map, conditionPieces, isLeaf_map, isOr_map]
    exact (ihl.parenthesized _).append ((ihr.parenthesized _).cons _)
  | not t ih =>
    simp only [Condition.map, conditionPieces, isLeaf_map]
    exact (ih.parenthesized _).cons _

theorem sameText_where (filter : Option ColumnCondition) :
    SameText (wherePieces (filter.map (·.map fun t => .ofTarget t.target)))
      (wherePieces filter) := by
  cases filter with
  | none => rfl
  | some t => exact (sameText_condition t).cons _

theorem sameText_page (p p' : Page) : SameText (pagePieces p) (pagePieces p') := rfl

theorem sameText_source {s s' : Source} (hbase : s.base = s'.base)
    (hjoins : SameText (s.joins.flatMap Join.pieces) (s'.joins.flatMap Join.pieces))
    (hfilter : SameText (wherePieces s.filter) (wherePieces s'.filter)) :
    SameText s.pieces s'.pieces := by
  rw [Source.pieces, Source.pieces, hbase]
  exact ((hjoins.cons _).cons _).append hfilter

theorem sameText_records {s : RecordSelect} {source : Source} (hbase : source.base = s.source.base)
    (h : SameText source.pieces s.source.pieces) (page : Page) :
    SameText { s with source := source, page := page }.pieces s.pieces := by
  simp only [RecordSelect.pieces, hbase]
  exact ((((h.cons _).cons _).cons _).append (.refl _)).append (sameText_page page s.page)

theorem sameText_groups {s : GroupSelect} {source : Source}
    (h : SameText source.pieces s.source.pieces) (page : Page) :
    SameText { s with source := source, page := page }.pieces s.pieces := by
  have hgathering : SameText { s with source := source, page := page }.gathering s.gathering :=
    ((SameText.refl (.word "SELECT " :: commaSeparated s.columns)).append h).append (.refl _)
  exact ((((hgathering.cons _).cons _).cons _).append (.refl _)).append (sameText_page page s.page)

end Sql

namespace Statement

open Sql

theorem relatedJoins_erase (schema : Schema) (q : ResolvedQuery) :
    relatedJoins schema q.erase.filter = relatedJoins schema q.filter := by
  cases h : q.filter with
  | none => simp [ResolvedQuery.erase, h]
  | some t =>
    have htables : ColumnCondition.tables (t.map fun t => .ofTarget t.target) =
        ColumnCondition.tables t := by
      simp [ColumnCondition.tables, ColumnTest.ofTarget, ColumnTest.target, Function.comp_def]
    simp [relatedJoins, ResolvedQuery.erase, h, htables]

theorem output_erase (schema : Schema) (dimensions : List Dimension) (n : Nat) :
    ((dimensions.map Dimension.erase).zipIdx n).map (output schema) =
      (dimensions.zipIdx n).map (output schema) := by
  induction dimensions generalizing n with
  | nil => rfl
  | cons d ds ih => cases d <;> simp [Dimension.erase, output, outputName, ih]

theorem sameText_labelJoins (schema : Schema) (dimensions : List Dimension) (n : Nat) :
    SameText
      ((((dimensions.map Dimension.erase).zipIdx n).filterMap (labelJoin? schema)).flatMap
        Join.pieces)
      (((dimensions.zipIdx n).filterMap (labelJoin? schema)).flatMap Join.pieces) := by
  induction dimensions generalizing n with
  | nil => rfl
  | cons d ds ih =>
    cases d with
    | session => exact ih (n + 1)
    | tag key =>
      have hlabel : SameText (labelJoin schema (labelName n) "").pieces
          (labelJoin schema (labelName n) key).pieces := rfl
      exact hlabel.append (ih (n + 1))

theorem sql_records_erase (b : Backend) (schema : Schema) (q : ResolvedQuery) (joins : List Join) :
    spell b (records schema q.erase joins).pieces = spell b (records schema q joins).pieces := by
  have hsource : SameText (records schema q.erase joins).source.pieces
      (records schema q joins).source.pieces :=
    sameText_source rfl (.refl _) (sameText_where q.filter)
  exact (sameText_records (s := records schema q joins) (by rfl) hsource q.erase.page).spell_eq b

theorem groups_erase (schema : Schema) (q : ResolvedQuery) (joins : List Join) :
    groups schema q.erase joins =
      { groups schema q joins with
        source := (groups schema q.erase joins).source
        page := q.erase.page } := by
  simp [groups, gather, ResolvedQuery.erase, output_erase]

theorem sql_groups_erase (b : Backend) (schema : Schema) (q : ResolvedQuery) (joins : List Join) :
    spell b (groups schema q.erase joins).pieces = spell b (groups schema q joins).pieces := by
  have hjoins : SameText ((groups schema q.erase joins).source.joins.flatMap Join.pieces)
      ((groups schema q joins).source.joins.flatMap Join.pieces) := by
    simp only [groups, gather, List.flatMap_append]
    exact (SameText.refl _).append (sameText_labelJoins schema q.groupBy 0)
  have hsource : SameText (groups schema q.erase joins).source.pieces
      (groups schema q joins).source.pieces :=
    sameText_source rfl hjoins (sameText_where q.filter)
  rw [groups_erase]
  exact (sameText_groups hsource q.erase.page).spell_eq b

theorem firstRepeated_congr {seen seen' ds ds' : List Dimension}
    (hshape : ds.map (·.key?.isSome) = ds'.map (·.key?.isSome))
    (hsession : .session ∈ seen ↔ .session ∈ seen')
    (hn : (ds.filterMap Dimension.key?).Nodup) (hn' : (ds'.filterMap Dimension.key?).Nodup)
    (hs : ∀ key ∈ ds.filterMap Dimension.key?, .tag key ∉ seen)
    (hs' : ∀ key ∈ ds'.filterMap Dimension.key?, .tag key ∉ seen') :
    firstRepeated seen ds = firstRepeated seen' ds' := by
  have hfresh {key : String} {keys : List String} {seen : List Dimension} (hn : key ∉ keys)
      (hs : ∀ k ∈ key :: keys, .tag k ∉ seen) :
      ∀ k ∈ keys, Dimension.tag k ∉ .tag key :: seen := by
    intro k hk
    have hne : k ≠ key := fun h => hn (h ▸ hk)
    simp [hne, hs k (by simp [hk])]
  -- a tag is never among the earlier ones, and the session is among both or neither
  induction ds generalizing seen seen' ds' with
  | nil =>
    cases ds' with
    | nil => rfl
    | cons => cases hshape
  | cons d ds ih =>
    cases ds' with
    | nil => cases hshape
    | cons d' ds' =>
      simp only [List.map_cons, List.cons.injEq] at hshape
      obtain ⟨hd, hshape⟩ := hshape
      cases d with
      | session =>
        cases d' with
        | tag => cases hd
        | session =>
          simp only [Dimension.key?, List.filterMap_cons] at hn hn' hs hs'
          simp only [firstRepeated, hsession]
          split
          · rfl
          · exact ih hshape (by simp) hn hn' (by simpa using hs) (by simpa using hs')
      | tag key =>
        cases d' with
        | session => cases hd
        | tag key' =>
          simp only [Dimension.key?, List.filterMap_cons, List.nodup_cons] at hn hn' hs hs'
          rw [firstRepeated, firstRepeated, if_neg (hs key (by simp)), if_neg (hs' key' (by simp))]
          exact ih hshape (by simpa using hsession) hn.2 hn'.2 (hfresh hn.1 hs) (hfresh hn'.1 hs')

theorem groupFault?_congr {ds ds' : List Dimension}
    (hshape : ds.map (·.key?.isSome) = ds'.map (·.key?.isSome)) (h : ProperKeys ds)
    (h' : ProperKeys ds') : groupFault? ds = groupFault? ds' := by
  have hempty {ds : List Dimension} (h : ProperKeys ds) : emptyKey? ds = none := by
    rw [emptyKey?, List.idxOf?_eq_none_iff]
    exact fun hmem => h.ne_empty (List.mem_filterMap.2 ⟨_, hmem, rfl⟩)
  have hrepeated : firstRepeated [] ds = firstRepeated [] ds' :=
    firstRepeated_congr hshape (by simp) h.nodup h'.nodup (by simp) (by simp)
  rw [groupFault?, groupFault?, hrepeated, hempty h, hempty h']

/-- The text and the columns of a statement show no value of the query. -/
theorem compile_sql_eq_of_sameShape (dialect : Dialect) (schema : Schema) (q q' : ResolvedQuery)
    (hshape : SameShape q q') (hkeys : ProperKeys q.groupBy) (hkeys' : ProperKeys q'.groupBy) :
    (∃ e, q.compile dialect schema = .error e ∧ q'.compile dialect schema = .error e) ∨
    (∃ s s', q.compile dialect schema = .ok s ∧ q'.compile dialect schema = .ok s' ∧
      s.sql = s'.sql ∧ s.groupColumns = s'.groupColumns) := by
  have herase := hshape.erase_eq
  have hempty : q.groupBy = [] ↔ q'.groupBy = [] := by
    rw [← List.map_eq_nil_iff, hshape.groupBy, List.map_eq_nil_iff]
  have hjoins : relatedJoins schema q.filter = relatedJoins schema q'.filter := by
    rw [← relatedJoins_erase, herase, relatedJoins_erase]
  have hfault := groupFault?_congr hshape.groupBy hkeys hkeys'
  have hrecords (joins : List Join) : spell dialect.backend (records schema q joins).pieces =
      spell dialect.backend (records schema q' joins).pieces := by
    rw [← sql_records_erase, herase, sql_records_erase]
  have hgroups (joins : List Join) : spell dialect.backend (groups schema q joins).pieces =
      spell dialect.backend (groups schema q' joins).pieces := by
    rw [← sql_groups_erase, herase, sql_groups_erase]
  have hdimensions (joins : List Join) :
      (groups schema q joins).dimensions = (groups schema q' joins).dimensions := by
    simp only [groups, gather]
    rw [← output_erase, ← output_erase schema q'.groupBy]
    exact congrArg (fun q => (q.groupBy.zipIdx).map (output schema)) herase
  simp only [compile_eq, hempty, hjoins, hfault]
  split
  · cases relatedJoins schema q'.filter with
    | error e => exact .inl ⟨e, rfl, rfl⟩
    | ok joins => exact .inr ⟨_, _, rfl, rfl, hrecords joins, rfl⟩
  · split
    · exact .inl ⟨_, rfl, rfl⟩
    · cases groupFault? q'.groupBy with
      | some fault => exact .inl ⟨_, rfl, rfl⟩
      | none =>
        cases relatedJoins schema q'.filter with
        | error e => exact .inl ⟨e, rfl, rfl⟩
        | ok joins =>
          have hnames := congrArg (List.map Output.name) (hdimensions joins)
          exact .inr ⟨_, _, rfl, rfl, hgroups joins, hnames⟩

theorem compile_sql_eq_of_sameShape_quote :
    let query (value : Literal) (key : String) (page : Page) : ResolvedQuery :=
      { filter := some (.not (.leaf ⟨"name", "launch", "name", value.kind, .eq, value⟩))
        groupBy := [.session, .tag key], page := page }
    let q := query (.string "\x27 OR 1 = 1") "os\"" ⟨0, 10, by decide⟩
    let q' := query (.int 7) "browser" ⟨20, 5, by decide⟩
    ∃ s s', q.compile ⟨.mysql, none⟩ .builtin = .ok s ∧
      q'.compile ⟨.mysql, none⟩ .builtin = .ok s' ∧
      s.sql = s'.sql ∧ s.groupColumns = s'.groupColumns := by
  intro query q q'
  have hok : ∃ s, q.compile ⟨.mysql, none⟩ .builtin = .ok s :=
    (exists_compile_iff _ _ q).2
      ⟨(exists_relatedJoins_iff _ _).2 (by decide), .inr (by decide)⟩
  rcases compile_sql_eq_of_sameShape ⟨.mysql, none⟩ .builtin q q' ⟨rfl, rfl⟩
    ⟨by decide, by decide⟩ ⟨by decide, by decide⟩ with ⟨e, he, -⟩ | h
  · obtain ⟨s, hs⟩ := hok
    cases hs.symm.trans he
  · exact h

end Statement

end FilterSql
