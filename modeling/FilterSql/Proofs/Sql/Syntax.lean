import FilterSql.Sql.Select

/-!
The part of SQL that statements are written in, as trees: tables that are joined to a base table,
conditions on their columns, grouping with aggregates, and a page of rows. A statement is the text
of such a tree.
-/

namespace FilterSql.Sql

inductive Term
  | column (c : Column)
  | bound (value : Value)
  | constant (s : String)
  deriving DecidableEq, Repr

structure Comparing where
  left : Term
  op : Comparison
  right : Term
  deriving DecidableEq, Repr

abbrev Formula := Condition Comparing

structure LeftJoin where
  table : String
  as? : Option String
  on : Formula
  deriving DecidableEq, Repr

structure Tables where
  base : String
  joins : List LeftJoin
  filter : Option Formula
  deriving DecidableEq, Repr

inductive Projection
  | column (c : Column)
  | maxCase (branches : List (Comparing × Nat)) (otherwise : Nat)
  | count (c : Column)
  deriving DecidableEq, Repr

structure Gathering where
  outputs : List (Projection × String)
  tables : Tables
  groupBy : List Column
  deriving DecidableEq, Repr

/-- A page of the rows of a common table, each with the number of all its rows. -/
structure PagedQuery where
  name : String
  body : Gathering
  total : String
  source : String
  order : List String
  limit : UInt64
  offset : UInt64
  deriving DecidableEq, Repr

structure Listing where
  all : String
  tables : Tables
  order : List SortKey
  limit : UInt64
  offset : UInt64
  deriving DecidableEq, Repr

inductive Tree
  | listing (q : Listing)
  | paged (q : PagedQuery)
  deriving DecidableEq, Repr

def LeftJoin.name (j : LeftJoin) : String := j.as?.getD j.table

def Term.pieces : Term → List Piece
  | .column c => [.identifier c.table, .word ".", .identifier c.name]
  | .bound value => [.bound value]
  | .constant s => [.constant s]

def Comparing.pieces (c : Comparing) : List Piece :=
  c.left.pieces ++ .word (match c.op with
    | .eq => " = "
    | .ne => " <> "
    | .gt => " > "
    | .lt => " < "
    | .ge => " >= "
    | .le => " <= ") :: c.right.pieces

def inParentheses (ps : List Piece) : List Piece := .word "(" :: ps ++ [.word ")"]

/-- Parentheses stand around every operand but a comparison and a left operand of the same
connective. -/
def formulaPieces : Formula → List Piece
  | .leaf c => c.pieces
  | .and l r =>
    (if isLeaf l || isAnd l then formulaPieces l else inParentheses (formulaPieces l)) ++
      .word " AND " :: (if isLeaf r then formulaPieces r else inParentheses (formulaPieces r))
  | .or l r =>
    (if isLeaf l || isOr l then formulaPieces l else inParentheses (formulaPieces l)) ++
      .word " OR " :: (if isLeaf r then formulaPieces r else inParentheses (formulaPieces r))
  | .not f => .word "NOT " :: if isLeaf f then formulaPieces f else inParentheses (formulaPieces f)

def LeftJoin.pieces (j : LeftJoin) : List Piece :=
  .word " LEFT JOIN " :: .identifier j.table ::
    j.as?.elim [] (fun name => [.word " AS ", .identifier name]) ++
    .word " ON " :: formulaPieces j.on

def Tables.pieces (t : Tables) : List Piece :=
  .word " FROM " :: .identifier t.base :: t.joins.flatMap LeftJoin.pieces ++
    t.filter.elim [] (fun f => .word " WHERE " :: formulaPieces f)

def branchPieces (branch : Comparing × Nat) : List Piece :=
  .word " WHEN (" :: branch.1.pieces ++ [.word ") THEN ", .number branch.2]

def casePieces (branches : List (Comparing × Nat)) (otherwise : Nat) : List Piece :=
  .word "(CASE" :: branches.flatMap branchPieces ++
    [.word " ELSE ", .number otherwise, .word " END)"]

def outputPieces : Projection × String → List Piece
  | (.column c, name) =>
    [.identifier c.table, .word ".", .identifier c.name, .word " AS ", .identifier name]
  | (.maxCase branches otherwise, name) =>
    .word "MAX(" :: casePieces branches otherwise ++ [.word ") AS ", .identifier name]
  | (.count c, name) =>
    [.word "COUNT(", .identifier c.table, .word ".", .identifier c.name, .word ") AS ",
      .identifier name]

def Gathering.pieces (g : Gathering) : List Piece :=
  .word "SELECT " ::
    [.word ", "].intercalate (g.outputs.map outputPieces) ++ g.tables.pieces ++
    .word " GROUP BY " :: [.word ", "].intercalate (g.groupBy.map fun c =>
      [.identifier c.table, .word ".", .identifier c.name])

def PagedQuery.pieces (q : PagedQuery) : List Piece :=
  .word "WITH " :: .identifier q.name :: .word " AS (" :: q.body.pieces ++
    .word ") SELECT *, COUNT(*) OVER (  ) AS " :: .identifier q.total :: .word " FROM " ::
    .identifier q.source :: .word " ORDER BY " ::
    [.word ", "].intercalate (q.order.map fun name => [.identifier name, .word " ASC"]) ++
    [.word " LIMIT ", .bound (.unsigned q.limit), .word " OFFSET ", .bound (.unsigned q.offset)]

def sortPieces (k : SortKey) : List Piece :=
  [.identifier k.column.table, .word ".", .identifier k.column.name,
    .word (if k.descending then " DESC" else " ASC")]

def Listing.pieces (q : Listing) : List Piece :=
  .word "SELECT " :: .identifier q.all :: .word ".*" :: q.tables.pieces ++
    .word " ORDER BY " :: [.word ", "].intercalate (q.order.map sortPieces) ++
    [.word " LIMIT ", .bound (.unsigned q.limit), .word " OFFSET ", .bound (.unsigned q.offset)]

def Tree.pieces : Tree → List Piece
  | .listing q => q.pieces
  | .paged q => q.pieces

def Comparing.ofTest (t : ColumnTest) : Comparing :=
  ⟨.column ⟨t.table, t.column⟩, t.op, .bound (.ofLiteral t.value)⟩

def Join.on (j : Join) : Formula :=
  let linked : Formula := .leaf ⟨.column j.foreign, .eq, .column j.localKey⟩
  match j.fixed? with
  | none => linked
  | some (column, value) => .and linked (.leaf ⟨.column column, .eq, .bound value⟩)

def Join.leftJoin (j : Join) : LeftJoin := ⟨j.table, j.as?, j.on⟩

def Source.tables (s : Source) : Tables :=
  ⟨s.base, s.joins.map Join.leftJoin, s.filter.map (Condition.map Comparing.ofTest)⟩

def GroupSelect.query (s : GroupSelect) : PagedQuery where
  name := groupsName
  body :=
    { outputs :=
        s.dimensions.map (fun output => (.column output.column, output.name)) ++
          [(.maxCase (s.ranks.map fun (status, rank) =>
              (⟨.column s.status, .eq, .constant status⟩, rank)) 0, worstRankName),
            (.count s.primaryKey, recordCountName)]
      tables := s.source.tables
      groupBy := s.keys }
  total := totalCountName
  source := groupsName
  order := s.dimensions.map Output.name
  limit := s.page.limit
  offset := s.page.offset

def RecordSelect.listing (s : RecordSelect) : Listing where
  all := s.source.base
  tables := s.source.tables
  order := s.order
  limit := s.page.limit
  offset := s.page.offset

def Select.tree : Select → Tree
  | .records s => .listing s.listing
  | .groups s => .paged s.query

theorem commaSeparated_eq (items : List (List Piece)) :
    commaSeparated items = [.word ", "].intercalate items := by
  induction items with
  | nil => rfl
  | cons ps rest ih =>
    cases rest with
    | nil => simp [commaSeparated, List.intercalate]
    | cons qs rest =>
      have hcons : commaSeparated (ps :: qs :: rest) =
        ps ++ .word ", " :: commaSeparated (qs :: rest) := rfl
      rw [hcons, ih]
      simp [List.intercalate]

theorem comparing_pieces (t : ColumnTest) : (Comparing.ofTest t).pieces = testPieces t := by
  obtain ⟨field, table, column, kind, op, value⟩ := t
  cases op <;> rfl

section Map

variable {α β : Type} (f : α → β) (t : Condition α)

theorem isLeaf_map : isLeaf (t.map f) = isLeaf t := by
  cases t <;> rfl

theorem isAnd_map : isAnd (t.map f) = isAnd t := by
  cases t <;> rfl

theorem isOr_map : isOr (t.map f) = isOr t := by
  cases t <;> rfl

end Map

theorem parenthesized_eq (b : Bool) (ps : List Piece) :
    parenthesized (!b) ps = if b then ps else inParentheses ps := by
  cases b <;> rfl

theorem formulaPieces_map (t : ColumnCondition) :
    formulaPieces (t.map Comparing.ofTest) = conditionPieces t := by
  induction t with
  | leaf test => exact comparing_pieces test
  | and l r ihl ihr =>
    simp only [Condition.map, formulaPieces, conditionPieces, isLeaf_map, isAnd_map, ihl, ihr,
      ← Bool.not_or, parenthesized_eq]
  | or l r ihl ihr =>
    simp only [Condition.map, formulaPieces, conditionPieces, isLeaf_map, isOr_map, ihl, ihr,
      ← Bool.not_or, parenthesized_eq]
  | not t ih =>
    simp only [Condition.map, formulaPieces, conditionPieces, isLeaf_map, ih, parenthesized_eq]

theorem leftJoin_pieces (j : Join) : j.leftJoin.pieces = j.pieces := by
  obtain ⟨table, as?, foreign, localKey, fixed?⟩ := j
  cases as? <;> cases fixed? <;> rfl

theorem tables_pieces (s : Source) : s.tables.pieces = s.pieces := by
  obtain ⟨base, joins, filter⟩ := s
  have hjoins : (joins.map Join.leftJoin).flatMap LeftJoin.pieces = joins.flatMap Join.pieces := by
    rw [List.flatMap_map]
    simp only [leftJoin_pieces]
  cases filter with
  | none => simp [Source.tables, Tables.pieces, Source.pieces, wherePieces, hjoins]
  | some t =>
    simp [Source.tables, Tables.pieces, Source.pieces, wherePieces, hjoins, formulaPieces_map]

theorem case_pieces (s : GroupSelect) :
    casePieces (s.ranks.map fun entry => (⟨.column s.status, .eq, .constant entry.1⟩, entry.2)) 0 =
      s.rankCase := by
  rw [casePieces, List.flatMap_map]
  rfl

theorem outputs_pieces (s : GroupSelect) : s.query.body.outputs.map outputPieces = s.columns := by
  simp only [GroupSelect.query, GroupSelect.columns, List.map_append, List.map_map, List.map_cons,
    outputPieces, case_pieces]
  rfl

theorem query_pieces (s : GroupSelect) : s.query.pieces = s.pieces := by
  have hbody : s.query.body.pieces = s.gathering := by
    rw [Gathering.pieces, outputs_pieces]
    simp only [GroupSelect.gathering, commaSeparated_eq]
    simp only [GroupSelect.query, tables_pieces]
    rfl
  rw [PagedQuery.pieces, hbody]
  simp only [GroupSelect.pieces, commaSeparated_eq]
  simp only [GroupSelect.query, List.map_map]
  rfl

theorem listing_pieces (s : RecordSelect) : s.listing.pieces = s.pieces := by
  have horder : s.order.map sortPieces = s.order.map SortKey.pieces := rfl
  simp only [Listing.pieces, RecordSelect.listing, tables_pieces, horder, ← commaSeparated_eq]
  rfl

theorem tree_pieces (s : Select) : s.tree.pieces = s.pieces := by
  cases s with
  | records s => exact listing_pieces s
  | groups s => exact query_pieces s

end FilterSql.Sql
