import FilterSql.Query.Basic
import FilterSql.Sql.Piece

namespace FilterSql.Sql

structure Column where
  table : String
  name : String
  deriving DecidableEq, Repr

structure Join where
  table : String
  as? : Option String
  foreign : Column
  localKey : Column
  fixed? : Option (Column × Value)
  deriving DecidableEq, Repr

def Join.name (j : Join) : String := j.as?.getD j.table

structure Source where
  base : String
  joins : List Join
  filter : Option ColumnCondition
  deriving DecidableEq, Repr

structure SortKey where
  column : Column
  descending : Bool
  deriving DecidableEq, Repr

structure Output where
  column : Column
  name : String
  deriving DecidableEq, Repr

structure RecordSelect where
  source : Source
  order : List SortKey
  page : Page
  deriving DecidableEq

/-- A page of the groups of a source: their dimensions, the worst rank of the status, and the number
of records. -/
structure GroupSelect where
  source : Source
  dimensions : List Output
  keys : List Column
  status : Column
  ranks : List (String × Nat)
  primaryKey : Column
  page : Page
  deriving DecidableEq

inductive Select
  | records (s : RecordSelect)
  | groups (s : GroupSelect)
  deriving DecidableEq

def groupsName : String := "grouped_results"

def worstRankName : String := "worst_status_rank"

def recordCountName : String := "record_count"

def totalCountName : String := "total_count"

def commaSeparated : List (List Piece) → List Piece
  | [] => []
  | [ps] => ps
  | ps :: rest => ps ++ .word ", " :: commaSeparated rest

def Column.pieces (c : Column) : List Piece := [.identifier c.table, .word ".", .identifier c.name]

def comparisonWord : Comparison → String
  | .eq => " = "
  | .ne => " <> "
  | .gt => " > "
  | .lt => " < "
  | .ge => " >= "
  | .le => " <= "

def testPieces (t : ColumnTest) : List Piece :=
  Column.pieces ⟨t.table, t.column⟩ ++ [.word (comparisonWord t.op), .bound (.ofLiteral t.value)]

def parenthesized (b : Bool) (ps : List Piece) : List Piece :=
  if b then .word "(" :: ps ++ [.word ")"] else ps

def isLeaf {α : Type} : Condition α → Bool
  | .leaf _ => true
  | _ => false

def isAnd {α : Type} : Condition α → Bool
  | .and _ _ => true
  | _ => false

def isOr {α : Type} : Condition α → Bool
  | .or _ _ => true
  | _ => false

/-- A condition with the parentheses it needs: none around a test, and none around a left operand of
the same connective. -/
def conditionPieces : ColumnCondition → List Piece
  | .leaf test => testPieces test
  | .and left right =>
    parenthesized (!isLeaf left && !isAnd left) (conditionPieces left) ++
      .word " AND " :: parenthesized (!isLeaf right) (conditionPieces right)
  | .or left right =>
    parenthesized (!isLeaf left && !isOr left) (conditionPieces left) ++
      .word " OR " :: parenthesized (!isLeaf right) (conditionPieces right)
  | .not inner => .word "NOT " :: parenthesized (!isLeaf inner) (conditionPieces inner)

def fixedPieces : Option (Column × Value) → List Piece
  | none => []
  | some (column, value) => .word " AND " :: column.pieces ++ [.word " = ", .bound value]

def aliasPieces : Option String → List Piece
  | none => []
  | some name => [.word " AS ", .identifier name]

def Join.pieces (j : Join) : List Piece :=
  .word " LEFT JOIN " :: .identifier j.table :: aliasPieces j.as? ++ .word " ON " ::
    j.foreign.pieces ++ .word " = " :: j.localKey.pieces ++ fixedPieces j.fixed?

def wherePieces : Option ColumnCondition → List Piece
  | none => []
  | some condition => .word " WHERE " :: conditionPieces condition

def Source.pieces (s : Source) : List Piece :=
  .word " FROM " :: .identifier s.base :: s.joins.flatMap Join.pieces ++ wherePieces s.filter

def SortKey.pieces (o : SortKey) : List Piece :=
  o.column.pieces ++ [.word (if o.descending then " DESC" else " ASC")]

def pagePieces (p : Page) : List Piece :=
  [.word " LIMIT ", .bound (.unsigned p.limit), .word " OFFSET ", .bound (.unsigned p.offset)]

def RecordSelect.pieces (s : RecordSelect) : List Piece :=
  .word "SELECT " :: .identifier s.source.base :: .word ".*" :: s.source.pieces ++
    .word " ORDER BY " :: commaSeparated (s.order.map SortKey.pieces) ++ pagePieces s.page

def rankPieces (status : Column) (entry : String × Nat) : List Piece :=
  .word " WHEN (" :: status.pieces ++
    [.word " = ", .constant entry.1, .word ") THEN ", .number entry.2]

def GroupSelect.rankCase (s : GroupSelect) : List Piece :=
  .word "(CASE" :: s.ranks.flatMap (rankPieces s.status) ++
    [.word " ELSE ", .number 0, .word " END)"]

def Output.pieces (o : Output) : List Piece :=
  o.column.pieces ++ [.word " AS ", .identifier o.name]

def GroupSelect.columns (s : GroupSelect) : List (List Piece) :=
  s.dimensions.map Output.pieces ++
    [.word "MAX(" :: s.rankCase ++ [.word ") AS ", .identifier worstRankName],
      .word "COUNT(" :: s.primaryKey.pieces ++ [.word ") AS ", .identifier recordCountName]]

def GroupSelect.gathering (s : GroupSelect) : List Piece :=
  .word "SELECT " :: commaSeparated s.columns ++ s.source.pieces ++
    .word " GROUP BY " :: commaSeparated (s.keys.map Column.pieces)

def GroupSelect.pieces (s : GroupSelect) : List Piece :=
  .word "WITH " :: .identifier groupsName :: .word " AS (" :: s.gathering ++
    .word ") SELECT *, COUNT(*) OVER (  ) AS " :: .identifier totalCountName :: .word " FROM " ::
    .identifier groupsName :: .word " ORDER BY " ::
    commaSeparated (s.dimensions.map fun o => [.identifier o.name, .word " ASC"]) ++
    pagePieces s.page

def Select.pieces : Select → List Piece
  | .records s => s.pieces
  | .groups s => s.pieces

end FilterSql.Sql
