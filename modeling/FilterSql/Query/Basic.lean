import FilterSql.Error

namespace FilterSql

structure Page where
  offset : UInt64
  limit : UInt64
  limit_ne_zero : limit ≠ 0
  deriving DecidableEq

def Page.make (offset limit : UInt64) : Except QueryError Page :=
  if h : limit = 0 then .error .zeroLimit else .ok ⟨offset, limit, h⟩

structure Query where
  filter : Option Filter
  groupBy : List Dimension
  page : Page
  deriving DecidableEq

structure ColumnTest where
  field : String
  table : String
  column : String
  kind : ValueKind
  op : Comparison
  value : Literal
  deriving DecidableEq, Repr

abbrev ColumnCondition := Condition ColumnTest

/-- The tables of the tests, each once, in the order of first mention from left to right. -/
def ColumnCondition.tables (c : ColumnCondition) : List String :=
  (c.leaves.map ColumnTest.table).eraseDups

structure ResolvedQuery where
  filter : Option ColumnCondition
  groupBy : List Dimension
  page : Page
  deriving DecidableEq

def ResolvedQuery.isGrouped (q : ResolvedQuery) : Bool := !q.groupBy.isEmpty

end FilterSql
