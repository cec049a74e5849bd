import FilterSql.Repeats
import FilterSql.Schema.Basic
import FilterSql.Sql.Select

namespace FilterSql

structure Statement where
  sql : String
  params : List Sql.Value
  groupColumns : List String
  deriving DecidableEq, Repr

namespace Statement

def sessionName : String := "session_id"

def outputName (position : Nat) : Dimension → String
  | .session => sessionName
  | .tag _ => s!"tag_{position}"

def labelName (position : Nat) : String := s!"label_{position}"

def relatedJoin (schema : Schema) (table : String) : Except QueryError Sql.Join :=
  match schema.relations.find? table with
  | none => .error (.compile (.unrelatedTable table schema.baseTable))
  | some relation =>
    .ok {
      table := table
      as? := none
      foreign := ⟨table, relation.foreignColumn⟩
      localKey := ⟨schema.baseTable, relation.localColumn⟩
      fixed? := none }

def relatedJoins (schema : Schema) (filter : Option ColumnCondition) :
    Except QueryError (List Sql.Join) :=
  let tables := (filter.map ColumnCondition.tables).getD []
  (tables.filter (· != schema.baseTable)).mapM (relatedJoin schema)

def joinAlias? (position : Nat) : Dimension → Option String
  | .session => none
  | .tag _ => some (labelName position)

def labelJoin (schema : Schema) (name key : String) : Sql.Join :=
  { table := schema.labels.table
    as? := some name
    foreign := ⟨name, schema.labels.foreignKey⟩
    localKey := ⟨schema.baseTable, schema.primaryKey⟩
    fixed? := some (⟨name, schema.labels.keyColumn⟩, .string key) }

/-- What a dimension is compiled to: `session`, or `tag` of the name of its join and its key. -/
def ofDimension {α : Type} (session : α) (tag : String → String → α) (d : Dimension × Nat) :
    Except QueryError α :=
  match d.1, joinAlias? d.2 d.1 with
  | .session, _ => .ok session
  | .tag key, some name => .ok (tag name key)
  | .tag key, none => .error (.unsupportedGrouping (.unjoined key))

def dimensionOutput (schema : Schema) (d : Dimension × Nat) :
    Except QueryError (Option Sql.Join × Sql.Output) :=
  let name := outputName d.2 d.1
  ofDimension (none, ⟨⟨schema.baseTable, schema.sessionColumn⟩, name⟩)
    (fun table key =>
      (some (labelJoin schema table key), ⟨⟨table, schema.labels.valueColumn⟩, name⟩)) d

def groupKey (schema : Schema) : Dimension × Nat → Except QueryError Sql.Column :=
  ofDimension ⟨schema.baseTable, schema.sessionColumn⟩ fun table _ =>
    ⟨table, schema.labels.valueColumn⟩

def emptyKey? (dimensions : List Dimension) : Option Nat :=
  dimensions.idxOf? (.tag "")

/-- The order of a page of records: the default order, and the primary key unless it is that. -/
def recordOrder (schema : Schema) : List Sql.SortKey :=
  let byKey : Sql.SortKey := ⟨⟨schema.baseTable, schema.primaryKey⟩, false⟩
  match schema.defaultOrder with
  | none => [byKey]
  | some order =>
    let first : Sql.SortKey := ⟨⟨schema.baseTable, order.column⟩, order.descending⟩
    if order.column = schema.primaryKey then [first] else [first, byKey]

def records (schema : Schema) (q : ResolvedQuery) (joins : List Sql.Join) : Sql.RecordSelect where
  source := { base := schema.baseTable, joins := joins, filter := q.filter }
  order := recordOrder schema
  page := q.page

def recordSelect (schema : Schema) (q : ResolvedQuery) : Except QueryError Sql.RecordSelect :=
  (relatedJoins schema q.filter).map (records schema q)

def groupFault? (dimensions : List Dimension) : Option GroupFault :=
  match firstRepeated [] dimensions with
  | some dimension => some (.repeated dimension)
  | none => (emptyKey? dimensions).map .emptyKey

def gather (schema : Schema) (q : ResolvedQuery) (joins : List Sql.Join)
    (dimensions : List Sql.Output) (keys : List Sql.Column) : Sql.GroupSelect where
  source := { base := schema.baseTable, joins := joins, filter := q.filter }
  dimensions := dimensions
  keys := keys
  status := ⟨schema.baseTable, schema.status.column⟩
  ranks := schema.status.severity.map fun status => (status, schema.statusRank status)
  primaryKey := ⟨schema.baseTable, schema.primaryKey⟩
  page := q.page

def groupSelect (schema : Schema) (q : ResolvedQuery) : Except QueryError Sql.GroupSelect := do
  if let some fault := groupFault? q.groupBy then throw (.unsupportedGrouping fault)
  let joins ← relatedJoins schema q.filter
  let outputs ← q.groupBy.zipIdx.mapM (dimensionOutput schema)
  let keys ← q.groupBy.zipIdx.mapM (groupKey schema)
  return gather schema q (joins ++ outputs.filterMap Prod.fst) (outputs.map Prod.snd) keys

def select (dialect : Dialect) (schema : Schema) (q : ResolvedQuery) :
    Except QueryError Sql.Select :=
  if q.isGrouped then
    if dialect.missing?.isSome then .error (.compile (.groupingUnsupported dialect.name))
    else (groupSelect schema q).map .groups
  else (recordSelect schema q).map .records

end Statement

def Sql.Select.groupColumns : Sql.Select → List String
  | .records _ => []
  | .groups s => s.dimensions.map Sql.Output.name

def Statement.ofSelect (backend : Backend) (s : Sql.Select) : Statement :=
  { sql := Sql.spell backend s.pieces
    params := Sql.params s.pieces
    groupColumns := s.groupColumns }

/-- Compiles a query that was resolved, against a schema that need not be the one it was resolved
with. -/
def ResolvedQuery.compile (dialect : Dialect) (schema : Schema) (q : ResolvedQuery) :
    Except QueryError Statement :=
  (Statement.select dialect schema q).map (Statement.ofSelect dialect.backend)

end FilterSql
