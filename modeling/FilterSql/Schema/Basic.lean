import FilterSql.Condition.Basic
import FilterSql.Config.Error
import FilterSql.NameMap
import FilterSql.Repeats

namespace FilterSql

/-- Where a field is stored. It is in the base table if it names no other. -/
structure Field where
  column : String
  kind : ValueKind
  table : Option String
  deriving DecidableEq, Repr

structure LabelTable where
  table : String
  foreignKey : String
  keyColumn : String
  valueColumn : String
  deriving DecidableEq, Repr

structure StatusOrder where
  column : String
  severity : List String
  deriving DecidableEq, Repr

structure Relation where
  localColumn : String
  foreignColumn : String
  deriving DecidableEq, Repr

structure DefaultOrder where
  column : String
  descending : Bool
  deriving DecidableEq, Repr

structure Schema where
  baseTable : String
  primaryKey : String
  sessionColumn : String
  labels : LabelTable
  status : StatusOrder
  defaultOrder : Option DefaultOrder
  relations : NameMap Relation
  fields : NameMap Field
  deriving DecidableEq

namespace Schema

def defaultPrimaryKey : String := "id"

def field? (s : Schema) (name : String) : Option Field := s.fields.find? name

def tableOf (s : Schema) (field : Field) : String := field.table.getD s.baseTable

/-- The rank of a status: the worst has the highest, and one that is not listed has zero. -/
def statusRank (s : Schema) (status : String) : Nat :=
  match s.status.severity.idxOf? status with
  | some i => s.status.severity.length - i
  | none => 0

def statusForRank (s : Schema) (rank : Int) : Option String :=
  let count := s.status.severity.length
  if rank < 1 ∨ count < rank then none else s.status.severity[count - rank.toNat]?

def knows (s : Schema) (table : String) : Bool :=
  table == s.baseTable || s.relations.contains table

def fault? (s : Schema) : Option ConfigFault :=
  if s.fields.entries.isEmpty then some .noFields
  else if s.status.severity.isEmpty then some .noSeverity
  else
    match firstRepeated [] s.status.severity with
    | some status => some (.repeatedStatus status)
    | none =>
      match s.fields.entries.find? fun (_, field) => !s.knows (s.tableOf field) with
      | some (name, field) => some (.unrelatedField name (s.tableOf field) s.baseTable)
      | none => none

/-- A schema can be used if it has fields and statuses, lists no status twice, and has a relation for
the table of every field. -/
def check (s : Schema) : Except ConfigError Unit :=
  match s.fault? with
  | some fault => .error (.invalid fault)
  | none => .ok ()

end Schema

end FilterSql
