import FilterSql.Json.Decode
import FilterSql.Json.Reader
import FilterSql.Schema.Basic

namespace FilterSql

def ValueKind.toJson (kind : ValueKind) : Json := .text kind.name

def ValueKind.ofJson? : Json → Option ValueKind :=
  Json.toChoice? [("string", .string), ("number", .number)]

namespace Field

def toJson (f : Field) : Json :=
  .record ([("column", .text f.column), ("type", f.kind.toJson)] ++
    f.table.toList.map fun table => ("table", .text table))

def ofJson? (j : Json) : Option Field := do
  let fields ← j.toRecord? ["column", "type", "table"]
  return {
    column := ← Json.required fields "column" Json.toText?
    kind := ← Json.required fields "type" ValueKind.ofJson?
    table := ← Json.optional fields "table" (Json.toOption? Json.toText?) none }

end Field

namespace LabelTable

def toJson (l : LabelTable) : Json :=
  .record [("table", .text l.table), ("foreign_key", .text l.foreignKey),
    ("key_column", .text l.keyColumn), ("value_column", .text l.valueColumn)]

def ofJson? (j : Json) : Option LabelTable := do
  let fields ← j.toRecord? ["table", "foreign_key", "key_column", "value_column"]
  return {
    table := ← Json.required fields "table" Json.toText?
    foreignKey := ← Json.required fields "foreign_key" Json.toText?
    keyColumn := ← Json.required fields "key_column" Json.toText?
    valueColumn := ← Json.required fields "value_column" Json.toText? }

end LabelTable

namespace StatusOrder

def toJson (s : StatusOrder) : Json :=
  .record [("column", .text s.column), ("severity", .array (s.severity.map .text))]

def ofJson? (j : Json) : Option StatusOrder := do
  let fields ← j.toRecord? ["column", "severity"]
  return {
    column := ← Json.required fields "column" Json.toText?
    severity := ← Json.required fields "severity" (Json.toList? Json.toText?) }

end StatusOrder

namespace Relation

def toJson (r : Relation) : Json :=
  .record [("local_column", .text r.localColumn), ("foreign_column", .text r.foreignColumn)]

def ofJson? (j : Json) : Option Relation := do
  let fields ← j.toRecord? ["local_column", "foreign_column"]
  return {
    localColumn := ← Json.required fields "local_column" Json.toText?
    foreignColumn := ← Json.required fields "foreign_column" Json.toText? }

end Relation

namespace DefaultOrder

def toJson (o : DefaultOrder) : Json :=
  .record [("column", .text o.column), ("descending", .bool o.descending)]

def ofJson? (j : Json) : Option DefaultOrder := do
  let fields ← j.toRecord? ["column", "descending"]
  return {
    column := ← Json.required fields "column" Json.toText?
    descending := ← Json.optional fields "descending" Json.toBool? false }

end DefaultOrder

def NameMap.toJson {α : Type} (encode : α → Json) (m : NameMap α) : Json :=
  .record (m.entries.map fun (name, value) => (name, encode value))

namespace Schema

def toJson (s : Schema) : Json :=
  .record ([("base_table", .text s.baseTable), ("primary_key", .text s.primaryKey),
      ("session_column", .text s.sessionColumn), ("labels", s.labels.toJson),
      ("status", s.status.toJson)] ++
    s.defaultOrder.toList.map (fun order => ("default_order", order.toJson)) ++
    [("relations", s.relations.toJson Relation.toJson), ("fields", s.fields.toJson Field.toJson)])

def fieldNames : List String :=
  ["base_table", "primary_key", "session_column", "labels", "status", "default_order", "relations",
    "fields"]

def ofJson? (j : Json) : Option Schema := do
  let fields ← j.toRecord? fieldNames
  return {
    baseTable := ← Json.required fields "base_table" Json.toText?
    primaryKey := ← Json.optional fields "primary_key" Json.toText? defaultPrimaryKey
    sessionColumn := ← Json.required fields "session_column" Json.toText?
    labels := ← Json.required fields "labels" LabelTable.ofJson?
    status := ← Json.required fields "status" StatusOrder.ofJson?
    defaultOrder := ← Json.optional fields "default_order" (Json.toOption? DefaultOrder.ofJson?) none
    relations := ← Json.optional fields "relations" (Json.toNameMap? Relation.ofJson?) .empty
    fields := ← Json.required fields "fields" (Json.toNameMap? Field.ofJson?) }

def read (origin text : String) : Except ConfigError Schema :=
  match (Json.parse? text).bind ofJson? with
  | some schema => .ok schema
  | none => .error (.json origin)

def load (origin text : String) : Except ConfigError Schema := do
  let schema ← read origin text
  schema.check
  return schema

def ofText (text : String) : Except ConfigError Schema := load "field schema" text

end Schema

end FilterSql
