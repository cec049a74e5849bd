import FilterSql.Config.Basic

namespace FilterSql

def Backend.toJson (b : Backend) : Json := .text b.name

def Backend.ofJson? : Json → Option Backend :=
  Json.toChoice? [("postgres", .postgres), ("mysql", .mysql), ("sqlite", .sqlite)]

namespace DialectConfig

def toJson (d : DialectConfig) : Json :=
  .record (("backend", d.backend.toJson) ::
    d.serverVersion.toList.map fun version => ("server_version", .text version))

def ofJson? (j : Json) : Option DialectConfig := do
  let fields ← j.toRecord? ["backend", "server_version"]
  return {
    backend := ← Json.required fields "backend" Backend.ofJson?
    serverVersion :=
      ← Json.optional fields "server_version" (Json.toOption? Json.toText?) none }

end DialectConfig

namespace Config

def toJson (c : Config) : Json :=
  .record (c.schemaPath.toList.map (fun path => ("schema_path", .text path)) ++
    [("dialect", c.dialect.toJson), ("max_limit", .nat c.maxLimit.toNat),
      ("max_depth", .nat c.maxDepth.toNat), ("max_tree_depth", .nat c.maxTreeDepth.toNat),
      ("log_level", .text c.logLevel)])

def fieldNames : List String :=
  ["schema_path", "dialect", "max_limit", "max_depth", "max_tree_depth", "log_level"]

def ofJson? (j : Json) : Option Config := do
  let fields ← j.toRecord? fieldNames
  let default : Config := {}
  return {
    schemaPath := ← Json.optional fields "schema_path" (Json.toOption? Json.toText?) none
    dialect := ← Json.optional fields "dialect" DialectConfig.ofJson? {}
    maxLimit := ← Json.optional fields "max_limit" Json.toUInt64? default.maxLimit
    maxDepth := ← Json.optional fields "max_depth" Json.toUInt64? default.maxDepth
    maxTreeDepth := ← Json.optional fields "max_tree_depth" Json.toUInt64? default.maxTreeDepth
    logLevel := ← Json.optional fields "log_level" Json.toText? default.logLevel }

def read (origin text : String) : Except ConfigError Config :=
  match (Json.parse? text).bind ofJson? with
  | some config => .ok config
  | none => .error (.json origin)

def load (files : Files) (path : String) : Except ConfigError Config := do
  let config ← read path (← files.read path)
  config.check
  return config

end Config

end FilterSql
