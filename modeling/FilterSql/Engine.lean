import FilterSql.Config.Basic
import FilterSql.Dimension.Parser
import FilterSql.Query.Validation
import FilterSql.Request
import FilterSql.Statement

namespace FilterSql

structure Engine where
  schema : Schema
  dialect : Dialect
  limits : Limits
  maxLimit : UInt64
  deriving DecidableEq

namespace Engine

def make (schema : Schema) (dialect : Dialect) : Engine :=
  let config : Config := {}
  { schema := schema, dialect := dialect, limits := config.limits, maxLimit := config.maxLimit }

def ofConfig (files : Files) (config : Config) : Except ConfigError Engine := do
  config.check
  let schema ← config.loadSchema files
  let dialect ← config.buildDialect
  return { schema := schema, dialect := dialect, limits := config.limits, maxLimit := config.maxLimit }

/-- Replaces the schema of the engine that is running, which is there behind an error too. -/
def reload (schema : Schema) : ExceptT ConfigError (StateM Engine) Unit := do
  schema.check
  modify fun e => { e with schema := schema }

theorem run_reload (e : Engine) (schema : Schema) :
    (reload schema).run e =
      match schema.check with
      | .ok () => (.ok (), { e with schema := schema })
      | .error error => (.error error, e) := by
  unfold reload
  cases schema.check <;> rfl

def parse (e : Engine) (text : String) : Except QueryError (Option Filter) :=
  parseFilter e.limits text

def compile (e : Engine) (r : Request) : Except QueryError Statement := do
  let filter ← e.parse r.query
  let groupBy ← Dimension.parseList r.groupBy
  let page ← Page.make r.offset (min r.limit e.maxLimit)
  let query ← Query.validate e.schema { filter := filter, groupBy := groupBy, page := page }
  query.compile e.dialect e.schema

end Engine

end FilterSql
