import FilterSql.Condition.Parser
import FilterSql.Dialect
import FilterSql.Files.Basic
import FilterSql.Schema.Builtin
import FilterSql.Schema.Json

namespace FilterSql

structure DialectConfig where
  backend : Backend := .postgres
  serverVersion : Option String := none
  deriving DecidableEq, Repr

structure Config where
  schemaPath : Option String := none
  dialect : DialectConfig := {}
  maxLimit : UInt64 := 1000
  maxDepth : UInt64 := 64
  maxTreeDepth : UInt64 := 256
  logLevel : String := "info"
  deriving DecidableEq, Repr

namespace Config

def zeroBound? (c : Config) : Option Bound :=
  if c.maxLimit = 0 then some .maxLimit
  else if c.maxDepth = 0 then some .maxDepth
  else if c.maxTreeDepth = 0 then some .maxTreeDepth
  else none

def check (c : Config) : Except ConfigError Unit :=
  match c.zeroBound? with
  | some bound => .error (.invalid (.zeroBound bound))
  | none => .ok ()

def limits (c : Config) : Limits :=
  { depth := c.maxDepth.toNat, height := c.maxTreeDepth.toNat }

def loadSchema (files : Files) (c : Config) : Except ConfigError Schema :=
  match c.schemaPath with
  | none => .ok .builtin
  | some path => do Schema.load path (← files.read path)

def serverVersion (c : Config) : Except ConfigError (Option Version) :=
  match c.dialect.serverVersion with
  | none => .ok none
  | some text => (Version.parse text).map some

def buildDialect (c : Config) : Except ConfigError Dialect := do
  Dialect.connect c.dialect.backend (← c.serverVersion)

end Config

end FilterSql
