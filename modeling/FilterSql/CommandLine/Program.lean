import FilterSql.CommandLine.Options
import FilterSql.Session.Transcript

namespace FilterSql.CommandLine

structure Failure where
  message : String
  causes : List String := []
  deriving DecidableEq, Repr

namespace Failure

def ofQuery (e : QueryError) : Failure := ⟨e.message, []⟩

def ofConfig (e : ConfigError) : Failure := ⟨e.message, e.causes⟩

def loading (path : String) (e : ConfigError) : Failure :=
  ⟨s!"failed to load {path}", e.message :: e.causes⟩

def indented (mark : String) (message : String) : String :=
  let blank := String.ofList (List.replicate mark.length ' ')
  mark ++ String.intercalate ("\n" ++ blank)
    ((message.toList.splitOnP (· == '\n')).map String.ofList)

def causeLines (causes : List String) : List String :=
  match causes with
  | [cause] => [indented "    " cause]
  | causes => causes.zipIdx.map fun (cause, i) =>
    let number := toString i
    indented (String.ofList (List.replicate (5 - number.length) ' ') ++ number ++ ": ") cause

def render (f : Failure) : String :=
  let head := "Error: " ++ f.message
  if f.causes.isEmpty then head ++ "\n"
  else String.intercalate "\n" (head :: "" :: "Caused by:" :: causeLines f.causes) ++ "\n"

end Failure

structure Finish where
  exitCode : UInt32
  output : String
  complaints : String
  deriving DecidableEq, Repr

def versionText : String := "result-query 0.1.0\n"

def helpText : String :=
  String.intercalate "\n"
    ["Compile test-result queries into parameterized SQL",
      "",
      "Usage: result-query [OPTIONS]",
      "",
      "Options:",
      "  -c, --config <CONFIG>        Engine configuration file (JSON)",
      "  -s, --schema <SCHEMA>        Field schema file (JSON); overrides the configured one",
      "  -d, --dialect <DIALECT>      Target backend: postgres, mysql or sqlite",
      "      --log-level <LOG_LEVEL>  Log level, unless RUST_LOG is set",
      "      --pretty-logs            Multi-line log output",
      "  -e, --execute <EXECUTE>      Compile one query and exit",
      "  -g, --group-by <GROUP_BY>    Group dimensions, e.g. `session,tag:target`",
      "      --offset <OFFSET>        [default: 0]",
      "      --limit <LIMIT>          [default: 50]",
      "  -h, --help                   Print help",
      "  -V, --version                Print version",
      ""]

def usageText (e : UsageError) : String :=
  "error: " ++ e.message ++
    "\n\nUsage: result-query [OPTIONS]\n\nFor more information, try '--help'.\n"

/-- Settings that options put in place of configured ones. The version of the server stays. -/
def overridden (o : Options) (c : Config) : Config :=
  { c with
    schemaPath := o.schema.or c.schemaPath
    dialect := { c.dialect with backend := o.dialect.getD c.dialect.backend }
    logLevel := o.logLevel.getD c.logLevel }

def loadConfig (files : Files) (o : Options) : Except Failure Config := do
  let config ←
    match o.config with
    | none => pure {}
    | some path => (Config.load files path).mapError (Failure.loading path)
  return overridden o config

def start (files : Files) (o : Options) : Except Failure Session := do
  let config ← loadConfig files o
  let engine ← (Engine.ofConfig files config).mapError Failure.ofConfig
  return { engine := engine, config := config, groupBy := o.groupBy, offset := o.offset, limit := o.limit }

def unlines (lines : List String) : String := String.join (lines.map (· ++ "\n"))

def failed (f : Failure) : Finish := ⟨1, "", f.render⟩

def executeOnce (s : Session) (query : String) : Finish :=
  match s.engine.compile (s.request query) with
  | .ok statement => ⟨0, unlines statement.lines, ""⟩
  | .error error => failed (.ofQuery error)

def converse (files : Files) (s : Session) (input : String) : Finish :=
  let transcript := s.run files (inputLines input.toList)
  ⟨transcript.exitCode, unlines (s.greeting :: transcript.shown), unlines transcript.complaints⟩

def runOptions (files : Files) (o : Options) (input : String) : Finish :=
  match start files o with
  | .error failure => failed failure
  | .ok session =>
    match o.execute with
    | some query => executeOnce session query
    | none => converse files session input

def run (files : Files) (arguments : List String) (input : String) : Finish :=
  match parse arguments with
  | .showVersion => ⟨0, versionText, ""⟩
  | .showHelp => ⟨0, helpText, ""⟩
  | .refuse error => ⟨2, "", usageText error⟩
  | .run options => runOptions files options input

end FilterSql.CommandLine
