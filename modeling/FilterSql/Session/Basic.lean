import FilterSql.Binary64.Layout
import FilterSql.Config.Json
import FilterSql.Engine
import FilterSql.Text.Quoted

namespace FilterSql

def Sql.Value.render : Sql.Value → String
  | .string s => "String(Some(" ++ Text.quoted s ++ "))"
  | .int n => "BigInt(Some(" ++ toString n.toInt ++ "))"
  | .float x => "Double(Some(" ++ x.marked ++ "))"
  | .unsigned n => "BigUnsigned(Some(" ++ toString n.toNat ++ "))"

def Statement.lines (s : Statement) : List String :=
  s.sql :: (s.params.zipIdx 1).map (fun (value, i) => s!"  [{i}] " ++ value.render) ++
    if s.groupColumns.isEmpty then []
    else ["  group columns: " ++ String.intercalate ", " s.groupColumns]

structure Session where
  engine : Engine
  config : Config
  groupBy : List String
  offset : UInt64
  limit : UInt64
  deriving DecidableEq

inductive CommandError
  | pageUsage
  | dialectUsage
  | invalidOffset (fault : Text.NumeralFault)
  | invalidLimit (fault : Text.NumeralFault)
  | config (error : ConfigError)
  | unknown (name : String)
  deriving DecidableEq, Repr

namespace CommandError

def message : CommandError → String
  | pageUsage => "usage: :page <offset> <limit>"
  | dialectUsage => "usage: :dialect postgres|mysql|sqlite"
  | invalidOffset _ => "invalid offset"
  | invalidLimit _ => "invalid limit"
  | config error => error.message
  | unknown name => s!"unknown command `{name}`, try :help"

def causes : CommandError → List String
  | invalidOffset fault => [fault.message]
  | invalidLimit fault => [fault.message]
  | config error => error.causes
  | _ => []

def render (e : CommandError) : String := String.intercalate ": " (e.message :: e.causes)

end CommandError

inductive Effect
  | lines (lines : List String)
  | quit
  deriving DecidableEq, Repr

/-- The effect of a command, or its error, with the session behind it. A failing command may have
changed the session. -/
structure Reply where
  session : Session
  effect : Except CommandError Effect

namespace Session

def helpLines : List String :=
  [":group <dims>         set group dimensions (session, tag:<key>)",
    ":page <offset> <limit>",
    ":dialect <backend>",
    ":reload               re-read the schema file",
    ":quit"]

def dimensions (arguments : List (List Char)) : List String :=
  ((arguments.flatMap (·.splitOnP (· == ','))).filter (!·.isEmpty)).map String.ofList

def group (s : Session) (arguments : List (List Char)) : Reply :=
  let groupBy := dimensions arguments
  { session := { s with groupBy := groupBy }
    effect := .ok (.lines ["grouping by [" ++ String.intercalate ", " groupBy ++ "]"]) }

/-- Sets the page. The offset is set before the limit is read. -/
def page (s : Session) : List (List Char) → Reply
  | [offset, limit] =>
    match Text.readUInt64 offset with
    | .error fault => ⟨s, .error (.invalidOffset fault)⟩
    | .ok offset =>
      let s := { s with offset := offset }
      match Text.readUInt64 limit with
      | .error fault => ⟨s, .error (.invalidLimit fault)⟩
      | .ok limit => ⟨{ s with limit := limit }, .ok (.lines [])⟩
  | _ => ⟨s, .error .pageUsage⟩

/-- Changes the backend, to a server of unknown version. The configuration is changed before the
engine is built from it. -/
def dialect (files : Files) (s : Session) : List (List Char) → Reply
  | [name] =>
    match Backend.parse (String.ofList name) with
    | .error error => ⟨s, .error (.config error)⟩
    | .ok backend =>
      let s := { s with config := { s.config with dialect := ⟨backend, none⟩ } }
      match Engine.ofConfig files s.config with
      | .error error => ⟨s, .error (.config error)⟩
      | .ok engine =>
        ⟨{ s with engine := engine }, .ok (.lines ["dialect: " ++ engine.dialect.name])⟩
  | _ => ⟨s, .error .dialectUsage⟩

def reload (files : Files) (s : Session) : Reply :=
  match s.config.loadSchema files with
  | .error error => ⟨s, .error (.config error)⟩
  | .ok schema =>
    let (result, engine) := (Engine.reload schema).run s.engine
    { session := { s with engine := engine }
      effect := (result.mapError .config).map fun _ => .lines ["schema reloaded"] }

def command (files : Files) (s : Session) (line : List Char) : Reply :=
  let name := String.ofList ((Text.words line).headD [])
  let arguments := (Text.words line).tail
  match name with
  | ":quit" => ⟨s, .ok .quit⟩
  | ":q" => ⟨s, .ok .quit⟩
  | ":group" => s.group arguments
  | ":page" => s.page arguments
  | ":dialect" => s.dialect files arguments
  | ":reload" => s.reload files
  | ":help" => ⟨s, .ok (.lines helpLines)⟩
  | name => ⟨s, .error (.unknown name)⟩

def request (s : Session) (query : String) : Request :=
  { query := query, groupBy := s.groupBy, offset := s.offset, limit := s.limit }

end Session

end FilterSql
