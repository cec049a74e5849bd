import FilterSql.Backend
import FilterSql.Version

namespace FilterSql

inductive Feature
  | commonTableExpressions
  | windowFunctions
  deriving DecidableEq, Repr

def Feature.name : Feature → String
  | .commonTableExpressions => "common table expressions"
  | .windowFunctions => "window functions"

inductive Bound
  | maxLimit
  | maxDepth
  | maxTreeDepth
  deriving DecidableEq, Repr

def Bound.name : Bound → String
  | .maxLimit => "max_limit"
  | .maxDepth => "max_depth"
  | .maxTreeDepth => "max_tree_depth"

inductive ConfigFault
  | unknownBackend (key : String)
  | invalidVersion (text : String)
  | noFields
  | noSeverity
  | repeatedStatus (status : String)
  | unrelatedField (field table base : String)
  | zeroBound (bound : Bound)
  deriving DecidableEq, Repr

def ConfigFault.message : ConfigFault → String
  | .unknownBackend key => s!"unknown database backend `{key}`"
  | .invalidVersion text => s!"invalid server version `{text}`"
  | .noFields => "schema declares no fields"
  | .noSeverity => "status severity order is empty"
  | .repeatedStatus status => s!"status `{status}` appears twice in the severity order"
  | .unrelatedField field table base =>
    s!"field `{field}` lives in `{table}`, which has no relation to `{base}`"
  | .zeroBound bound => bound.name ++ " must be at least 1"

inductive ReadFault
  | isDirectory
  | permissionDenied
  | notUtf8
  deriving DecidableEq, Repr

def ReadFault.message : ReadFault → String
  | .isDirectory => "Is a directory (os error 21)"
  | .permissionDenied => "Permission denied (os error 13)"
  | .notUtf8 => "stream did not contain valid UTF-8"

inductive ConfigError
  | notFound (path : String)
  | unreadable (path : String) (fault : ReadFault)
  | json (origin : String)
  | invalid (fault : ConfigFault)
  | unsupported (backend : Backend) (version : Option Version) (missing : Feature)
  deriving DecidableEq, Repr

namespace ConfigError

def message : ConfigError → String
  | notFound path => s!"config file not found: {path}"
  | unreadable path fault => s!"cannot read {path}: " ++ fault.message
  | json origin => s!"cannot parse {origin}"
  | invalid fault => "invalid configuration: " ++ fault.message
  | unsupported backend version missing =>
    backend.name ++ " " ++ (version.map Version.render).getD "unknown" ++ " lacks " ++ missing.name

def causes : ConfigError → List String
  | unreadable _ fault => [fault.message]
  | _ => []

end ConfigError

def Version.parse (s : String) : Except ConfigError Version :=
  match Version.parse? s with
  | some version => .ok version
  | none => .error (.invalid (.invalidVersion s))

def Backend.parse (s : String) : Except ConfigError Backend :=
  match Backend.ofKey? (Backend.key s) with
  | some backend => .ok backend
  | none => .error (.invalid (.unknownBackend (Backend.key s)))

end FilterSql
