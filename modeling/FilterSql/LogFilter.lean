import FilterSql.Text.Alphanumeric
import FilterSql.Text.Numeral

namespace FilterSql

inductive LogLevel
  | off
  | error
  | warn
  | info
  | debug
  | trace
  deriving DecidableEq, Repr

namespace LogLevel

def name : LogLevel → String
  | off => "off"
  | error => "error"
  | warn => "warn"
  | info => "info"
  | debug => "debug"
  | trace => "trace"

def all : List LogLevel := [off, error, warn, info, debug, trace]

def parse? (cs : List Char) : Option LogLevel :=
  match Text.readUInt64 cs with
  | .ok place => all[place.toNat]?
  | .error _ => all.find? fun level => Text.isWord level.name cs

end LogLevel

def isLogTarget : List Char → Bool
  | [] => false
  | c :: rest =>
    (Text.isAlphanumeric c || c == '_' || c == ':' || c == '-') &&
      !rest.contains '[' && !rest.contains ','

/-- The filter that a text asks for: a level, a target with all its messages, or a target with a
level. The level is `info` if the text asks for none of these. -/
def logFilter (text : String) : String :=
  let cs := text.toList
  let target := cs.takeWhile (· != '=')
  if cs.isEmpty then ""
  else if !isLogTarget target then LogLevel.info.name
  else
    match cs.dropWhile (· != '=') with
    | [] =>
      match LogLevel.parse? cs with
      | some level => level.name
      | none => text ++ "=" ++ LogLevel.trace.name
    | _ :: [] => text ++ LogLevel.trace.name
    | _ :: level =>
      match LogLevel.parse? level with
      | some level => String.ofList target ++ "=" ++ level.name
      | none => LogLevel.info.name

end FilterSql
