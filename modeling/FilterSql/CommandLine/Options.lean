import FilterSql.Config.Error
import FilterSql.Text.Numeral

namespace FilterSql.CommandLine

structure Options where
  config : Option String := none
  schema : Option String := none
  dialect : Option Backend := none
  logLevel : Option String := none
  prettyLogs : Bool := false
  execute : Option String := none
  groupBy : List String := []
  offset : UInt64 := 0
  limit : UInt64 := 50
  deriving DecidableEq, Repr

inductive Name
  | config
  | schema
  | dialect
  | logLevel
  | prettyLogs
  | execute
  | groupBy
  | offset
  | limit
  | help
  | version
  deriving DecidableEq, Repr

namespace Name

def long : Name → String
  | config => "config"
  | schema => "schema"
  | dialect => "dialect"
  | logLevel => "log-level"
  | prettyLogs => "pretty-logs"
  | execute => "execute"
  | groupBy => "group-by"
  | offset => "offset"
  | limit => "limit"
  | help => "help"
  | version => "version"

def short? : Name → Option Char
  | config => some 'c'
  | schema => some 's'
  | dialect => some 'd'
  | execute => some 'e'
  | groupBy => some 'g'
  | help => some 'h'
  | version => some 'V'
  | _ => none

def all : List Name :=
  [config, schema, dialect, logLevel, prettyLogs, execute, groupBy, offset, limit, help, version]

def ofLong? (text : String) : Option Name := all.find? (·.long == text)

def ofShort? (c : Char) : Option Name := all.find? (·.short? == some c)

def takesValue : Name → Bool
  | prettyLogs => false
  | help => false
  | version => false
  | _ => true

end Name

inductive UsageError
  | unexpectedArgument (argument : String)
  | missingValue (name : Name)
  | unexpectedValue (name : Name) (value : String)
  | invalidValue (name : Name) (value : String)
  | repeated (name : Name)
  deriving DecidableEq, Repr

def UsageError.message : UsageError → String
  | .unexpectedArgument argument => s!"unexpected argument `{argument}`"
  | .missingValue name => "a value is required for `--" ++ name.long ++ "`"
  | .unexpectedValue name value => s!"unexpected value `{value}` for `--" ++ name.long ++ "`"
  | .invalidValue name value => s!"invalid value `{value}` for `--" ++ name.long ++ "`"
  | .repeated name => "`--" ++ name.long ++ "` cannot be used multiple times"

inductive Answer
  | run (options : Options)
  | showVersion
  | showHelp
  | refuse (error : UsageError)
  deriving DecidableEq, Repr

structure Progress where
  options : Options := {}
  used : List Name := []

def commaPieces (s : String) : List String :=
  (s.toList.splitOnP (· == ',')).map String.ofList

def path? (value : String) : Option String := if value.isEmpty then none else some value

def setValue (o : Options) (name : Name) (value : String) : Option Options :=
  match name with
  | .config => (path? value).map fun path => { o with config := some path }
  | .schema => (path? value).map fun path => { o with schema := some path }
  | .dialect => (Backend.parse value).toOption.map fun backend => { o with dialect := some backend }
  | .logLevel => some { o with logLevel := some value }
  | .execute => some { o with execute := some value }
  | .groupBy => some { o with groupBy := o.groupBy ++ commaPieces value }
  | .offset => (Text.readUInt64 value.toList).toOption.map fun offset => { o with offset := offset }
  | .limit => (Text.readUInt64 value.toList).toOption.map fun limit => { o with limit := limit }
  | _ => some o

def takeValue (p : Progress) (name : Name) (value : String) : Except Answer Progress :=
  if name ∈ p.used ∧ name ≠ .groupBy then .error (.refuse (.repeated name))
  else
    match setValue p.options name value with
    | some options => .ok { options := options, used := name :: p.used }
    | none => .error (.refuse (.invalidValue name value))

def takeFlag (p : Progress) (name : Name) : Except Answer Progress :=
  match name with
  | .help => .error .showHelp
  | .version => .error .showVersion
  | name =>
    if name ∈ p.used then .error (.refuse (.repeated name))
    else .ok { options := { p.options with prettyLogs := true }, used := name :: p.used }

/-- Whether an argument begins an option, and so is not the value of the one before it. A dash alone
does not. -/
def isOption (argument : String) : Bool :=
  match argument.toList with
  | '-' :: _ :: _ => true
  | _ => false

inductive Waiting
  | next (p : Progress)
  | value (p : Progress) (name : Name)

def takeLong (p : Progress) (body : List Char) : Except Answer Waiting :=
  let name := String.ofList (body.takeWhile (· != '='))
  match Name.ofLong? name, body.dropWhile (· != '=') with
  | none, _ => .error (.refuse (.unexpectedArgument ("--" ++ String.ofList body)))
  | some name, [] =>
    if name.takesValue then .ok (.value p name) else (takeFlag p name).map .next
  | some name, _ :: value =>
    let value := String.ofList value
    if name.takesValue then (takeValue p name value).map .next
    else .error (.refuse (.unexpectedValue name value))

/-- The letters behind one dash. An option with a value takes the rest of them, without an equals sign
in front. -/
def takeShort (p : Progress) : List Char → Except Answer Waiting
  | [] => .ok (.next p)
  | c :: rest =>
    match Name.ofShort? c with
    | none => .error (.refuse (.unexpectedArgument ("-" ++ String.singleton c)))
    | some name =>
      if name.takesValue then
        match rest with
        | [] => .ok (.value p name)
        | '=' :: value => (takeValue p name (String.ofList value)).map .next
        | value => (takeValue p name (String.ofList value)).map .next
      else
        match takeFlag p name with
        | .ok p => takeShort p rest
        | .error answer => .error answer

def takeArgument (p : Progress) (argument : String) : Except Answer Waiting :=
  match argument.toList with
  | '-' :: '-' :: body => takeLong p body
  | '-' :: c :: rest => takeShort p (c :: rest)
  | _ => .error (.refuse (.unexpectedArgument argument))

/-- Reads arguments one by one. Two dashes alone end the options, and nothing may follow them. -/
def read : Waiting → List String → Answer
  | .next p, [] => .run p.options
  | .value _ name, [] => .refuse (.missingValue name)
  | .value p name, argument :: rest =>
    if isOption argument then .refuse (.missingValue name)
    else
      match takeValue p name argument with
      | .ok p => read (.next p) rest
      | .error answer => answer
  | .next p, ["--"] => .run p.options
  | .next _, "--" :: argument :: _ => .refuse (.unexpectedArgument argument)
  | .next p, argument :: rest =>
    match takeArgument p argument with
    | .ok waiting => read waiting rest
    | .error answer => answer

def parse (arguments : List String) : Answer := read (.next {}) arguments

end FilterSql.CommandLine
