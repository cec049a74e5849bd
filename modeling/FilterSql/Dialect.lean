import FilterSql.Config.Error

namespace FilterSql

def quoteWith (mark : Char) (s : String) : String :=
  String.ofList (mark :: s.toList.flatMap (fun c => if c = mark then [mark, mark] else [c]) ++ [mark])

namespace Backend

def quoteMark : Backend → Char
  | postgres => '"'
  | mysql => '\x60'
  | sqlite => '"'

def quoteIdentifier (b : Backend) (name : String) : String := quoteWith b.quoteMark name

def placeholder : Backend → Nat → String
  | postgres, index => "$" ++ toString index
  | mysql, _ => "?"
  | sqlite, _ => "?"

def escapeCharacter (c : Char) : List Char :=
  if c = '\\' then ['\\', '\\']
  else if c = '"' then ['\\', '"']
  else if c = '\x27' then ['\\', '\x27']
  else if c = '\x00' then ['\\', '0']
  else if c = '\x08' then ['\\', 'b']
  else if c = '\t' then ['\\', 't']
  else if c = '\x1a' then ['\\', 'z']
  else if c = '\n' then ['\\', 'n']
  else if c = '\r' then ['\\', 'r']
  else [c]

def escapedConstant (s : String) : String :=
  String.ofList ('\x27' :: s.toList.flatMap escapeCharacter ++ ['\x27'])

/-- A string constant. A backslash has no meaning in one of SQLite, and in one of Postgres only
behind the letter E. -/
def stringConstant : Backend → String → String
  | postgres, s =>
    if '\\' ∈ s.toList.flatMap escapeCharacter then "E" ++ escapedConstant s else escapedConstant s
  | mysql, s => escapedConstant s
  | sqlite, s => quoteWith '\x27' s

def since : Backend → Feature → Version
  | postgres, _ => ⟨8, 4, 0⟩
  | mysql, _ => ⟨8, 0, 0⟩
  | sqlite, .commonTableExpressions => ⟨3, 8, 3⟩
  | sqlite, .windowFunctions => ⟨3, 25, 0⟩

end Backend

structure Dialect where
  backend : Backend
  version : Option Version
  deriving DecidableEq, Repr

namespace Dialect

def name (d : Dialect) : String := d.backend.name

/-- A server of unknown version has every feature. -/
def supports (d : Dialect) (feature : Feature) : Bool :=
  match d.version with
  | none => true
  | some version => version.atLeast (d.backend.since feature)

def missing? (d : Dialect) : Option Feature :=
  if !d.supports .commonTableExpressions then some .commonTableExpressions
  else if !d.supports .windowFunctions then some .windowFunctions
  else none

def connect (backend : Backend) (version : Option Version) : Except ConfigError Dialect :=
  let dialect : Dialect := ⟨backend, version⟩
  match dialect.missing? with
  | some feature => .error (.unsupported backend version feature)
  | none => .ok dialect

end Dialect

end FilterSql
