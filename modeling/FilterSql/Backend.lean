import FilterSql.Text.Blank

namespace FilterSql

inductive Backend
  | postgres
  | mysql
  | sqlite
  deriving DecidableEq, Repr

namespace Backend

def name : Backend → String
  | postgres => "postgres"
  | mysql => "mysql"
  | sqlite => "sqlite"

/-- What is looked up for a text: without blanks around it, in lower case. -/
def key (s : String) : String :=
  String.ofList ((Text.trim s.toList).map Char.toLower)

def ofKey? (key : String) : Option Backend :=
  if key = "postgres" ∨ key = "postgresql" ∨ key = "pg" then some postgres
  else if key = "mysql" then some mysql
  else if key = "sqlite" ∨ key = "sqlite3" then some sqlite
  else none

end Backend

end FilterSql
