import FilterSql.Config.Error

namespace FilterSql

inductive Found
  | missing
  | unreadable (fault : ReadFault)
  | text (content : String)
  deriving DecidableEq, Repr

abbrev Files := String → Found

def Files.read (files : Files) (path : String) : Except ConfigError String :=
  match files path with
  | .missing => .error (.notFound path)
  | .unreadable fault => .error (.unreadable path fault)
  | .text content => .ok content

end FilterSql
