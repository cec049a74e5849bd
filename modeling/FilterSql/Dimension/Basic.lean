namespace FilterSql

inductive Dimension
  | session
  | tag (key : String)
  deriving DecidableEq, Repr

def Dimension.render : Dimension → String
  | .session => "session"
  | .tag key => "tag:" ++ key

end FilterSql
