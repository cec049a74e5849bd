import FilterSql.Binary64.Layout
import FilterSql.Condition.Basic
import FilterSql.Text.Quoted

namespace FilterSql

def Literal.render : Literal → String
  | .string s => Text.quoted s
  | .int n => toString n.toInt
  | .float x => x.plain

def FieldTest.render (t : FieldTest) : String :=
  t.field ++ " " ++ t.op.symbol ++ " " ++ t.value.render

def Filter.render : Filter → String
  | .leaf test => test.render
  | .and left right => "(" ++ render left ++ " AND " ++ render right ++ ")"
  | .or left right => "(" ++ render left ++ " OR " ++ render right ++ ")"
  | .not inner => "(NOT " ++ render inner ++ ")"

end FilterSql
