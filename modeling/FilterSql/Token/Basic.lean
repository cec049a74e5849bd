import FilterSql.Comparison

namespace FilterSql

structure Span where
  start : Nat
  stop : Nat
  deriving DecidableEq, Repr

inductive TokenKind
  | and
  | or
  | not
  | identifier (name : String)
  | string (content : String)
  | number (numeral : String)
  | lparen
  | rparen
  | comparison (op : Comparison)
  | eof
  deriving DecidableEq, Repr

def TokenKind.describe : TokenKind → String
  | .and => "AND"
  | .or => "OR"
  | .not => "NOT"
  | .identifier name => s!"identifier `{name}`"
  | .string content => s!"string \"{content}\""
  | .number numeral => s!"number {numeral}"
  | .lparen => "`(`"
  | .rparen => "`)`"
  | .comparison op => "`" ++ op.symbol ++ "`"
  | .eof => "end of input"

structure Token where
  kind : TokenKind
  span : Span
  deriving DecidableEq, Repr

end FilterSql
