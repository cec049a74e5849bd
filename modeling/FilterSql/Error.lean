import FilterSql.Condition.Basic
import FilterSql.Dimension.Basic

namespace FilterSql

inductive LexFault
  | loneBang
  | unterminatedString
  | invalidEscape (c : Char)
  | outOfRange (numeral : String)
  | invalidNumber (numeral : String)
  | unexpectedCharacter (c : Char)
  deriving DecidableEq, Repr

def LexFault.message : LexFault → String
  | .loneBang => "expected `=` after `!`"
  | .unterminatedString => "unterminated string literal"
  | .invalidEscape c => s!"invalid escape sequence `\\{c}`"
  | .outOfRange numeral => s!"number literal {numeral} is out of range"
  | .invalidNumber numeral => s!"invalid number literal {numeral}"
  | .unexpectedCharacter c => s!"unexpected character `{c}`"

inductive Expectation
  | fieldName
  | comparison (op : Comparison)
  | stringLiteral
  | numberLiteral
  | and
  | or
  | not
  | lparen
  | rparen
  | endOfInput
  deriving DecidableEq, Repr

def Expectation.text : Expectation → String
  | .fieldName => "field name"
  | .comparison op => op.symbol
  | .stringLiteral => "string literal"
  | .numberLiteral => "number literal"
  | .and => "AND"
  | .or => "OR"
  | .not => "NOT"
  | .lparen => "("
  | .rparen => ")"
  | .endOfInput => "end of input"

def Dimension.repeatedMessage : Dimension → String
  | .session => "session is grouped more than once"
  | .tag key => s!"tag `{key}` is grouped more than once"

inductive GroupFault
  | repeated (dimension : Dimension)
  | emptyKey (position : Nat)
  | unjoined (key : String)
  deriving DecidableEq, Repr

def GroupFault.message : GroupFault → String
  | .repeated dimension => dimension.repeatedMessage
  | .emptyKey position => s!"tag dimension {position} has an empty key"
  | .unjoined key => s!"tag `{key}` has no join alias"

inductive CompileFault
  | groupingUnsupported (dialect : String)
  | unrelatedTable (table base : String)
  deriving DecidableEq, Repr

def CompileFault.message : CompileFault → String
  | .groupingUnsupported dialect => s!"{dialect} cannot run grouped queries"
  | .unrelatedTable table base => s!"no relation joins `{table}` to `{base}`"

inductive QueryError
  | lex (position : Nat) (fault : LexFault)
  | syntaxError (position : Nat) (expected : List Expectation) (found : TokenKind)
  | unexpectedEnd (position : Nat)
  | nestingTooDeep (position limit : Nat)
  | unknownField (field : String)
  | typeMismatch (field : String) (declared literal : ValueKind)
  | repeatedDimension (dimension : Dimension)
  | invalidDimension (input : String)
  | zeroLimit
  | unsupportedGrouping (fault : GroupFault)
  | compile (fault : CompileFault)
  deriving DecidableEq, Repr

namespace QueryError

def message : QueryError → String
  | lex position fault => s!"lex error at {position}: " ++ fault.message
  | syntaxError position expected found =>
    s!"syntax error at {position}: expected " ++
      String.intercalate " or " (expected.map Expectation.text) ++ ", found " ++ found.describe
  | unexpectedEnd position => s!"unexpected end of input at {position}"
  | nestingTooDeep position limit =>
    s!"expression nested deeper than {limit} levels at {position}"
  | unknownField field => s!"unknown field `{field}`"
  | typeMismatch field declared literal =>
    s!"field `{field}` expects a " ++ declared.name ++ " value, got a " ++ literal.name ++
      " literal"
  | repeatedDimension dimension => dimension.repeatedMessage
  | invalidDimension input =>
    s!"invalid group dimension `{input}`: expected `session` or `tag:<key>`"
  | zeroLimit => "invalid pagination: limit must be at least 1"
  | unsupportedGrouping fault => "unsupported group combination: " ++ fault.message
  | compile fault => "compile error: " ++ fault.message

def position? : QueryError → Option Nat
  | lex position _ => some position
  | syntaxError position _ _ => some position
  | unexpectedEnd position => some position
  | nestingTooDeep position _ => some position
  | _ => none

/-- Whether the error blames the program and not the query. -/
def isInternal : QueryError → Bool
  | unsupportedGrouping _ => true
  | compile _ => true
  | _ => false

end QueryError

end FilterSql
