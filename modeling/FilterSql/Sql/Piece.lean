import FilterSql.Condition.Basic
import FilterSql.Dialect
import FilterSql.Text.Replace

/-!
SQL text as a list of pieces, each of which a backend spells in its own way. A bound value is a piece:
the text has a placeholder for it, and the parameters are the bound values in their order.
-/

namespace FilterSql.Sql

inductive Value
  | string (s : String)
  | int (n : Int64)
  | float (x : Binary64)
  | unsigned (n : UInt64)
  deriving DecidableEq, Repr

def Value.ofLiteral : Literal → Value
  | .string s => .string s
  | .int n => .int n
  | .float x => .float x

inductive Piece
  | word (text : String)
  | identifier (name : String)
  | constant (s : String)
  | number (n : Nat)
  | bound (value : Value)
  deriving DecidableEq, Repr

/-- How the writer of a backend's statements spells names and values. -/
structure Spelling where
  mark : Char
  sign : String
  numbered : Bool

def Spelling.ofBackend : Backend → Spelling
  | .postgres => ⟨'"', "$", true⟩
  | .mysql => ⟨'\x60', "?", false⟩
  | .sqlite => ⟨'"', "?", false⟩

namespace Spelling

def identifier (s : Spelling) (name : String) : String :=
  String.ofList (s.mark :: (Text.replaceEach s.mark [s.mark, s.mark] name.toList ++ [s.mark]))

def placeholder (s : Spelling) (index : Nat) : String :=
  if s.numbered then s.sign ++ toString index else s.sign

end Spelling

namespace Piece

def bound? : Piece → Option Value
  | bound value => some value
  | _ => none

/-- The spelling of a piece; `index` is the number of the next placeholder. -/
def spell (b : Backend) (index : Nat) : Piece → String
  | word text => text
  | identifier name => (Spelling.ofBackend b).identifier name
  | constant s => b.stringConstant s
  | number n => toString n
  | bound _ => (Spelling.ofBackend b).placeholder index

def next (index : Nat) : Piece → Nat
  | bound _ => index + 1
  | _ => index

end Piece

def params (pieces : List Piece) : List Value := pieces.filterMap Piece.bound?

def spellFrom (b : Backend) (index : Nat) : List Piece → String
  | [] => ""
  | piece :: rest => piece.spell b index ++ spellFrom b (piece.next index) rest

/-- The text of a statement, placeholders counted from one. -/
def spell (b : Backend) (pieces : List Piece) : String := spellFrom b 1 pieces

@[simp] theorem params_append (ps qs : List Piece) : params (ps ++ qs) = params ps ++ params qs := by
  simp [params]

end FilterSql.Sql
