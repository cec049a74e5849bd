import FilterSql.Token.Lexer

namespace FilterSql.Lexer

structure Cursor where
  position : Nat
  rest : List Char
  failed : Bool
  deriving DecidableEq, Repr

namespace Cursor

def ofText (text : String) : Cursor := ⟨0, text.toList, false⟩

/-- The next token, or the fault that stands in its place, and the cursor behind it. There is none
at the end of the text and after a fault. -/
def next (cursor : Cursor) : Option (Except QueryError Token) × Cursor :=
  if cursor.failed then (none, cursor)
  else
    let start := cursor.position + Text.width (cursor.rest.takeWhile Text.isBlank)
    match cursor.rest.dropWhile Text.isBlank with
    | [] => (none, ⟨start, [], false⟩)
    | c :: rest =>
      match cut c rest with
      | .error fault =>
        (some (.error (.lex (start + fault.offset) fault.cause)), ⟨start, c :: rest, true⟩)
      | .ok k =>
        let stop := start + Text.width k.taken
        (some (.ok ⟨k.kind, ⟨start, stop⟩⟩), ⟨stop, k.rest, false⟩)

def answers (cursor : Cursor) : Nat → List (Option (Except QueryError Token))
  | 0 => []
  | n + 1 => cursor.next.1 :: cursor.next.2.answers n

end Cursor

end FilterSql.Lexer
