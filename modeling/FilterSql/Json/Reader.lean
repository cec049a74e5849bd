import FilterSql.Json.Basic
import FilterSql.Json.Token

namespace FilterSql.Json

namespace Reader

inductive Frame
  | array (items : List Json)
  | object (members : List (Option String × Json)) (name : Option String)

inductive Phase
  | value
  | firstItem
  | firstName
  | name (members : List (Option String × Json))
  | colon (members : List (Option String × Json)) (name : Option String)
  | complete (value : Json)

structure State where
  stack : List Frame
  phase : Phase

def beginValue (stack : List Frame) : Token → Option State
  | .null => some ⟨stack, .complete .null⟩
  | .bool b => some ⟨stack, .complete (.bool b)⟩
  | .number numeral => some ⟨stack, .complete (.number numeral)⟩
  | .string text => some ⟨stack, .complete (.string text)⟩
  | .lbracket => some ⟨.array [] :: stack, .firstItem⟩
  | .lbrace => some ⟨stack, .firstName⟩
  | _ => none

def step (s : State) (token : Token) : Option State :=
  match s.phase, s.stack, token with
  | .value, stack, token => beginValue stack token
  | .firstItem, .array [] :: stack, .rbracket => some ⟨stack, .complete (.array [])⟩
  | .firstItem, stack, token => beginValue stack token
  | .firstName, stack, .rbrace => some ⟨stack, .complete (.object [])⟩
  | .firstName, stack, .string name => some ⟨stack, .colon [] name⟩
  | .name members, stack, .string name => some ⟨stack, .colon members name⟩
  | .colon members name, stack, .colon => some ⟨.object members name :: stack, .value⟩
  | .complete v, .array items :: stack, .comma => some ⟨.array (v :: items) :: stack, .value⟩
  | .complete v, .array items :: stack, .rbracket =>
    some ⟨stack, .complete (.array (v :: items).reverse)⟩
  | .complete v, .object members name :: stack, .comma => some ⟨stack, .name ((name, v) :: members)⟩
  | .complete v, .object members name :: stack, .rbrace =>
    some ⟨stack, .complete (.object ((name, v) :: members).reverse)⟩
  | _, _, _ => none

def run : State → List Token → Option Json
  | ⟨[], .complete v⟩, [] => some v
  | _, [] => none
  | s, token :: rest => (step s token).bind (run · rest)

end Reader

def parse? (s : String) : Option Json := do
  Reader.run ⟨[], .value⟩ (← tokens s.toList)

end FilterSql.Json
