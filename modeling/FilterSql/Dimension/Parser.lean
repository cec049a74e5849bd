import FilterSql.Error

namespace FilterSql.Dimension

def keyOf? (cs : List Char) : Option (List Char) :=
  let head := cs.takeWhile (· != ':')
  match cs.dropWhile (· != ':') with
  | _ :: key =>
    let key := Text.trim key
    if (Text.isWord "tag" head || Text.isWord "label" head) && !key.isEmpty then some key else none
  | [] => none

def parse (s : String) : Except QueryError Dimension :=
  let cs := Text.trim s.toList
  if Text.isWord "session" cs then .ok session
  else
    match keyOf? cs with
    | some key => .ok (tag (String.ofList key))
    | none => .error (.invalidDimension s)

def parseList (dimensions : List String) : Except QueryError (List Dimension) :=
  dimensions.mapM parse

end FilterSql.Dimension
