import FilterSql.Json.Basic
import FilterSql.NameMap
import FilterSql.Text.Numeral

namespace FilterSql.Json

def toText? : Json → Option String
  | string text => text
  | _ => none

def toBool? : Json → Option Bool
  | bool b => some b
  | _ => none

def toUInt64? : Json → Option UInt64
  | number numeral =>
    ((Text.readBounded (UInt64.size - 1) numeral.toList).map UInt64.ofNat).toOption
  | _ => none

def toList? {α : Type} (decode : Json → Option α) : Json → Option (List α)
  | array items => items.mapM decode
  | _ => none

def toOption? {α : Type} (decode : Json → Option α) : Json → Option (Option α)
  | null => some none
  | j => (decode j).map some

def member? {α : Type} (decode : Json → Option α) : Option String × Json → Option (String × α)
  | (some name, value) => do return (name, ← decode value)
  | (none, _) => none

/-- A map; of members with one name the last counts. -/
def toNameMap? {α : Type} (decode : Json → Option α) : Json → Option (NameMap α)
  | object members => (members.mapM (member? decode)).map .ofList
  | _ => none

/-- One of several values by its name, which may also be the name of a member that is null. -/
def toChoice? {α : Type} (choices : List (String × α)) : Json → Option α
  | string (some name) => choices.lookup name
  | object [(some name, null)] => choices.lookup name
  | _ => none

def toRecord? (names : List String) : Json → Option (List (String × Json))
  | object members => do
    let members ← members.mapM (member? some)
    let known := members.filter fun (name, _) => names.contains name
    if (known.map Prod.fst).Nodup then some known else none
  | array items => if items.length ≤ names.length then some (names.zip items) else none
  | _ => none

def required {α : Type} (fields : List (String × Json)) (name : String)
    (decode : Json → Option α) : Option α :=
  (fields.lookup name).bind decode

def optional {α : Type} (fields : List (String × Json)) (name : String)
    (decode : Json → Option α) (default : α) : Option α :=
  match fields.lookup name with
  | none => some default
  | some j => decode j

end FilterSql.Json
