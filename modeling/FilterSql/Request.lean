import FilterSql.Json.Decode
import FilterSql.Json.Reader

namespace FilterSql

structure Request where
  query : String := ""
  groupBy : List String := []
  offset : UInt64 := 0
  limit : UInt64 := 50
  deriving DecidableEq, Repr

namespace Request

def ofJson? (j : Json) : Option Request := do
  let fields ← j.toRecord? ["query", "group_by", "offset", "limit"]
  let default : Request := {}
  return {
    query := ← Json.optional fields "query" Json.toText? default.query
    groupBy := ← Json.optional fields "group_by" (Json.toList? Json.toText?) default.groupBy
    offset := ← Json.optional fields "offset" Json.toUInt64? default.offset
    limit := ← Json.optional fields "limit" Json.toUInt64? default.limit }

def parse? (text : String) : Option Request := (Json.parse? text).bind ofJson?

end Request

end FilterSql
