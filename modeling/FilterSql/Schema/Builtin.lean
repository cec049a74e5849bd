import FilterSql.Schema.Basic

namespace FilterSql

def Schema.builtin : Schema :=
  { baseTable := "test_result"
    primaryKey := Schema.defaultPrimaryKey
    sessionColumn := "launch_id"
    labels :=
      { table := "test_result_label"
        foreignKey := "test_result_id"
        keyColumn := "name"
        valueColumn := "value" }
    status :=
      { column := "status"
        severity := ["broken", "failed", "unknown", "skipped", "passed"] }
    defaultOrder := some { column := "created_at", descending := true }
    relations := .ofList [("launch", { localColumn := "launch_id", foreignColumn := "id" })]
    fields := .ofList [
      ("name", { column := "name", kind := .string, table := none }),
      ("full_name", { column := "full_name", kind := .string, table := none }),
      ("status", { column := "status", kind := .string, table := none }),
      ("duration", { column := "duration", kind := .number, table := none }),
      ("session", { column := "launch_id", kind := .number, table := none }),
      ("created", { column := "created_at", kind := .number, table := none }),
      ("launch_name", { column := "name", kind := .string, table := some "launch" })] }

end FilterSql
