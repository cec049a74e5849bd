import FilterSql.Query.Basic
import FilterSql.Repeats
import FilterSql.Schema.Basic

namespace FilterSql

def FieldTest.resolve (schema : Schema) (test : FieldTest) : Except QueryError ColumnTest :=
  match schema.field? test.field with
  | none => .error (.unknownField test.field)
  | some field =>
    if field.kind = test.value.kind then
      .ok {
        field := test.field
        table := schema.tableOf field
        column := field.column
        kind := field.kind
        op := test.op
        value := test.value }
    else .error (.typeMismatch test.field field.kind test.value.kind)

def Filter.resolve (schema : Schema) (filter : Filter) : Except QueryError ColumnCondition :=
  filter.traverse (FieldTest.resolve schema)

namespace Query

def resolveFilter (schema : Schema) : Option Filter → Except QueryError (Option ColumnCondition)
  | none => .ok none
  | some filter => (Filter.resolve schema filter).map some

/-- The query on columns, or the first fault: of the tests from left to right, then of the
dimensions. -/
def validate (schema : Schema) (q : Query) : Except QueryError ResolvedQuery := do
  let filter ← resolveFilter schema q.filter
  match firstRepeated [] q.groupBy with
  | some dimension => throw (.repeatedDimension dimension)
  | none => return { filter := filter, groupBy := q.groupBy, page := q.page }

end Query

end FilterSql
