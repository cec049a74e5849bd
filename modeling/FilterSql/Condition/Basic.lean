import FilterSql.Binary64.Basic
import FilterSql.Token.Basic

namespace FilterSql

inductive ValueKind
  | string
  | number
  deriving DecidableEq, Repr

def ValueKind.name : ValueKind → String
  | .string => "string"
  | .number => "number"

inductive Literal
  | string (s : String)
  | int (n : Int64)
  | float (x : Binary64)
  deriving DecidableEq, Repr

def Literal.kind : Literal → ValueKind
  | .string _ => .string
  | .int _ => .number
  | .float _ => .number

inductive Condition (α : Type) : Type
  | leaf (test : α)
  | and (left right : Condition α)
  | or (left right : Condition α)
  | not (inner : Condition α)
  deriving DecidableEq, Repr

namespace Condition

def leaves {α : Type} : Condition α → List α
  | leaf test => [test]
  | and left right => left.leaves ++ right.leaves
  | or left right => left.leaves ++ right.leaves
  | not inner => inner.leaves

def height {α : Type} : Condition α → Nat
  | leaf _ => 1
  | and left right => max left.height right.height + 1
  | or left right => max left.height right.height + 1
  | not inner => inner.height + 1

def map {α β : Type} (f : α → β) : Condition α → Condition β
  | leaf test => leaf (f test)
  | and left right => and (left.map f) (right.map f)
  | or left right => or (left.map f) (right.map f)
  | not inner => not (inner.map f)

def traverse {α β ε : Type} (f : α → Except ε β) : Condition α → Except ε (Condition β)
  | leaf test => do return leaf (← f test)
  | and left right => do
    let left ← left.traverse f
    let right ← right.traverse f
    return and left right
  | or left right => do
    let left ← left.traverse f
    let right ← right.traverse f
    return or left right
  | not inner => do return not (← inner.traverse f)

@[simp] theorem map_id {α : Type} (t : Condition α) : t.map id = t := by
  induction t with
  | leaf => rfl
  | and _ _ ihl ihr => rw [map, ihl, ihr]
  | or _ _ ihl ihr => rw [map, ihl, ihr]
  | not _ ih => rw [map, ih]

@[simp] theorem leaves_map {α β : Type} (f : α → β) (t : Condition α) :
    (t.map f).leaves = t.leaves.map f := by
  induction t with
  | leaf => rfl
  | and _ _ ihl ihr => simp [map, leaves, ihl, ihr]
  | or _ _ ihl ihr => simp [map, leaves, ihl, ihr]
  | not _ ih => simp [map, leaves, ih]

@[simp] theorem height_map {α β : Type} (f : α → β) (t : Condition α) :
    (t.map f).height = t.height := by
  induction t with
  | leaf => rfl
  | and _ _ ihl ihr => simp [map, height, ihl, ihr]
  | or _ _ ihl ihr => simp [map, height, ihl, ihr]
  | not _ ih => simp [map, height, ih]

end Condition

structure FieldTest where
  field : String
  op : Comparison
  value : Literal
  span : Span
  deriving DecidableEq, Repr

abbrev Filter := Condition FieldTest

end FilterSql
