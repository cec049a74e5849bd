import FilterSql.Proofs.Sql.Syntax
import Mathlib

/-!
What statements mean on a database, for any values, any reading of the six comparisons and any total
order of the values with null. Comparisons with null are neither true nor false, a join keeps the
rows that it finds no partner for, groups take nulls as equal, a common table is known behind its
definition and not in it, and rows come in any order that the keys of the page allow.
-/

namespace FilterSql

namespace Sql

/-- How a server takes literals, compares values and sorts them. -/
structure Server (V : Type) where
  literal : Value → V
  holds : Comparison → V → V → Bool
  le : Option V → Option V → Bool
  le_total : ∀ a b, le a b = true ∨ le b a = true
  le_trans : ∀ a b c, le a b = true → le b c = true → le a c = true
  le_antisymm : ∀ a b, le a b = true → le b a = true → a = b

abbrev Row (V : Type) := String → Option V

def nullRow {V : Type} : Row V := fun _ => none

abbrev Database (V : Type) := String → List (Row V)

/-- The row that every name in FROM stands for. -/
abbrev Scope (V : Type) := String → Row V

inductive Cell (V : Type)
  | value (v : Option V)
  | number (n : Nat)
  deriving DecidableEq, Repr

abbrev Record (V : Type) := List (String × Cell V)

def Record.cell {V : Type} (r : Record V) (name : String) : Cell V :=
  (List.lookup name r).getD (.value none)

theorem Record.map_cell_zip {V : Type} {names : List String} {cells : List (Cell V)}
    (hn : names.Nodup) (hl : names.length = cells.length) (rest : Record V) :
    names.map (Record.cell (names.zip cells ++ rest)) = cells := by
  induction names generalizing cells with
  | nil => exact (List.length_eq_zero_iff.1 hl.symm).symm
  | cons name names ih =>
    cases cells with
    | nil => cases hl
    | cons cell cells =>
      obtain ⟨hname, hn⟩ := List.nodup_cons.1 hn
      have hfirst : Record.cell ((name, cell) :: (names.zip cells ++ rest)) name = cell := by
        simp [Record.cell, List.lookup]
      have hrest : names.map (Record.cell ((name, cell) :: (names.zip cells ++ rest))) =
          names.map (Record.cell (names.zip cells ++ rest)) := by
        refine List.map_congr_left fun other hother => ?_
        have hne : (other == name) = false := by
          simpa using fun heq : other = name => hname (heq ▸ hother)
        simp [Record.cell, List.lookup, hne]
      simp only [List.zip_cons_cons, List.cons_append, List.map_cons, hfirst, hrest,
        ih hn (Nat.succ.inj hl)]

end Sql

namespace Truth

def and : Option Bool → Option Bool → Option Bool
  | some false, _ => some false
  | _, some false => some false
  | some true, some true => some true
  | _, _ => none

def or : Option Bool → Option Bool → Option Bool
  | some true, _ => some true
  | _, some true => some true
  | some false, some false => some false
  | _, _ => none

theorem and_eq_true (a b : Option Bool) :
    (and a b == some true) = (a == some true && b == some true) := by
  rcases a with _ | _ | _ <;> rcases b with _ | _ | _ <;> rfl

end Truth

def Condition.truth {α : Type} (test : α → Option Bool) : Condition α → Option Bool
  | leaf a => test a
  | and l r => Truth.and (l.truth test) (r.truth test)
  | or l r => Truth.or (l.truth test) (r.truth test)
  | not t => (t.truth test).map Bool.not

theorem Condition.truth_congr {α : Type} {f g : α → Option Bool} {t : Condition α}
    (h : ∀ a ∈ t.leaves, f a = g a) : t.truth f = t.truth g := by
  induction t with
  | leaf a => exact h a (by simp [leaves])
  | and l r ihl ihr | or l r ihl ihr =>
    simp only [leaves, List.mem_append] at h
    simp only [truth, ihl fun a ha => h a (.inl ha), ihr fun a ha => h a (.inr ha)]
  | not t ih => simp only [truth, ih h]

theorem Condition.truth_map {α β : Type} (f : β → Option Bool) (g : α → β) (t : Condition α) :
    (t.map g).truth f = t.truth (f ∘ g) := by
  induction t with
  | leaf a => rfl
  | and l r ihl ihr | or l r ihl ihr => simp only [map, truth, ihl, ihr]
  | not t ih => simp only [map, truth, ih]

namespace Sql

variable {V : Type}

namespace Server

variable (S : Server V)

def compare (op : Comparison) (a b : Option V) : Option Bool := do
  return S.holds op (← a) (← b)

def equal (a b : Option V) : Bool := S.compare .eq a b == some true

theorem equal_some (a b : V) : S.equal (some a) (some b) = S.holds .eq a b := by
  show (some (S.holds .eq a b) == some true) = S.holds .eq a b
  cases S.holds .eq a b <;> rfl

def TellsTexts : Prop :=
  ∀ a b, S.holds .eq (S.literal (.string a)) (S.literal (.string b)) = decide (a = b)

end Server

section Meaning

variable (S : Server V) (db : Database V)

def Term.value (s : Scope V) : Term → Option V
  | .column c => s c.table c.name
  | .bound value => some (S.literal value)
  | .constant text => some (S.literal (.string text))

def Comparing.truth (s : Scope V) (c : Comparing) : Option Bool :=
  S.compare c.op (c.left.value S s) (c.right.value S s)

def holds (s : Scope V) (f : Formula) : Bool := f.truth (Comparing.truth S s) == some true

/-- The rows of the joined table that the condition holds for, or else nulls. -/
def LeftJoin.extend (j : LeftJoin) (s : Scope V) : List (Scope V) :=
  match (db j.table).filter fun row => holds S (Function.update s j.name row) j.on with
  | [] => [Function.update s j.name nullRow]
  | rows => rows.map (Function.update s j.name)

def Tables.scopes (t : Tables) : List (Scope V) :=
  let start := (db t.base).map (Function.update (fun _ => nullRow) t.base)
  let joined := t.joins.foldl (fun scopes j => scopes.flatMap (j.extend S db)) start
  joined.filter fun s => t.filter.all (holds S s)

def caseValue (branches : List (Comparing × Nat)) (otherwise : Nat) (s : Scope V) : Nat :=
  ((branches.find? fun branch => branch.1.truth S s == some true).map Prod.snd).getD otherwise

/-- What a projection gives for a group. All rows of the group agree on a column that it is grouped
by. -/
def Projection.cell (group : List (Scope V)) : Projection → Cell V
  | .column c => .value (group.head?.bind fun s => s c.table c.name)
  | .maxCase branches otherwise =>
    match (group.map (caseValue S branches otherwise)).max? with
    | some n => .number n
    | none => .value none
  | .count c => .number (group.countP fun s => (s c.table c.name).isSome)

def Gathering.key (g : Gathering) (s : Scope V) : List (Option V) :=
  g.groupBy.map fun c => s c.table c.name

variable [DecidableEq V]

def Gathering.records (g : Gathering) : List (Record V) :=
  let scopes := g.tables.scopes S db
  (scopes.map g.key).dedup.map fun key =>
    let group := scopes.filter (g.key · = key)
    g.outputs.map fun (projection, name) => (name, projection.cell S group)

def PagedQuery.records (q : PagedQuery) : List (Record V) :=
  let records := q.body.records S db
  records.map fun record => record ++ [(q.total, .number records.length)]

end Meaning

def Cell.le (S : Server V) : Cell V → Cell V → Prop
  | .value a, .value b => S.le a b = true
  | .number m, .number n => m ≤ n
  | .value _, .number _ => True
  | .number _, .value _ => False

def lexLe {α : Type} (le : α → α → Prop) : List α → List α → Prop
  | [], _ => True
  | _ :: _, [] => False
  | a :: as, b :: bs => le a b ∧ (le b a → lexLe le as bs)

section Lexicographic

variable {α β : Type} {le : α → α → Prop}

instance lexLe.decidable [DecidableRel le] : (as bs : List α) → Decidable (lexLe le as bs)
  | [], _ => isTrue trivial
  | _ :: _, [] => isFalse id
  | a :: as, b :: bs =>
    have := lexLe.decidable as bs
    inferInstanceAs (Decidable (le a b ∧ (le b a → lexLe le as bs)))

theorem lexLe_total (h : ∀ a b, le a b ∨ le b a) (as bs : List α) :
    lexLe le as bs ∨ lexLe le bs as := by
  induction as generalizing bs with
  | nil => exact .inl trivial
  | cons a as ih =>
    cases bs with
    | nil => exact .inr trivial
    | cons b bs =>
      simp only [lexLe]
      have hab := h a b
      have hrest := ih bs
      tauto

theorem lexLe_trans (h : ∀ a b c, le a b → le b c → le a c) {as bs cs : List α}
    (h₁ : lexLe le as bs) (h₂ : lexLe le bs cs) : lexLe le as cs := by
  induction as generalizing bs cs with
  | nil => trivial
  | cons a as ih =>
    cases bs with
    | nil => exact h₁.elim
    | cons b bs =>
      cases cs with
      | nil => exact h₂.elim
      | cons c cs =>
        refine ⟨h a b c h₁.1 h₂.1, fun hca => ih (h₁.2 ?_) (h₂.2 ?_)⟩
        · exact h b c a h₂.1 hca
        · exact h c a b hca h₁.1

theorem lexLe_antisymm (h : ∀ a b, le a b → le b a → a = b) {as bs : List α}
    (h₁ : lexLe le as bs) (h₂ : lexLe le bs as) : as = bs := by
  induction as generalizing bs with
  | nil =>
    cases bs with
    | nil => rfl
    | cons b bs => exact h₂.elim
  | cons a as ih =>
    cases bs with
    | nil => exact h₁.elim
    | cons b bs => rw [h a b h₁.1 h₂.1, ih (h₁.2 h₂.1) (h₂.2 h₁.1)]

theorem lexLe_map {f : β → α} (as bs : List β) :
    lexLe le (as.map f) (bs.map f) ↔ lexLe (fun a b => le (f a) (f b)) as bs := by
  induction as generalizing bs with
  | nil => exact Iff.rfl
  | cons a as ih =>
    cases bs with
    | nil => exact Iff.rfl
    | cons b bs => simp only [List.map_cons, lexLe, ih]

end Lexicographic

def PagedQuery.Precedes (S : Server V) (q : PagedQuery) (first second : Record V) : Prop :=
  lexLe (Cell.le S) (q.order.map first.cell) (q.order.map second.cell)

def Term.columns : Term → List Column
  | .column c => [c]
  | _ => []

def formulaColumns (f : Formula) : List Column :=
  f.leaves.flatMap fun c => c.left.columns ++ c.right.columns

def Projection.columns : Projection → List Column
  | .column c => [c]
  | .maxCase branches _ => branches.flatMap fun branch =>
      branch.1.left.columns ++ branch.1.right.columns
  | .count c => [c]

def Tables.names (t : Tables) : List String := t.base :: t.joins.map LeftJoin.name

/-- Every name stands for one table, and a condition uses names that stand before it. -/
structure Tables.WellScoped (t : Tables) : Prop where
  names : t.names.Nodup
  joins : ∀ before j after, t.joins = before ++ j :: after → ∀ c ∈ formulaColumns j.on,
    c.table ∈ t.base :: (before ++ [j]).map LeftJoin.name
  filter : ∀ f ∈ t.filter, ∀ c ∈ formulaColumns f, c.table ∈ t.names

/-- What a server checks before it runs a query: names are known and stand for one thing each, and
outputs are aggregates or columns that the groups agree on. -/
structure PagedQuery.WellScoped (q : PagedQuery) : Prop where
  tables : q.body.tables.WellScoped
  grouped : q.body.groupBy ≠ []
  groupBy : ∀ c ∈ q.body.groupBy, c.table ∈ q.body.tables.names
  outputs : ∀ output ∈ q.body.outputs, ∀ c ∈ output.1.columns, c.table ∈ q.body.tables.names
  plain : ∀ c name, (.column c, name) ∈ q.body.outputs → c ∈ q.body.groupBy
  columns : (q.body.outputs.map Prod.snd ++ [q.total]).Nodup
  source : q.source = q.name
  order : ∀ name ∈ q.order, name ∈ q.body.outputs.map Prod.snd

/-- The query can be run, and these are rows that it may return: a page of all its rows in an order
that its keys allow. -/
structure PagedQuery.Returns [DecidableEq V] (S : Server V) (db : Database V) (q : PagedQuery)
    (records : List (Record V)) : Prop where
  wellScoped : q.WellScoped
  page : ∃ sorted : List (Record V), sorted.Perm (q.records S db) ∧ sorted.Pairwise (q.Precedes S) ∧
    records = (sorted.drop q.offset.toNat).take q.limit.toNat

end Sql

end FilterSql
