import FilterSql.Proofs.Sql.Semantics
import FilterSql.Proofs.Statement

namespace FilterSql.Sql

variable {V : Type} (S : Server V) (db : Database V)

def Join.matches (j : Join) (record row : Row V) : Bool :=
  S.equal (row j.foreign.name) (record j.localKey.name) &&
    j.fixed?.all fun (column, value) => S.equal (row column.name) (some (S.literal value))

def Join.partner (j : Join) (record : Row V) : Row V :=
  ((db j.table).find? (j.matches S record)).getD nullRow

/-- The join names columns by its own table and by the base table, which may be the same. -/
structure Join.Qualified (base : String) (j : Join) : Prop where
  foreign : j.foreign.table = j.name
  localKey : j.localKey.table = base
  fixed : ∀ column value, j.fixed? = some (column, value) → column.table = j.name

structure Join.Attached (base : String) (j : Join) : Prop extends j.Qualified base where
  name_ne : j.name ≠ base

/-- The rows that stand for a record and its partners. -/
def Join.attach (joins : List Join) (record : Row V) (s : Scope V) : Scope V :=
  joins.foldl (fun s j => Function.update s j.name (j.partner S db record)) s

theorem filter_eq_toList_find? {α : Type} {p : α → Bool} {l : List α} (h : l.countP p ≤ 1) :
    l.filter p = (l.find? p).toList := by
  induction l with
  | nil => rfl
  | cons a l ih =>
    rw [List.countP_cons] at h
    by_cases hp : p a = true
    · rw [if_pos hp] at h
      have hl : l.filter p = [] := List.filter_eq_nil_iff.2 (List.countP_eq_zero.1 (by omega))
      rw [List.filter_cons_of_pos hp, List.find?_cons_of_pos hp, hl]
      rfl
    · rw [if_neg hp] at h
      rw [List.filter_cons_of_neg hp, List.find?_cons_of_neg hp, ih h]

theorem holds_on {base : String} {j : Join} (h : j.Attached base) (s : Scope V) (row : Row V) :
    holds S (Function.update s j.name row) j.on = j.matches S (s base) row := by
  have hforeign : Function.update s j.name row j.foreign.table = row := by
    rw [h.foreign, Function.update_self]
  have hlocal : Function.update s j.name row j.localKey.table = s base := by
    rw [h.localKey, Function.update_of_ne h.name_ne.symm]
  cases hfixed : j.fixed? with
  | none =>
    simp only [holds, Join.on, hfixed, Condition.truth, Comparing.truth, Term.value, hforeign,
      hlocal, Join.matches, Server.equal, Option.all_none, Bool.and_true]
  | some fixed =>
    obtain ⟨column, value⟩ := fixed
    have hcolumn : Function.update s j.name row column.table = row := by
      rw [h.fixed column value hfixed, Function.update_self]
    simp only [holds, Join.on, hfixed, Condition.truth, Comparing.truth, Term.value, hforeign,
      hlocal, hcolumn, Join.matches, Server.equal, Option.all_some, Truth.and_eq_true]

theorem extend_eq {base : String} {j : Join} (h : j.Attached base) {s : Scope V}
    (hone : (db j.table).countP (j.matches S (s base)) ≤ 1) :
    j.leftJoin.extend S db s = [Function.update s j.name (j.partner S db (s base))] := by
  have hrows : (db j.table).filter (fun row => holds S (Function.update s j.name row) j.on) =
      ((db j.table).find? (j.matches S (s base))).toList := by
    simp only [holds_on S h, filter_eq_toList_find? hone]
  have htable : j.leftJoin.table = j.table := rfl
  have hname : j.leftJoin.name = j.name := rfl
  have hon : j.leftJoin.on = j.on := rfl
  rw [LeftJoin.extend, htable, hname, hon, hrows, Join.partner]
  cases (db j.table).find? (j.matches S (s base)) <;> rfl

theorem foldl_extend {base : String} {joins : List Join} (hj : ∀ j ∈ joins, j.Attached base)
    {records : List (Row V)}
    (hone : ∀ j ∈ joins, ∀ record ∈ records, (db j.table).countP (j.matches S record) ≤ 1)
    (f : Row V → Scope V) (hf : ∀ record, f record base = record) :
    (joins.map Join.leftJoin).foldl (fun scopes j => scopes.flatMap (j.extend S db))
        (records.map f) =
      records.map fun record => Join.attach S db joins record (f record) := by
  induction joins generalizing f with
  | nil => rfl
  | cons j joins ih =>
    obtain ⟨hattached, hj⟩ := List.forall_mem_cons.1 hj
    obtain ⟨hfirst, hone⟩ := List.forall_mem_cons.1 hone
    have hstep : (records.map f).flatMap (j.leftJoin.extend S db) =
        records.map fun record => Function.update (f record) j.name (j.partner S db record) := by
      rw [List.flatMap_map, ← List.flatMap_pure_eq_map]
      refine List.flatMap_congr fun record hr => ?_
      rw [extend_eq S db hattached (by rw [hf]; exact hfirst record hr), hf]
      rfl
    rw [List.map_cons, List.foldl_cons, hstep,
      ih hj hone _ fun record => by rw [Function.update_of_ne hattached.name_ne.symm, hf]]
    rfl

theorem attach_of_notMem {joins : List Join} {name : String} (h : name ∉ joins.map Join.name)
    (record : Row V) (s : Scope V) : Join.attach S db joins record s name = s name := by
  induction joins generalizing s with
  | nil => rfl
  | cons j joins ih =>
    obtain ⟨hne, h⟩ := not_or.1 (List.mem_cons.not.1 h)
    exact (ih h _).trans (Function.update_of_ne hne _ _)

theorem attach_of_mem {joins : List Join} (hn : (joins.map Join.name).Nodup) {j : Join}
    (hj : j ∈ joins) (record : Row V) (s : Scope V) :
    Join.attach S db joins record s j.name = j.partner S db record := by
  induction joins generalizing s with
  | nil => cases hj
  | cons k joins ih =>
    obtain ⟨hk, hn⟩ := List.nodup_cons.1 hn
    rcases List.mem_cons.1 hj with rfl | hj
    · exact (attach_of_notMem S db hk record _).trans (Function.update_self ..)
    · exact ih hn hj _

end FilterSql.Sql
