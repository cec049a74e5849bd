import FilterSql.Proofs.Sql.Spelling

namespace FilterSql.Sql

theorem Begins.append {ps qs : List Piece} (hp : Begins ps) (hq : Begins qs) :
    Begins (ps ++ qs) := by
  match ps, hp with
  | [], _ => exact hq
  | .word _ :: _, h => exact h

section Lists

variable {α : Type} {P : List Piece → Prop} {f : α → List Piece}

theorem flatMap_induction (hnil : P []) (happend : ∀ {ps qs}, P ps → P qs → P (ps ++ qs))
    (h : ∀ a, P (f a)) (as : List α) : P (as.flatMap f) := by
  induction as with
  | nil => exact hnil
  | cons a as ih => exact happend (h a) ih

theorem commaSeparated_induction (hnil : P [])
    (hcomma : ∀ {ps qs}, P ps → P qs → P (ps ++ .word ", " :: qs)) {pss : List (List Piece)}
    (h : ∀ ps ∈ pss, P ps) : P (commaSeparated pss) := by
  fun_induction commaSeparated pss with
  | case1 => exact hnil
  | case2 ps => exact h ps (by simp)
  | case3 ps pss _ ih => exact hcomma (h ps (by simp)) (ih fun qs hq => h qs (by simp [hq]))

theorem all_commaSeparated {p : Piece → Bool} (hcomma : p (.word ", ") = true)
    {pss : List (List Piece)} (h : ∀ ps ∈ pss, ps.all p = true) :
    (commaSeparated pss).all p = true := by
  refine commaSeparated_induction (P := fun ps => ps.all p = true) rfl (fun hp hq => ?_) h
  rw [List.all_append, List.all_cons, hp, hq, hcomma]
  rfl

theorem forall_columns {s : GroupSelect} (houtput : ∀ o : Output, P o.pieces)
    (hrank : P (.word "MAX(" :: s.rankCase ++ [.word ") AS ", .identifier worstRankName]))
    (hcount : P (.word "COUNT(" :: s.primaryKey.pieces ++
      [.word ") AS ", .identifier recordCountName])) : ∀ ps ∈ s.columns, P ps := by
  intro ps hps
  simp only [GroupSelect.columns, List.mem_append, List.mem_map, List.mem_cons,
    List.not_mem_nil, or_false] at hps
  rcases hps with ⟨o, -, rfl⟩ | rfl | rfl
  · exact houtput o
  · exact hrank
  · exact hcount

end Lists

theorem closes_comparisonWord (op : Comparison) : Closes (comparisonWord op) := by
  cases op <;> exact ⟨rfl, rfl⟩

theorem begins_comparisonWord (op : Comparison) (ps : List Piece) :
    Begins (.word (comparisonWord op) :: ps) := by
  cases op <;> rfl

theorem lexemes_column (b : Backend) (index : Nat) (c : Column) :
    lexemesFrom b index c.pieces = [.identifier c.table, .symbol '.', .identifier c.name] := by
  cases b <;> rfl

theorem scan_comparisonWord (b : Backend) (op : Comparison) :
    scan b (comparisonWord op).toList = [.comparison op] := by
  cases b <;> cases op <;> rfl

theorem lexemes_test (b : Backend) (index : Nat) (t : ColumnTest) :
    lexemesFrom b index (testPieces t) =
      [.identifier t.table, .symbol '.', .identifier t.column, .comparison t.op,
        .placeholder (b.placeholder index)] := by
  rw [testPieces, lexemesFrom_append, lexemes_column, lexemesFrom_word, scan_comparisonWord]
  rfl

def Piece.reads (p : Lexeme → Bool) (piece : Piece) : Bool :=
  [.postgres, .mysql, .sqlite].all fun b => (piece.lexemes b 1).all p

theorem lexemes_all {p : Lexeme → Bool} (hp : ∀ u v, p (.placeholder u) = p (.placeholder v))
    {piece : Piece} (h : piece.reads p = true) (b : Backend) (index : Nat) :
    (piece.lexemes b index).all p = true := by
  have hone : (piece.lexemes b 1).all p = true :=
    List.all_eq_true.1 h b (by cases b <;> simp)
  cases piece with
  | bound v =>
    simp only [Piece.lexemes, List.all_cons] at hone ⊢
    rwa [hp _ (b.placeholder 1)]
  | _ => exact hone

theorem lexemesFrom_all {p : Lexeme → Bool} (hp : ∀ u v, p (.placeholder u) = p (.placeholder v))
    {ps : List Piece} (h : ps.all (Piece.reads p) = true) (b : Backend) (index : Nat) :
    (lexemesFrom b index ps).all p = true := by
  induction ps generalizing index with
  | nil => rfl
  | cons piece ps ih =>
    simp only [List.all_cons, Bool.and_eq_true] at h
    rw [lexemesFrom, List.all_append, lexemes_all hp h.1 b index, ih h.2]
    rfl

def sourceWords : List String :=
  [" FROM ", " LEFT JOIN ", " AS ", " ON ", " WHERE ", ".", "(", ")", " AND ", " OR ", "NOT ", " = ",
    " <> ", " > ", " < ", " >= ", " <= "]

/-- A test that no piece of a source fails. -/
structure Admits (p : Piece → Bool) : Prop where
  identifier : ∀ name, p (.identifier name) = true
  bound : ∀ value, p (.bound value) = true
  word : ∀ text ∈ sourceWords, p (.word text) = true

namespace Admits

variable {p : Piece → Bool}

theorem column (h : Admits p) (c : Column) : c.pieces.all p = true := by
  simp (disch := decide) [Column.pieces, h.identifier, h.word]

theorem parenthesized (h : Admits p) {ps : List Piece} (hp : ps.all p = true) (b : Bool) :
    (parenthesized b ps).all p = true := by
  cases b with
  | false => exact hp
  | true =>
    rw [Sql.parenthesized, if_pos rfl, List.cons_append, List.all_cons, List.all_append, hp]
    simp (disch := decide) [h.word]

theorem condition (h : Admits p) (t : ColumnCondition) : (conditionPieces t).all p = true := by
  induction t with
  | leaf test =>
    rw [conditionPieces, testPieces, List.all_append, h.column]
    cases test.op <;> simp (disch := decide) [comparisonWord, h.bound, h.word]
  | and l r ihl ihr =>
    rw [conditionPieces, List.all_append, List.all_cons, h.parenthesized ihl, h.parenthesized ihr]
    simp (disch := decide) [h.word]
  | or l r ihl ihr =>
    rw [conditionPieces, List.all_append, List.all_cons, h.parenthesized ihl, h.parenthesized ihr]
    simp (disch := decide) [h.word]
  | not t ih =>
    rw [conditionPieces, List.all_cons, h.parenthesized ih]
    simp (disch := decide) [h.word]

theorem join (h : Admits p) (j : Join) : j.pieces.all p = true := by
  obtain ⟨table, as?, foreign, localKey, fixed?⟩ := j
  cases as? <;> cases fixed? <;>
    simp (disch := decide) [Join.pieces, aliasPieces, fixedPieces, Column.pieces, h.identifier,
      h.bound, h.word]

theorem source (h : Admits p) (s : Source) : s.pieces.all p = true := by
  have hwhere : (wherePieces s.filter).all p = true := by
    cases s.filter with
    | none => rfl
    | some t =>
      rw [wherePieces, List.all_cons, h.condition]
      simp (disch := decide) [h.word]
  rw [Source.pieces, List.all_append, List.all_cons, List.all_cons, List.all_flatMap, hwhere]
  simp (disch := decide) [h.join, h.identifier, h.word]

end Admits

end FilterSql.Sql
