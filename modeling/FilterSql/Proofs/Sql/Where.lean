import FilterSql.Proofs.Grammar
import FilterSql.Proofs.Sql.Recovery
import FilterSql.Proofs.Statement
import FilterSql.Schema.Builtin

namespace FilterSql.Sql

open Grammar

inductive Operand
  | column (table name : String)
  | placeholder
  deriving DecidableEq, Repr

structure Predicate where
  left : Operand
  op : Comparison
  right : Operand
  deriving DecidableEq, Repr

def Predicate.ofTest (t : ColumnTest) : Predicate := ⟨.column t.table t.column, t.op, .placeholder⟩

def Lexeme.mark? : Lexeme → Option Mark
  | .word text =>
    if text = "AND" then some .and
    else if text = "OR" then some .or
    else if text = "NOT" then some .not
    else none
  | .symbol c => if c = '(' then some .lparen else if c = ')' then some .rparen else none
  | _ => none

inductive IsOperand : List Lexeme → Operand → Prop
  | column (table name : String) :
      IsOperand [.identifier table, .symbol '.', .identifier name] (.column table name)
  | placeholder (text : String) : IsOperand [.placeholder text] .placeholder

inductive IsPredicate : List Lexeme → Predicate → Prop
  | comparison {u v l r} (op : Comparison) : IsOperand u l → IsOperand v r →
      IsPredicate (u ++ .comparison op :: v) ⟨l, op, r⟩

theorem IsOperand.unique {u v x y : List Lexeme} {a b : Operand} (h : IsOperand u a)
    (h' : IsOperand v b) (e : u ++ x = v ++ y) : u = v ∧ a = b := by
  cases h <;> cases h' <;> simp_all

theorem IsPredicate.unique {u v x y : List Lexeme} {a b : Predicate} (h : IsPredicate u a)
    (h' : IsPredicate v b) (e : u ++ x = v ++ y) : u = v ∧ a = b := by
  cases h with
  | comparison op hl hr =>
    cases h' with
    | comparison op' hl' hr' =>
      simp only [List.append_assoc, List.cons_append] at e
      obtain ⟨rfl, rfl⟩ := hl.unique hl' e
      obtain ⟨hop, e⟩ := List.cons.inj (List.append_cancel_left e)
      obtain ⟨rfl, rfl⟩ := hr.unique hr' e
      cases hop
      exact ⟨rfl, rfl⟩

theorem IsPredicate.head {w : List Lexeme} {a : Predicate} (h : IsPredicate w a) :
    ∃ s rest, w = s :: rest ∧ s.mark? = none := by
  cases h with
  | comparison _ hl => cases hl <;> exact ⟨_, _, rfl, rfl⟩

def sqlScript : Script Lexeme Predicate where
  mark? := Lexeme.mark?
  IsTest := IsPredicate
  test_head := IsPredicate.head
  test_unique := IsPredicate.unique

/-- The loosest part that a condition is written as without parentheses. -/
def outerPhrase {α β : Type} : Condition α → Phrase β
  | .leaf _ => .primary
  | .not _ => .unary
  | .and _ _ => .conjunction
  | .or _ _ => .disjunction

theorem toDisjunction_of_outerPhrase {σ α β : Type} {S : Script σ β} {t : Condition α}
    {w : List σ} {u : Condition β} (h : Derives S (outerPhrase t) w u) :
    Derives S .disjunction w u := by
  cases t with
  | leaf => exact h.unary.toConjunction.toDisjunction
  | not => exact h.toConjunction.toDisjunction
  | and => exact h.toDisjunction
  | or => exact h

def markWord : Mark → String
  | .and => " AND "
  | .or => " OR "
  | .not => "NOT "
  | .lparen => "("
  | .rparen => ")"

/-- Pieces are read one after the other, and the words of formulas as their marks. -/
structure Reads {σ β : Type} (S : Script σ β) (units : Nat → List Piece → List σ) : Prop where
  append : ∀ i ps qs, ∃ j, units i (ps ++ qs) = units i ps ++ units j qs
  word : ∀ i m, ∃ s, units i [.word (markWord m)] = [s] ∧ S.mark? s = some m

namespace Reads

variable {σ α β : Type} {S : Script σ β} {units : Nat → List Piece → List σ}

theorem cons_word (h : Reads S units) (i : Nat) (m : Mark) (ps : List Piece) :
    ∃ s j, units i (.word (markWord m) :: ps) = s :: units j ps ∧ S.mark? s = some m := by
  obtain ⟨s, hs, hm⟩ := h.word i m
  obtain ⟨j, hj⟩ := h.append i [.word (markWord m)] ps
  exact ⟨s, j, by rw [← List.singleton_append, hj, hs, List.singleton_append], hm⟩

theorem derives_inParentheses (h : Reads S units) {t : Condition α} {u : Condition β}
    {ps : List Piece} (ht : ∀ i, Derives S (outerPhrase t) (units i ps) u) (i : Nat) :
    Derives S .primary (units i (inParentheses ps)) u := by
  obtain ⟨s, j, hopen, hs⟩ := h.cons_word i .lparen (ps ++ [.word (markWord .rparen)])
  obtain ⟨k, hps⟩ := h.append j ps [.word (markWord .rparen)]
  obtain ⟨e, hclose, he⟩ := h.word k .rparen
  have hunits : units i (inParentheses ps) = s :: units j ps ++ [e] := by
    rw [List.cons_append, ← hclose, ← hps]
    exact hopen
  rw [hunits]
  exact .parentheses hs (toDisjunction_of_outerPhrase (ht j)) he

theorem derives (h : Reads S units) (leaf : α → Comparing) (g : α → β)
    (htest : ∀ i a, S.IsTest (units i (leaf a).pieces) (g a)) (i : Nat) (t : Condition α) :
    Derives S (outerPhrase t) (units i (formulaPieces (t.map leaf))) (t.map g) := by
  have hoperand {t : Condition α} (ht : ∀ i, Derives S (outerPhrase t)
      (units i (formulaPieces (t.map leaf))) (t.map g)) (i : Nat) :
      Derives S .primary (units i (if isLeaf (t.map leaf) then formulaPieces (t.map leaf)
        else inParentheses (formulaPieces (t.map leaf)))) (t.map g) := by
    cases t with
    | leaf => exact ht i
    | _ => exact h.derives_inParentheses ht i
  induction t generalizing i with
  | leaf a => exact .test (htest i a)
  | not t ih =>
    obtain ⟨s, j, hunits, hs⟩ := h.cons_word i .not _
    exact hunits ▸ .negation hs (hoperand ih j).unary
  | and l r ihl ihr =>
    -- only the left operand may be an AND without parentheses: chains lean to the left
    have hleft : Derives S .conjunction (units i (if isLeaf (l.map leaf) || isAnd (l.map leaf) then
        formulaPieces (l.map leaf) else inParentheses (formulaPieces (l.map leaf)))) (l.map g) := by
      cases l with
      | leaf => exact (ihl i).unary.toConjunction
      | and => exact ihl i
      | _ => exact (h.derives_inParentheses ihl i).unary.toConjunction
    obtain ⟨j, hunits⟩ := h.append i _ (.word (markWord .and) :: _)
    obtain ⟨s, k, hword, hs⟩ := h.cons_word j .and _
    exact hunits ▸ hword ▸ hleft.and hs (hoperand ihr k).unary
  | or l r ihl ihr =>
    have hleft : Derives S .disjunction (units i (if isLeaf (l.map leaf) || isOr (l.map leaf) then
        formulaPieces (l.map leaf) else inParentheses (formulaPieces (l.map leaf)))) (l.map g) := by
      cases l with
      | leaf => exact (ihl i).unary.toConjunction.toDisjunction
      | or => exact ihl i
      | _ => exact (h.derives_inParentheses ihl i).unary.toConjunction.toDisjunction
    obtain ⟨j, hunits⟩ := h.append i _ (.word (markWord .or) :: _)
    obtain ⟨s, k, hword, hs⟩ := h.cons_word j .or _
    exact hunits ▸ hword ▸ hleft.or hs (hoperand ihr k).unary.toConjunction

end Reads

theorem reads_lexemes (b : Backend) : Reads sqlScript (lexemesFrom b) where
  append i ps qs := ⟨_, lexemesFrom_append ..⟩
  word i m := by cases m <;> cases b <;> exact ⟨_, rfl, rfl⟩

theorem derives_condition (b : Backend) (index : Nat) (t : ColumnCondition) :
    Derives sqlScript (outerPhrase t) (lexemesFrom b index (conditionPieces t))
      (t.map Predicate.ofTest) := by
  rw [← formulaPieces_map]
  refine (reads_lexemes b).derives Comparing.ofTest Predicate.ofTest (fun i test => ?_) index t
  rw [comparing_pieces, lexemes_test]
  exact .comparison test.op (.column test.table test.column) (.placeholder _)

def Lexeme.isClause (x : Lexeme) : Bool := x ∈ [.word "WHERE", .word "GROUP", .word "ORDER"]

/-- What stands before the parenthesis that closes the text; `depth` more are open. -/
def enclosed : Nat → List Lexeme → List Lexeme
  | _, [] => []
  | depth, x :: rest =>
    if x = .symbol '(' then x :: enclosed (depth + 1) rest
    else if x = .symbol ')' then
      match depth with
      | 0 => []
      | depth + 1 => x :: enclosed depth rest
    else x :: enclosed depth rest

/-- The select that gathers the rows of a statement: the one of its common table, if it has one. -/
def gatheringSelect : List Lexeme → List Lexeme
  | .word "WITH" :: .identifier _ :: .word "AS" :: .symbol '(' :: rest => enclosed 0 rest
  | xs => xs

def condition (xs : List Lexeme) : List Lexeme :=
  ((xs.dropWhile (· != .word "WHERE")).drop 1).takeWhile (!·.isClause)

def Closed (xs : List Lexeme) : Prop :=
  ∀ depth rest, enclosed depth (xs ++ rest) = xs ++ enclosed depth rest

theorem Closed.append {xs ys : List Lexeme} (hx : Closed xs) (hy : Closed ys) :
    Closed (xs ++ ys) := by
  intro depth rest
  rw [List.append_assoc, hx, hy, List.append_assoc]

theorem Closed.parentheses {xs : List Lexeme} (h : Closed xs) :
    Closed (.symbol '(' :: xs ++ [.symbol ')']) := by
  intro depth rest
  have hopen : enclosed depth (.symbol '(' :: (xs ++ .symbol ')' :: rest)) =
      .symbol '(' :: enclosed (depth + 1) (xs ++ .symbol ')' :: rest) := rfl
  have hclose : enclosed (depth + 1) (.symbol ')' :: rest) =
      .symbol ')' :: enclosed depth rest := rfl
  simp only [List.cons_append, List.append_assoc, List.nil_append]
  rw [hopen, h, hclose]

theorem closed_of_ne {xs : List Lexeme} (h : ∀ x ∈ xs, x ≠ .symbol '(' ∧ x ≠ .symbol ')') :
    Closed xs := by
  intro depth rest
  induction xs with
  | nil => rfl
  | cons x xs ih =>
    obtain ⟨ho, he⟩ := h x (by simp)
    simp [enclosed, ho, he, ih fun y hy => h y (by simp [hy])]

theorem Closed.enclosed_eq {xs after : List Lexeme} (h : Closed xs) :
    enclosed 0 (xs ++ .symbol ')' :: after) = xs := by
  rw [h]
  exact List.append_nil xs

structure Inner (xs : List Lexeme) : Prop where
  noClause : ∀ x ∈ xs, x.isClause = false
  closed : Closed xs

theorem Inner.append {xs ys : List Lexeme} (hx : Inner xs) (hy : Inner ys) : Inner (xs ++ ys) where
  noClause x h := (List.mem_append.1 h).elim (hx.noClause x) (hy.noClause x)
  closed := hx.closed.append hy.closed

theorem Inner.parentheses {xs : List Lexeme} (h : Inner xs) :
    Inner (.symbol '(' :: xs ++ [.symbol ')']) where
  noClause x hx := by
    simp only [List.cons_append, List.mem_cons, List.mem_append, List.not_mem_nil, or_false] at hx
    rcases hx with rfl | hx | rfl
    · rfl
    · exact h.noClause x hx
    · rfl
  closed := h.closed.parentheses

def Lexeme.isPlain (x : Lexeme) : Bool :=
  !x.isClause && x != .symbol '(' && x != .symbol ')'

theorem inner_of_plain {xs : List Lexeme} (h : xs.all Lexeme.isPlain = true) : Inner xs := by
  simp only [List.all_eq_true, Lexeme.isPlain, Bool.and_eq_true, Bool.not_eq_true',
    bne_iff_ne] at h
  exact ⟨fun x hx => (h x hx).1.1, closed_of_ne fun x hx => ⟨(h x hx).1.2, (h x hx).2⟩⟩

theorem condition_append {before after w : List Lexeme} {e : Lexeme} (hb : Inner before)
    (hw : Inner w) (he : e.isClause = true) :
    condition (before ++ .word "WHERE" :: (w ++ e :: after)) = w := by
  have hne : ∀ x ∈ before, (x != .word "WHERE") = true := by
    intro x hx
    rw [bne_iff_ne]
    rintro rfl
    cases hb.noClause _ hx
  have hstart : (before ++ .word "WHERE" :: (w ++ e :: after)).dropWhile (· != .word "WHERE") =
      .word "WHERE" :: (w ++ e :: after) := by
    rw [List.dropWhile_append_of_pos hne]
    rfl
  have hend : (w ++ e :: after).takeWhile (!·.isClause) = w := by
    rw [List.takeWhile_append_of_pos (by simpa using hw.noClause)]
    simp [he]
  rw [condition, hstart]
  exact hend

def Within (ps : List Piece) : Prop := ∀ b index, Inner (lexemesFrom b index ps)

theorem Within.append {ps qs : List Piece} (hp : Within ps) (hq : Within qs) :
    Within (ps ++ qs) := by
  intro b index
  rw [lexemesFrom_append]
  exact (hp b index).append (hq b _)

def Piece.isPlain : Piece → Bool := Piece.reads Lexeme.isPlain

theorem within_of_plain {ps : List Piece} (h : ps.all Piece.isPlain = true) : Within ps :=
  fun b index => inner_of_plain (lexemesFrom_all (fun _ _ => rfl) h b index)

theorem Within.cons_word {text : String} {ps : List Piece} (h : Within ps)
    (ht : [Piece.word text].all Piece.isPlain = true) : Within (.word text :: ps) :=
  (within_of_plain ht).append h

theorem Within.enclose {opening closing : String} {ps qs : List Piece} (u v w x : List Lexeme)
    (ho : ∀ b, scan b opening.toList = u ++ .symbol '(' :: v)
    (hc : ∀ b, scan b closing.toList = w ++ .symbol ')' :: x)
    (hplain : (u ++ v ++ w ++ x).all Lexeme.isPlain = true) (hp : Within ps) (hq : Within qs) :
    Within (.word opening :: ps ++ .word closing :: qs) := by
  intro b index
  simp only [List.all_append, Bool.and_eq_true] at hplain
  obtain ⟨⟨⟨hu, hv⟩, hw⟩, hx⟩ := hplain
  have hinside := ((inner_of_plain hv).append (hp b index)).append (inner_of_plain hw)
  have hwhole := ((inner_of_plain hu).append hinside.parentheses).append
    ((inner_of_plain hx).append (hq b (index + (params (.word opening :: ps)).length)))
  rw [lexemesFrom_append, lexemesFrom_word, lexemesFrom_word, ho, hc]
  simpa using hwhole

theorem Within.parenthesized {ps : List Piece} (h : Within ps) (b : Bool) :
    Within (parenthesized b ps) := by
  cases b with
  | false => exact h
  | true =>
    exact .enclose [] [] [] [] (fun b => by cases b <;> rfl) (fun b => by cases b <;> rfl) rfl h
      (within_of_plain rfl)

theorem within_condition (t : ColumnCondition) : Within (conditionPieces t) := by
  induction t with
  | leaf test =>
    intro b index
    rw [conditionPieces, lexemes_test]
    exact inner_of_plain rfl
  | and l r ihl ihr =>
    exact (ihl.parenthesized _).append ((ihr.parenthesized _).cons_word (by rfl))
  | or l r ihl ihr =>
    exact (ihl.parenthesized _).append ((ihr.parenthesized _).cons_word (by rfl))
  | not t ih => exact (ih.parenthesized _).cons_word (by rfl)

theorem plain_join (j : Join) : j.pieces.all Piece.isPlain = true := by
  obtain ⟨table, as?, foreign, localKey, fixed?⟩ := j
  cases as? <;> cases fixed? <;> rfl

theorem within_flatMap {α : Type} {f : α → List Piece} (h : ∀ a, Within (f a)) (as : List α) :
    Within (as.flatMap f) :=
  flatMap_induction (within_of_plain rfl) Within.append h as

theorem within_commaSeparated {pss : List (List Piece)} (h : ∀ ps ∈ pss, Within ps) :
    Within (commaSeparated pss) :=
  commaSeparated_induction (within_of_plain rfl)
    (fun hp hq => hp.append (hq.cons_word rfl)) h

theorem within_column (c : Column) : Within c.pieces := within_of_plain rfl

theorem within_rank (status : Column) (entry : String × Nat) :
    Within (rankPieces status entry) := by
  have h : Within (.word " WHEN (" :: (status.pieces ++ [.word " = ", .constant entry.1]) ++
      .word ") THEN " :: [.number entry.2]) :=
    .enclose [.word "WHEN"] [] [] [.word "THEN"] (fun b => by cases b <;> rfl)
      (fun b => by cases b <;> rfl) rfl (within_of_plain rfl) (within_of_plain rfl)
  exact h

theorem within_rankCase (s : GroupSelect) : Within s.rankCase := by
  have h : Within (.word "(CASE" ::
      (s.ranks.flatMap (rankPieces s.status) ++ [.word " ELSE ", .number 0]) ++
      .word " END)" :: []) :=
    .enclose [] [.word "CASE"] [.word "END"] [] (fun b => by cases b <;> rfl)
      (fun b => by cases b <;> rfl) rfl
      ((within_flatMap (within_rank s.status) s.ranks).append (within_of_plain rfl))
      (within_of_plain rfl)
  simpa [GroupSelect.rankCase] using h

theorem within_columns (s : GroupSelect) :
    Within (.word "SELECT " :: commaSeparated s.columns) := by
  have hcolumns : ∀ ps ∈ s.columns, Within ps := by
    apply forall_columns
    · exact fun o => within_of_plain rfl
    · exact .enclose [.word "MAX"] [] [] [.word "AS"] (fun b => by cases b <;> rfl)
        (fun b => by cases b <;> rfl) rfl (within_rankCase s) (within_of_plain rfl)
    · exact .enclose [.word "COUNT"] [] [] [.word "AS"] (fun b => by cases b <;> rfl)
        (fun b => by cases b <;> rfl) rfl (within_column s.primaryKey) (within_of_plain rfl)
  exact (within_commaSeparated hcolumns).cons_word rfl

theorem within_from (s : Source) :
    Within (.word " FROM " :: .identifier s.base :: s.joins.flatMap Join.pieces) := by
  have hjoins := within_flatMap (fun j => within_of_plain (plain_join j)) s.joins
  have hbase : Within [.word " FROM ", .identifier s.base] := within_of_plain rfl
  exact hbase.append hjoins

theorem scan_where (b : Backend) : scan b " WHERE ".toList = [.word "WHERE"] := by
  cases b <;> rfl

theorem scan_groupBy (b : Backend) : scan b " GROUP BY ".toList = [.word "GROUP", .word "BY"] := by
  cases b <;> rfl

theorem scan_orderBy (b : Backend) : scan b " ORDER BY ".toList = [.word "ORDER", .word "BY"] := by
  cases b <;> rfl

theorem condition_source {head tail : List Piece} {s : Source} {t : ColumnCondition} {e : Lexeme}
    {rest : List Lexeme} {text : String} {b : Backend} (ht : s.filter = some t)
    (hhead : Within head) (htext : scan b text.toList = e :: rest) (he : e.isClause = true)
    (index : Nat) :
    ∃ j, condition (lexemesFrom b index (head ++ s.pieces ++ .word text :: tail)) =
      lexemesFrom b j (conditionPieces t) := by
  have hbefore := hhead.append (within_from s)
  have hpieces : head ++ s.pieces ++ .word text :: tail =
      head ++ .word " FROM " :: .identifier s.base :: s.joins.flatMap Join.pieces ++
        .word " WHERE " :: (conditionPieces t ++ .word text :: tail) := by
    simp [Source.pieces, ht, wherePieces]
  rw [hpieces]
  generalize head ++ .word " FROM " :: _ = before at hbefore ⊢
  rw [lexemesFrom_append, lexemesFrom_word, scan_where, lexemesFrom_append, lexemesFrom_word, htext]
  exact ⟨_, condition_append (hbefore b index) (within_condition t b _) he⟩

theorem condition_records {s : RecordSelect} {t : ColumnCondition} (ht : s.source.filter = some t)
    (b : Backend) : ∃ j, condition (gatheringSelect (lexemesFrom b 1 s.pieces)) =
      lexemesFrom b j (conditionPieces t) := by
  have hselect (ps : List Piece) : gatheringSelect (lexemesFrom b 1 (.word "SELECT " :: ps)) =
      lexemesFrom b 1 (.word "SELECT " :: ps) := by
    cases b <;> rfl
  have hhead : Within [.word "SELECT ", .identifier s.source.base, .word ".*"] :=
    within_of_plain rfl
  have hpieces : s.pieces = [.word "SELECT ", .identifier s.source.base, .word ".*"] ++
      s.source.pieces ++ .word " ORDER BY " ::
        (commaSeparated (s.order.map SortKey.pieces) ++ pagePieces s.page) := by
    simp [RecordSelect.pieces]
  rw [hpieces]
  simp only [List.cons_append, List.nil_append, hselect]
  exact condition_source ht hhead (scan_orderBy b) rfl 1

theorem closed_where (b : Backend) (index : Nat) (filter : Option ColumnCondition) :
    Closed (lexemesFrom b index (wherePieces filter)) := by
  cases filter with
  | none => exact (inner_of_plain rfl).closed
  | some t =>
    rw [wherePieces, lexemesFrom_word, scan_where]
    exact (closed_of_ne (by simp)).append (within_condition t b index).closed

theorem closed_gathering (b : Backend) (index : Nat) (s : GroupSelect) :
    Closed (lexemesFrom b index s.gathering) := by
  have hgroup : Within (commaSeparated (s.keys.map Column.pieces)) :=
    within_commaSeparated (List.forall_mem_map.2 fun c _ => within_column c)
  have hpieces : s.gathering = (.word "SELECT " :: commaSeparated s.columns) ++
      (.word " FROM " :: .identifier s.source.base :: s.source.joins.flatMap Join.pieces) ++
      wherePieces s.source.filter ++
      .word " GROUP BY " :: commaSeparated (s.keys.map Column.pieces) := by
    simp [GroupSelect.gathering, Source.pieces]
  have hfront := (within_columns s).append (within_from s.source)
  rw [hpieces]
  generalize Piece.word "SELECT " :: _ ++ _ = front at hfront ⊢
  rw [lexemesFrom_append, lexemesFrom_append, lexemesFrom_word, scan_groupBy]
  exact ((hfront b index).closed.append (closed_where b _ _)).append
    ((closed_of_ne (by simp)).append (hgroup b _).closed)

theorem condition_groups {s : GroupSelect} {t : ColumnCondition} (ht : s.source.filter = some t)
    (b : Backend) : ∃ j, condition (gatheringSelect (lexemesFrom b 1 s.pieces)) =
      lexemesFrom b j (conditionPieces t) := by
  have hwith (ps : List Piece) : lexemesFrom b 1
      (.word "WITH " :: .identifier groupsName :: .word " AS (" :: ps) =
      [.word "WITH", .identifier groupsName, .word "AS", .symbol '('] ++ lexemesFrom b 1 ps := by
    cases b <;> rfl
  have hclose (index : Nat) (ps : List Piece) : ∃ rest, lexemesFrom b index
      (.word ") SELECT *, COUNT(*) OVER (  ) AS " :: ps) = .symbol ')' :: rest := by
    cases b <;> exact ⟨_, rfl⟩
  -- the parenthesis behind AS is closed right behind the gathering select and not before
  obtain ⟨after, hafter⟩ : ∃ after, gatheringSelect (lexemesFrom b 1 s.pieces) =
      enclosed 0 (lexemesFrom b 1 s.gathering ++ .symbol ')' :: after) := by
    obtain ⟨after, hafter⟩ := hclose (1 + (params s.gathering).length) _
    refine ⟨after, ?_⟩
    rw [← hafter, ← lexemesFrom_append, GroupSelect.pieces]
    simp only [List.cons_append, List.append_assoc, hwith]
    rfl
  rw [hafter, (closed_gathering b 1 s).enclosed_eq]
  exact condition_source ht (within_columns s) (scan_groupBy b) rfl 1

theorem derives_condition_iff (b : Backend) (index : Nat) (t : ColumnCondition)
    (u : Condition Predicate) :
    Derives sqlScript .disjunction (lexemesFrom b index (conditionPieces t)) u ↔
      u = t.map Predicate.ofTest := by
  have ht := toDisjunction_of_outerPhrase (derives_condition b index t)
  exact ⟨fun hu => hu.condition_unique ht, fun hu => hu ▸ ht⟩

/-- A statement that can be had at all has the condition of its query, the tree and not only its
meaning: read from the text, it is that tree and no other. -/
theorem compile_condition_readBack (dialect : Dialect) (schema : Schema) (q : ResolvedQuery)
    (t : ColumnCondition) (ht : q.filter = some t) :
    ((∃ s, q.compile dialect schema = .ok s) ↔
      (∀ test ∈ t.leaves, test.table = schema.baseTable ∨
        (schema.relations.find? test.table).isSome = true) ∧
      (q.groupBy = [] ∨ dialect.missing? = none ∧ q.groupBy.Nodup ∧ .tag "" ∉ q.groupBy)) ∧
    ∀ s, q.compile dialect schema = .ok s → ∀ u,
      Derives sqlScript .disjunction
        (condition (gatheringSelect (scan dialect.backend s.sql.toList))) u ↔
      u = t.map Predicate.ofTest := by
  constructor
  · rw [Statement.exists_compile_iff, ht, Statement.exists_relatedJoins_iff]
  · intro s hs u
    obtain ⟨joins, -, ⟨-, rfl⟩ | ⟨-, -, -, rfl⟩⟩ := Statement.compile_eq_ok_iff.1 hs
    · obtain ⟨j, hj⟩ := condition_records (s := Statement.records schema q joins) ht dialect.backend
      rw [Statement.ofSelect, scan_spell, Select.pieces, hj, derives_condition_iff]
    · obtain ⟨j, hj⟩ := condition_groups (s := Statement.groups schema q joins) ht dialect.backend
      rw [Statement.ofSelect, scan_spell, Select.pieces, hj, derives_condition_iff]

theorem compile_condition_readBack_grouped :
    let test (table : String) (op : Comparison) : ColumnCondition :=
      .leaf ⟨"f", table, "a\"b", .string, op, .string "?"⟩
    let t : ColumnCondition := .and (test "launch" .ne)
      (.and (.not (.or (test "test_result" .le) (test "launch" .eq)))
        (.not (.not (test "launch" .gt))))
    let q : ResolvedQuery :=
      { filter := some t, groupBy := [.tag "os", .session], page := ⟨0, 10, by decide⟩ }
    ∃ s, q.compile ⟨.postgres, none⟩ .builtin = .ok s ∧
      Derives sqlScript .disjunction (condition (gatheringSelect (scan .postgres s.sql.toList)))
        (t.map Predicate.ofTest) := by
  intro test t q
  obtain ⟨hs, hread⟩ := compile_condition_readBack ⟨.postgres, none⟩ .builtin q t rfl
  obtain ⟨s, hs⟩ := hs.2 ⟨by decide, by decide⟩
  exact ⟨s, hs, (hread s hs _).2 rfl⟩

end FilterSql.Sql
