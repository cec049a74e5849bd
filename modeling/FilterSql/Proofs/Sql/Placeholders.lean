import FilterSql.Proofs.Sql.Recovery
import FilterSql.Proofs.Validation
import FilterSql.Schema.Builtin
import Mathlib

namespace FilterSql.Sql

inductive Clause
  | join (table name : String)
  | condition
  deriving DecidableEq, Repr

/-- What a placeholder stands for. -/
inductive Site
  | compared (clause : Clause) (column : Column) (op : Comparison)
  | limit
  | offset
  deriving DecidableEq, Repr

def joinBehind : List Lexeme → Option Clause
  | .identifier name :: .word "AS" :: .identifier table :: _ => some (.join table name)
  | .identifier table :: _ => some (.join table table)
  | _ => none

/-- The clause of what follows the units `before`, of which the last comes first. -/
def clauseBehind : List Lexeme → Option Clause
  | [] => none
  | x :: before =>
    if x = .word "WHERE" then some .condition
    else if x = .word "ON" then joinBehind before
    else clauseBehind before

def siteBehind : List Lexeme → Option Site
  | .comparison op :: .identifier name :: .symbol '.' :: .identifier table :: before =>
    (clauseBehind before).map (.compared · ⟨table, name⟩ op)
  | .word "LIMIT" :: _ => some .limit
  | .word "OFFSET" :: _ => some .offset
  | _ => none

def slotsFrom (before : List Lexeme) : List Lexeme → List (Option Site × String)
  | [] => []
  | .placeholder text :: rest =>
    (siteBehind before, text) :: slotsFrom (.placeholder text :: before) rest
  | x :: rest => slotsFrom (x :: before) rest

def Lexeme.placeholder? : Lexeme → Option String
  | .placeholder text => some text
  | _ => none

def placeholders (xs : List Lexeme) : List String := xs.filterMap Lexeme.placeholder?

def sites (xs : List Lexeme) : List (Option Site) := (slotsFrom [] xs).map Prod.fst

theorem placeholders_eq (before xs : List Lexeme) :
    placeholders xs = (slotsFrom before xs).map Prod.snd := by
  induction xs generalizing before with
  | nil => rfl
  | cons x xs ih =>
    cases x with
    | placeholder text => exact congrArg (text :: ·) (ih _)
    | _ => exact ih _

theorem slotsFrom_append (before xs ys : List Lexeme) :
    slotsFrom before (xs ++ ys) = slotsFrom before xs ++ slotsFrom (xs.reverse ++ before) ys := by
  induction xs generalizing before with
  | nil => rfl
  | cons x xs ih => cases x <;> simp [slotsFrom, ih]

def Lexeme.isSilent : Lexeme → Bool
  | .placeholder _ => false
  | x => x != .word "WHERE" && x != .word "ON"

theorem slotsFrom_silent {xs : List Lexeme} (h : xs.all Lexeme.isSilent = true)
    (before : List Lexeme) : slotsFrom before xs = [] := by
  induction xs generalizing before with
  | nil => rfl
  | cons x xs ih =>
    simp only [List.all_cons, Bool.and_eq_true] at h
    cases x with
    | placeholder text => cases h.1
    | _ => exact ih h.2 _

theorem clauseBehind_silent {xs : List Lexeme} (h : xs.all Lexeme.isSilent = true)
    (before : List Lexeme) : clauseBehind (xs.reverse ++ before) = clauseBehind before := by
  induction xs generalizing before with
  | nil => rfl
  | cons x xs ih =>
    simp only [List.all_cons, Bool.and_eq_true] at h
    rw [List.reverse_cons, List.append_assoc, List.singleton_append, ih h.2]
    cases x <;> simp_all [clauseBehind, Lexeme.isSilent]

/-- The pieces hold placeholders for these bindings, if they stand in `clause`; what follows them
stands in `clause'`. -/
structure Binds (ps : List Piece) (clause clause' : Option Clause) (bs : List (Site × Value)) :
    Prop where
  params_eq : params ps = bs.map Prod.snd
  slots_eq : ∀ b index before, clauseBehind before = clause →
    slotsFrom before (lexemesFrom b index ps) =
      (bs.zipIdx index).map fun (binding, i) => (some binding.1, b.placeholder i)
  clause_eq : ∀ b index before, clauseBehind before = clause →
    clauseBehind ((lexemesFrom b index ps).reverse ++ before) = clause'

theorem Binds.append {ps qs : List Piece} {c c' c'' : Option Clause} {bs bs' : List (Site × Value)}
    (hp : Binds ps c c' bs) (hq : Binds qs c' c'' bs') : Binds (ps ++ qs) c c'' (bs ++ bs') where
  params_eq := by rw [params_append, hp.params_eq, hq.params_eq, List.map_append]
  slots_eq b index before h := by
    rw [lexemesFrom_append, slotsFrom_append, hp.slots_eq b index before h,
      hq.slots_eq b _ _ (hp.clause_eq b index before h), hp.params_eq, List.length_map,
      List.zipIdx_append, List.map_append]
  clause_eq b index before h := by
    rw [lexemesFrom_append, List.reverse_append, List.append_assoc]
    exact hq.clause_eq b _ _ (hp.clause_eq b index before h)

def Piece.isSilent : Piece → Bool := Piece.reads Lexeme.isSilent

theorem params_silent {ps : List Piece} (h : ps.all Piece.isSilent = true) : params ps = [] := by
  rw [params, List.filterMap_eq_nil_iff]
  intro p hp
  have hsilent := List.all_eq_true.1 h p hp
  cases p with
  | bound v => cases hsilent
  | _ => rfl

theorem binds_silent {ps : List Piece} (h : ps.all Piece.isSilent = true) (c : Option Clause) :
    Binds ps c c [] := by
  have hlexemes (b : Backend) (index : Nat) := lexemesFrom_all (fun _ _ => rfl) h b index
  exact
    { params_eq := params_silent h
      slots_eq := fun b index before _ => slotsFrom_silent (hlexemes b index) before
      clause_eq := fun b index before hc =>
        (clauseBehind_silent (hlexemes b index) before).trans hc }

theorem Binds.silent_append {ps qs : List Piece} {c c' : Option Clause} {bs : List (Site × Value)}
    (h : Binds qs c c' bs) (hp : ps.all Piece.isSilent = true) : Binds (ps ++ qs) c c' bs :=
  (binds_silent hp c).append h

theorem Binds.append_silent {ps qs : List Piece} {c c' : Option Clause} {bs : List (Site × Value)}
    (h : Binds ps c c' bs) (hq : qs.all Piece.isSilent = true) : Binds (ps ++ qs) c c' bs := by
  simpa using h.append (binds_silent hq c')

theorem Binds.cons_word {text : String} {ps : List Piece} {c c' : Option Clause}
    {bs : List (Site × Value)} (h : Binds ps c c' bs)
    (ht : [Piece.word text].all Piece.isSilent = true) : Binds (.word text :: ps) c c' bs :=
  h.silent_append ht

theorem binds_comparison (clause : Clause) (c : Column) (op : Comparison) (v : Value) :
    Binds (c.pieces ++ [.word (comparisonWord op), .bound v]) (some clause) (some clause)
      [(.compared clause c op, v)] := by
  have hlexemes (b : Backend) (index : Nat) :
      lexemesFrom b index (c.pieces ++ [.word (comparisonWord op), .bound v]) =
        [.identifier c.table, .symbol '.', .identifier c.name, .comparison op,
          .placeholder (b.placeholder index)] := by
    rw [lexemesFrom_append, lexemes_column, lexemesFrom_word, scan_comparisonWord]
    rfl
  refine ⟨rfl, fun b index before h => ?_, fun b index before h => ?_⟩
  · simp [hlexemes, slotsFrom, siteBehind, h]
  · simp [hlexemes, clauseBehind, h]

theorem binds_page (p : Page) (c : Option Clause) :
    Binds (pagePieces p) c c [(.limit, .unsigned p.limit), (.offset, .unsigned p.offset)] := by
  have hlexemes (b : Backend) (index : Nat) : lexemesFrom b index (pagePieces p) =
      [.word "LIMIT", .placeholder (b.placeholder index), .word "OFFSET",
        .placeholder (b.placeholder (index + 1))] := by
    cases b <;> rfl
  refine ⟨rfl, fun b index before h => ?_, fun b index before h => ?_⟩
  · rw [hlexemes]
    rfl
  · rw [hlexemes]
    exact h

def testBinding (t : ColumnTest) : Site × Value :=
  (.compared .condition ⟨t.table, t.column⟩ t.op, .ofLiteral t.value)

def Join.bindings (j : Join) : List (Site × Value) :=
  match j.fixed? with
  | none => []
  | some (column, value) => [(.compared (.join j.table j.name) column .eq, value)]

def Source.bindings (s : Source) : List (Site × Value) :=
  s.joins.flatMap Join.bindings ++ (s.filter.elim [] Condition.leaves).map testBinding

theorem Binds.parenthesized {ps : List Piece} {c c' : Option Clause} {bs : List (Site × Value)}
    (h : Binds ps c c' bs) (b : Bool) : Binds (parenthesized b ps) c c' bs := by
  cases b with
  | false => exact h
  | true => exact (h.cons_word (by rfl)).append_silent rfl

theorem binds_condition (t : ColumnCondition) :
    Binds (conditionPieces t) (some .condition) (some .condition) (t.leaves.map testBinding) := by
  induction t with
  | leaf test => exact binds_comparison .condition _ test.op _
  | and l r ihl ihr =>
    rw [Condition.leaves, List.map_append]
    exact (ihl.parenthesized _).append ((ihr.parenthesized _).cons_word (by rfl))
  | or l r ihl ihr =>
    rw [Condition.leaves, List.map_append]
    exact (ihl.parenthesized _).append ((ihr.parenthesized _).cons_word (by rfl))
  | not t ih => exact (ih.parenthesized _).cons_word (by rfl)

theorem binds_where (filter : Option ColumnCondition) (c : Option Clause) :
    ∃ c', Binds (wherePieces filter) c c' ((filter.elim [] Condition.leaves).map testBinding) := by
  cases filter with
  | none => exact ⟨c, binds_silent rfl c⟩
  | some t =>
    have hword : Binds [.word " WHERE "] c (some .condition) [] :=
      ⟨rfl, fun b _ _ _ => by cases b <;> rfl, fun b _ _ _ => by cases b <;> rfl⟩
    exact ⟨_, hword.append (binds_condition t)⟩

theorem binds_on (table : String) (as? : Option String) (c : Option Clause) :
    Binds (.word " LEFT JOIN " :: .identifier table :: aliasPieces as? ++ [.word " ON "]) c
      (some (.join table (as?.getD table))) [] := by
  cases as? with
  | none => exact ⟨rfl, fun b _ _ _ => by cases b <;> rfl, fun b _ _ _ => by cases b <;> rfl⟩
  | some name => exact ⟨rfl, fun b _ _ _ => by cases b <;> rfl, fun b _ _ _ => by cases b <;> rfl⟩

theorem binds_join (j : Join) (c : Option Clause) : ∃ c', Binds j.pieces c c' j.bindings := by
  have hpieces : j.pieces = .word " LEFT JOIN " :: .identifier j.table :: aliasPieces j.as? ++
      [.word " ON "] ++ (j.foreign.pieces ++ .word " = " :: j.localKey.pieces ++
        fixedPieces j.fixed?) := by
    simp [Join.pieces]
  have hfixed : Binds (fixedPieces j.fixed?) (some (.join j.table j.name))
      (some (.join j.table j.name)) j.bindings := by
    unfold Join.bindings
    cases j.fixed? with
    | none => exact binds_silent rfl _
    | some fixed =>
      obtain ⟨column, value⟩ := fixed
      exact (binds_comparison _ column .eq value).cons_word (by rfl)
  rw [hpieces]
  -- the columns that are joined by are compared with each other and not with a value
  exact ⟨_, (binds_on j.table j.as? c).append (hfixed.silent_append rfl)⟩

theorem binds_joins (joins : List Join) (c : Option Clause) :
    ∃ c', Binds (joins.flatMap Join.pieces) c c' (joins.flatMap Join.bindings) := by
  induction joins generalizing c with
  | nil => exact ⟨c, binds_silent rfl c⟩
  | cons j joins ih =>
    obtain ⟨c', hj⟩ := binds_join j c
    obtain ⟨c'', hjoins⟩ := ih c'
    exact ⟨c'', hj.append hjoins⟩

theorem binds_source (s : Source) (c : Option Clause) : ∃ c', Binds s.pieces c c' s.bindings := by
  obtain ⟨c', hjoins⟩ := binds_joins s.joins c
  obtain ⟨c'', hwhere⟩ := binds_where s.filter c'
  have hfrom := hjoins.silent_append (by rfl : [.word " FROM ", .identifier s.base].all _ = true)
  exact ⟨c'', hfrom.append hwhere⟩

def pageBindings (p : Page) : List (Site × Value) :=
  [(.limit, .unsigned p.limit), (.offset, .unsigned p.offset)]

theorem binds_records (s : RecordSelect) :
    ∃ c, Binds s.pieces none c (s.source.bindings ++ pageBindings s.page) := by
  obtain ⟨c, hsource⟩ := binds_source s.source none
  have hhead : [.word "SELECT ", .identifier s.source.base, .word ".*"].all Piece.isSilent = true :=
    rfl
  have hkey (o : SortKey) : o.pieces.all Piece.isSilent = true := by
    unfold SortKey.pieces
    cases o.descending <;> rfl
  have horder : (.word " ORDER BY " :: commaSeparated (s.order.map SortKey.pieces)).all
      Piece.isSilent = true := by
    rw [List.all_cons, all_commaSeparated rfl (List.forall_mem_map.2 fun o _ => hkey o)]
    rfl
  exact ⟨c, ((hsource.silent_append hhead).append_silent horder).append (binds_page s.page c)⟩

theorem silent_columns (s : GroupSelect) : ∀ ps ∈ s.columns, ps.all Piece.isSilent = true := by
  have hranks : (s.ranks.flatMap (rankPieces s.status)).all Piece.isSilent = true := by
    rw [List.all_flatMap, List.all_eq_true]
    exact fun _ _ => rfl
  have hcase : s.rankCase.all Piece.isSilent = true := by
    rw [GroupSelect.rankCase, List.all_append, List.all_cons, hranks]
    rfl
  refine forall_columns (P := fun ps => ps.all Piece.isSilent = true) (fun _ => rfl) ?_ rfl
  rw [List.all_append, List.all_cons, hcase]
  rfl

theorem binds_groups (s : GroupSelect) :
    ∃ c, Binds s.pieces none c (s.source.bindings ++ pageBindings s.page) := by
  obtain ⟨c, hsource⟩ := binds_source s.source none
  have hhead : (.word "WITH " :: .identifier groupsName :: .word " AS (" :: .word "SELECT " ::
      commaSeparated s.columns).all Piece.isSilent = true := by
    simp only [List.all_cons, all_commaSeparated rfl (silent_columns s)]
    rfl
  have hcolumn (c : Column) : c.pieces.all Piece.isSilent = true := rfl
  have hgroup : (.word " GROUP BY " :: commaSeparated (s.keys.map Column.pieces)).all
      Piece.isSilent = true := by
    rw [List.all_cons, all_commaSeparated rfl (List.forall_mem_map.2 fun c _ => hcolumn c)]
    rfl
  have hname (o : Output) : [.identifier o.name, .word " ASC"].all Piece.isSilent = true := rfl
  have htail : (.word ") SELECT *, COUNT(*) OVER (  ) AS " :: .identifier totalCountName ::
      .word " FROM " :: .identifier groupsName :: .word " ORDER BY " ::
      commaSeparated (s.dimensions.map fun o => [.identifier o.name, .word " ASC"])).all
      Piece.isSilent = true := by
    simp only [List.all_cons, all_commaSeparated rfl (List.forall_mem_map.2 fun o _ => hname o)]
    rfl
  have h := (((hsource.silent_append hhead).append_silent hgroup).append_silent htail).append
    (binds_page s.page c)
  refine ⟨c, ?_⟩
  simpa [GroupSelect.pieces, GroupSelect.gathering, pageBindings] using h

def Select.bindings : Select → List (Site × Value)
  | .records s => s.source.bindings ++ pageBindings s.page
  | .groups s => s.source.bindings ++ pageBindings s.page

theorem params_select (s : Select) : params s.pieces = s.bindings.map Prod.snd := by
  cases s with
  | records s => obtain ⟨c, h⟩ := binds_records s; exact h.params_eq
  | groups s => obtain ⟨c, h⟩ := binds_groups s; exact h.params_eq

theorem slots_select (b : Backend) (s : Select) :
    slotsFrom [] (scan b (spell b s.pieces).toList) =
      (s.bindings.zipIdx 1).map fun (binding, i) => (some binding.1, b.placeholder i) := by
  rw [scan_spell]
  cases s with
  | records s => obtain ⟨c, h⟩ := binds_records s; exact h.slots_eq b 1 [] rfl
  | groups s => obtain ⟨c, h⟩ := binds_groups s; exact h.slots_eq b 1 [] rfl

theorem sites_select (b : Backend) (s : Select) :
    sites (scan b (spell b s.pieces).toList) = s.bindings.map fun binding => some binding.1 := by
  calc
    sites (scan b (spell b s.pieces).toList)
      = ((s.bindings.zipIdx 1).map Prod.fst).map fun binding => some binding.1 := by
        rw [sites, slots_select, List.map_map, List.map_map]
        rfl
    _ = s.bindings.map fun binding => some binding.1 := by rw [List.zipIdx_map_fst]

theorem placeholders_select (b : Backend) (s : Select) :
    placeholders (scan b (spell b s.pieces).toList) =
      (List.range (params s.pieces).length).map fun i => b.placeholder (i + 1) := by
  calc
    placeholders (scan b (spell b s.pieces).toList)
      = ((s.bindings.zipIdx 1).map Prod.snd).map b.placeholder := by
        rw [placeholders_eq [], slots_select, List.map_map, List.map_map]
        rfl
    _ = (List.range (params s.pieces).length).map fun i => b.placeholder (i + 1) := by
        rw [List.zipIdx_map_snd, params_select, List.length_map, List.range'_eq_map_range,
          List.map_map]
        simp [Function.comp_def, Nat.add_comm]

end FilterSql.Sql

namespace FilterSql

open Sql

namespace Statement

def labelBinding? (schema : Schema) : Dimension × Nat → Option (Site × Value)
  | (.session, _) => none
  | (.tag key, position) =>
    let name := labelName position
    some (.compared (.join schema.labels.table name) ⟨name, schema.labels.keyColumn⟩ .eq,
      .string key)

def bindings (schema : Schema) (q : ResolvedQuery) : List (Site × Value) :=
  q.groupBy.zipIdx.filterMap (labelBinding? schema) ++
    (q.filter.elim [] Condition.leaves).map testBinding ++ pageBindings q.page

theorem relatedJoins_bindings {schema : Schema} {filter : Option ColumnCondition}
    {joins : List Join} (h : relatedJoins schema filter = .ok joins) :
    joins.flatMap Join.bindings = [] := by
  rw [List.flatMap_eq_nil_iff]
  intro j hj
  rw [Join.bindings, fixed?_eq_none_of_mem h hj]

theorem labelJoins_bindings (schema : Schema) (dimensions : List (Dimension × Nat)) :
    (dimensions.filterMap (labelJoin? schema)).flatMap Join.bindings =
      dimensions.filterMap (labelBinding? schema) := by
  induction dimensions with
  | nil => rfl
  | cons d ds ih =>
    obtain ⟨d, position⟩ := d
    cases d with
    | session => exact ih
    | tag key => exact congrArg (_ :: ·) ih

theorem exists_select_of_compile {dialect : Dialect} {schema : Schema} {q : ResolvedQuery}
    {s : Statement} (h : q.compile dialect schema = .ok s) :
    ∃ select : Select, s = ofSelect dialect.backend select ∧
      select.bindings = bindings schema q := by
  obtain ⟨joins, hj, ⟨hg, rfl⟩ | ⟨-, -, -, rfl⟩⟩ := compile_eq_ok_iff.1 h
  · refine ⟨_, rfl, ?_⟩
    simp [Select.bindings, records, Source.bindings, bindings, hg, relatedJoins_bindings hj]
  · refine ⟨_, rfl, ?_⟩
    simp [Select.bindings, groups, gather, Source.bindings, bindings, relatedJoins_bindings hj,
      labelJoins_bindings]

theorem labelBindings_values (schema : Schema) (dimensions : List Dimension) (n : Nat) :
    ((dimensions.zipIdx n).filterMap (labelBinding? schema)).map Prod.snd =
      (dimensions.filterMap Dimension.key?).map .string := by
  induction dimensions generalizing n with
  | nil => rfl
  | cons d ds ih =>
    cases d with
    | session => exact ih (n + 1)
    | tag key => exact congrArg (Value.string key :: ·) (ih (n + 1))

theorem bindings_values {schema : Schema} {filter : Option Filter} {dimensions : List Dimension}
    {page : Page} {q : ResolvedQuery}
    (h : Query.validate schema ⟨filter, dimensions, page⟩ = .ok q) :
    (bindings schema q).map Prod.snd =
      (dimensions.filterMap Dimension.key?).map .string ++
        (filter.elim [] Condition.leaves).map (fun test => .ofLiteral test.value) ++
        [.unsigned page.limit, .unsigned page.offset] := by
  obtain ⟨resolved, hr, -, rfl⟩ := Query.validate_eq_ok_iff.1 h
  have hvalues := congrArg (List.map Value.ofLiteral) (Query.value_resolveFilter hr)
  simp only [List.map_map] at hvalues
  simp only [bindings, List.map_append, labelBindings_values, List.map_map]
  exact congrArg (_ ++ · ++ _) hvalues

end Statement

/-- The parameters of a statement are the keys, the literals and the page of its request, and the
`i`th stands where the text has the `i`th placeholder. -/
theorem Engine.compile_params_placeholders (e : Engine) (r : Request) (s : Statement)
    (h : e.compile r = .ok s) :
    ∃ filter dimensions page q, e.parse r.query = .ok filter ∧
      Dimension.parseList r.groupBy = .ok dimensions ∧
      Page.make r.offset (min r.limit e.maxLimit) = .ok page ∧
      Query.validate e.schema ⟨filter, dimensions, page⟩ = .ok q ∧
      s.params =
        (dimensions.filterMap Dimension.key?).map .string ++
          (filter.elim [] Condition.leaves).map (fun test => .ofLiteral test.value) ++
          [.unsigned (min r.limit e.maxLimit), .unsigned r.offset] ∧
      placeholders (scan e.dialect.backend s.sql.toList) =
        (List.range s.params.length).map (fun i => e.dialect.backend.placeholder (i + 1)) ∧
      s.params = (Statement.bindings e.schema q).map Prod.snd ∧
      sites (scan e.dialect.backend s.sql.toList) =
        (Statement.bindings e.schema q).map fun binding => some binding.1 := by
  obtain ⟨filter, dimensions, page, q, hf, hd, hp, hq, hs⟩ := Engine.compile_eq_ok_iff.1 h
  obtain ⟨select, rfl, hbindings⟩ := Statement.exists_select_of_compile hs
  obtain ⟨hoffset, hlimit, -⟩ := Page.make_eq_ok_iff.1 hp
  have hparams : params select.pieces = (Statement.bindings e.schema q).map Prod.snd := by
    rw [params_select, hbindings]
  refine ⟨filter, dimensions, page, q, hf, hd, hp, hq, ?_, placeholders_select _ select, hparams,
    ?_⟩
  · rw [← hlimit, ← hoffset]
    exact hparams.trans (Statement.bindings_values hq)
  · rw [← hbindings]
    exact sites_select _ select

theorem Engine.compile_params_placeholders_grouped :
    let e := Engine.make .builtin ⟨.postgres, none⟩
    let r : Request :=
      { query := "name = \"$1\" OR duration > 25", groupBy := ["session", "tag:os"]
        offset := 7, limit := 5000 }
    ∃ s, e.compile r = .ok s ∧
      s.params = [.string "os", .string "$1", .int 25, .unsigned 1000, .unsigned 7] ∧
      placeholders (scan .postgres s.sql.toList) = ["$1", "$2", "$3", "$4", "$5"] ∧
      sites (scan .postgres s.sql.toList) =
        [some (.compared (.join "test_result_label" "label_1") ⟨"label_1", "name"⟩ .eq),
          some (.compared .condition ⟨"test_result", "name"⟩ .eq),
          some (.compared .condition ⟨"test_result", "duration"⟩ .gt),
          some .limit, some .offset] := by
  intro e r
  let filter : Filter := .or (.leaf ⟨"name", .eq, .string "$1", ⟨0, 4⟩⟩)
    (.leaf ⟨"duration", .gt, .int 25, ⟨15, 23⟩⟩)
  let page : Page := ⟨7, 1000, by decide⟩
  let q : ResolvedQuery :=
    { filter := some (.or (.leaf ⟨"name", "test_result", "name", .string, .eq, .string "$1"⟩)
        (.leaf ⟨"duration", "test_result", "duration", .number, .gt, .int 25⟩))
      groupBy := [.session, .tag "os"], page := page }
  have hparse : e.parse r.query = .ok (some filter) := by cbv
  have hdimensions : Dimension.parseList r.groupBy = .ok [.session, .tag "os"] := rfl
  have hpage : Page.make r.offset (min r.limit e.maxLimit) = .ok page := rfl
  have hquery : Query.validate e.schema ⟨some filter, [.session, .tag "os"], page⟩ = .ok q := rfl
  obtain ⟨s, hs⟩ := (Statement.exists_compile_iff e.dialect e.schema q).2
    ⟨(Statement.exists_relatedJoins_iff _ _).2 (by decide), .inr (by decide)⟩
  have h := Engine.compile_eq_ok_iff.2 ⟨_, _, _, _, hparse, hdimensions, hpage, hquery, hs⟩
  obtain ⟨_, _, _, _, hf, hd, hp, hq, hparams, hplaceholders, -, hsites⟩ :=
    Engine.compile_params_placeholders e r s h
  cases hparse.symm.trans hf
  cases hdimensions.symm.trans hd
  cases hpage.symm.trans hp
  cases hquery.symm.trans hq
  refine ⟨s, h, hparams, ?_, hsites⟩
  have hspelled : (List.range 5).map (fun i => Backend.postgres.placeholder (i + 1)) =
      ["$1", "$2", "$3", "$4", "$5"] := by decide
  rw [hparams] at hplaceholders
  exact hplaceholders.trans hspelled

end FilterSql
