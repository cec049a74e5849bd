import FilterSql.Proofs.Sql.Where
import Mathlib

namespace FilterSql.Sql

open Grammar

/-- Read from the left, nothing that `f` writes is taken for anything else, if what stands behind it
allows. -/
def Decodes {α σ : Type} (f : α → List σ) (E : List σ → Prop) : Prop :=
  ∀ ⦃a a' x x'⦄, E x → E x' → f a ++ x = f a' ++ x' → a = a' ∧ x = x'

/-- A list is decoded item by item, if its end is not taken for one more item. -/
theorem Decodes.flatMap {α σ : Type} {f : α → List σ} {E E' : List σ → Prop} (h : Decodes f E)
    (hnext : ∀ a x, E (f a ++ x)) (hlast : ∀ x, E' x → E x) (hend : ∀ a x, ¬E' (f a ++ x)) :
    Decodes (fun as : List α => as.flatMap f) E' := by
  have hbehind (as : List α) {x : List σ} (hx : E' x) : E (as.flatMap f ++ x) := by
    cases as with
    | nil => exact hlast x hx
    | cons a as =>
      rw [List.flatMap_cons, List.append_assoc]
      exact hnext a _
  intro as as' x x' hx hx' e
  induction as generalizing as' with
  | nil =>
    cases as' with
    | nil => exact ⟨rfl, e⟩
    | cons a' as' =>
      have e : x = f a' ++ (as'.flatMap f ++ x') := by simpa using e
      exact absurd (e ▸ hx) (hend a' _)
  | cons a as ih =>
    cases as' with
    | nil =>
      have e : f a ++ (as.flatMap f ++ x) = x' := by simpa using e
      exact absurd (e ▸ hx') (hend a _)
    | cons a' as' =>
      simp only [List.flatMap_cons, List.append_assoc] at e
      obtain ⟨rfl, e₁⟩ := h (hbehind as hx) (hbehind as' hx') e
      obtain ⟨rfl, rfl⟩ := ih e₁
      exact ⟨rfl, rfl⟩

theorem decodes_escapeCharacter : Decodes Backend.escapeCharacter fun _ => True := by
  intro c c' x x' _ _ e
  rcases escapeCharacter_cases c with ⟨d, hc, hd⟩ | ⟨hc, hne, -⟩ <;>
    rcases escapeCharacter_cases c' with ⟨d', hc', hd'⟩ | ⟨hc', hne', -⟩ <;>
    simp only [hc, hc', List.cons_append, List.nil_append, List.cons.injEq, true_and] at e
  · exact ⟨by rw [← hd, ← hd', e.1], e.2⟩
  · exact absurd e.1.symm hne'
  · exact absurd e.1 hne
  · exact e

theorem decodes_doubled :
    Decodes (fun c : Char => if c = '\x27' then ['\x27', '\x27'] else [c]) fun _ => True := by
  intro c c' x x' _ _ e
  dsimp only at e
  split at e <;> split at e <;> grind

theorem rawConstant_injective (b : Backend) : Function.Injective (rawConstant b) := by
  have hchars {f : Char → List Char} (hf : Decodes f fun _ => True) (hne : ∀ c, f c ≠ []) :
      Function.Injective fun s : String => s.toList.flatMap f := by
    intro s s' e
    have hlist : Decodes (fun cs : List Char => cs.flatMap f) (· = []) :=
      hf.flatMap (fun _ _ => trivial) (fun _ _ => trivial) fun c x => by simp [hne c]
    exact String.toList_inj.1 (hlist rfl rfl (congrArg (· ++ []) e)).1
  have hescape (c : Char) : Backend.escapeCharacter c ≠ [] := by
    rcases escapeCharacter_cases c with ⟨d, hc, -⟩ | ⟨hc, -⟩ <;> simp [hc]
  cases b with
  | postgres => exact hchars decodes_escapeCharacter hescape
  | mysql => exact hchars decodes_escapeCharacter hescape
  | sqlite => exact hchars decodes_doubled fun c => by split <;> simp

section Trees

variable (b : Backend)

theorem signs_column (table name : String) :
    signs b [.identifier table, .word ".", .identifier name] =
      [.inl (.identifier table), .inl (.symbol '.'), .inl (.identifier name)] := by
  cases b <;> rfl

theorem decodes_column :
    Decodes (fun c : Column => signs b [.identifier c.table, .word ".", .identifier c.name])
      fun _ => True := by
  rintro ⟨table, name⟩ ⟨table', name'⟩ x x' - - e
  simp only [signs_column, List.cons_append, List.nil_append, List.cons.injEq, Sum.inl.injEq,
    Lexeme.identifier.injEq, true_and] at e
  obtain ⟨rfl, rfl, e⟩ := e
  exact ⟨rfl, e⟩

theorem decodes_term : Decodes (fun t : Term => signs b t.pieces) fun _ => True := by
  intro t t' x x' _ _ e
  have hbound (v : Value) : signs b [.bound v] = [.inr v] := rfl
  have hconstant (s : String) :
      signs b [.constant s] = [.inl (.constant (String.ofList (rawConstant b s)))] := rfl
  cases t <;> cases t'
  case column.column c c' =>
    obtain ⟨rfl, rfl⟩ := decodes_column b trivial trivial e
    exact ⟨rfl, rfl⟩
  all_goals
    simp only [Term.pieces, signs_column, hbound, hconstant, List.cons_append, List.nil_append,
      List.cons.injEq, Sum.inl.injEq, Sum.inr.injEq, reduceCtorEq, false_and,
      Lexeme.constant.injEq, String.ofList_inj] at e
  case bound.bound v v' => exact ⟨congrArg _ e.1, e.2⟩
  case constant.constant s s' => exact ⟨congrArg _ (rawConstant_injective b e.1), e.2⟩

theorem signs_comparing (c : Comparing) :
    signs b c.pieces =
      signs b c.left.pieces ++ .inl (.comparison c.op) :: signs b c.right.pieces := by
  rw [comparing_pieces_eq, signs_append, signs_cons, Piece.signs, scan_comparisonWord]
  rfl

theorem decodes_comparing : Decodes (fun c : Comparing => signs b c.pieces) fun _ => True := by
  rintro ⟨left, op, right⟩ ⟨left', op', right'⟩ x x' - - e
  simp only [signs_comparing, List.append_assoc, List.cons_append] at e
  obtain ⟨rfl, e₁⟩ := decodes_term b trivial trivial e
  obtain ⟨hop, e₂⟩ := List.cons.inj e₁
  obtain ⟨rfl, rfl⟩ := decodes_term b trivial trivial e₂
  cases hop
  exact ⟨rfl, rfl⟩

def formulaScript : Script Sign Comparing where
  mark? := Sum.elim Lexeme.mark? fun _ => none
  IsTest w c := w = signs b c.pieces
  test_head := by
    rintro _ c rfl
    rw [signs_comparing]
    cases c.left with
    | column column => exact ⟨_, _, congrArg (· ++ _) (signs_column b _ _), rfl⟩
    | bound v => exact ⟨_, _, rfl, rfl⟩
    | constant s => exact ⟨_, _, rfl, rfl⟩
  test_unique := by
    rintro _ _ x x' c c' rfl rfl e
    obtain ⟨rfl, -⟩ := decodes_comparing b trivial trivial e
    exact ⟨rfl, rfl⟩

theorem reads_signs : Reads (formulaScript b) fun _ => signs b where
  append i ps qs := ⟨i, signs_append b ps qs⟩
  word i m := by cases m <;> cases b <;> exact ⟨_, rfl, rfl⟩

theorem derives_formula (f : Formula) :
    Derives (formulaScript b) (outerPhrase f) (signs b (formulaPieces f)) f := by
  simpa using (reads_signs b).derives id id (fun _ c => rfl) 1 f

theorem decodes_formula : Decodes (fun f : Formula => signs b (formulaPieces f))
    (Ends (formulaScript b) .disjunction) := by
  intro f f' x x' hx hx' e
  obtain ⟨hsigns, rfl⟩ := (toDisjunction_of_outerPhrase (derives_formula b f)).unique
    (toDisjunction_of_outerPhrase (derives_formula b f')) e hx hx'
  exact ⟨rfl, List.append_cancel_left e⟩

def Heads (x : Lexeme) (xs : List Sign) : Prop := xs.head? = some (.inl x)

@[simp] theorem heads_cons {x y : Lexeme} {xs : List Sign} :
    Heads x (.inl y :: xs) ↔ y = x := by
  simp [Heads]

theorem Heads.unique {x y : Lexeme} {xs : List Sign} (hx : Heads x xs) (hy : Heads y xs) :
    x = y :=
  Sum.inl.inj (Option.some.inj (hx.symm.trans hy))

variable {b} in
theorem Heads.ends {x : Lexeme} {xs : List Sign} (h : Heads x xs) (hx : x.mark? = none) :
    Ends (formulaScript b) .disjunction xs := by
  have hmark (m : Mark) : Avoids (formulaScript b) m xs := by
    intro s hs
    obtain rfl : s = .inl x := Option.some.inj (hs.symm.trans h)
    have hnone : (formulaScript b).mark? (.inl x) = none := hx
    simp [hnone]
  exact ⟨hmark .and, hmark .or⟩

theorem signs_leftJoin (table : String) (as? : Option String) (on : Formula) :
    signs b (LeftJoin.pieces ⟨table, as?, on⟩) = ([.inl (.word "LEFT"), .inl (.word "JOIN"),
      .inl (.identifier table)] : List Sign) ++ (as?.elim [] fun name => [.inl (.word "AS"),
      .inl (.identifier name)]) ++ .inl (.word "ON") :: signs b (formulaPieces on) := by
  cases as? <;> cases b <;> rfl

theorem decodes_leftJoin :
    Decodes (fun j : LeftJoin => signs b j.pieces) (Ends (formulaScript b) .disjunction) := by
  rintro ⟨table, as?, on⟩ ⟨table', as?', on'⟩ x x' hx hx' e
  simp only [signs_leftJoin, List.cons_append, List.nil_append, List.append_assoc,
    List.cons.injEq, Sum.inl.injEq, Lexeme.identifier.injEq, true_and] at e
  obtain ⟨rfl, e⟩ := e
  cases as? <;> cases as?' <;>
    simp only [Option.elim_none, Option.elim_some, List.cons_append, List.nil_append,
      List.cons.injEq, Sum.inl.injEq, Lexeme.word.injEq, Lexeme.identifier.injEq, true_and,
      String.reduceEq, false_and] at e
  case none.none =>
    obtain ⟨rfl, rfl⟩ := decodes_formula b hx hx' e
    exact ⟨rfl, rfl⟩
  case some.some name name' =>
    obtain ⟨rfl, e⟩ := e
    obtain ⟨rfl, rfl⟩ := decodes_formula b hx hx' e
    exact ⟨rfl, rfl⟩

theorem signs_flatMap {α : Type} (f : α → List Piece) (as : List α) :
    signs b (as.flatMap f) = as.flatMap fun a => signs b (f a) := List.flatMap_assoc ..

theorem signs_tables (base : String) (joins : List LeftJoin) (filter : Option Formula) :
    signs b (Tables.pieces ⟨base, joins, filter⟩) = .inl (.word "FROM") ::
      .inl (.identifier base) :: ((joins.flatMap fun j => signs b j.pieces) ++
        filter.elim [] fun f => .inl (.word "WHERE") :: signs b (formulaPieces f)) := by
  have hfrom (ps : List Piece) : signs b (.word " FROM " :: .identifier base :: ps) =
      .inl (.word "FROM") :: .inl (.identifier base) :: signs b ps := by
    cases b <;> rfl
  have hwhere (ps : List Piece) :
      signs b (.word " WHERE " :: ps) = .inl (.word "WHERE") :: signs b ps := by
    cases b <;> rfl
  rw [Tables.pieces, List.cons_append, List.cons_append, hfrom, signs_append, signs_flatMap]
  cases filter with
  | none => rfl
  | some f => rw [Option.elim_some, hwhere]; rfl

theorem decodes_tables {word : String} (hmark : (Lexeme.word word).mark? = none)
    (hleft : word ≠ "LEFT") (hwhere : word ≠ "WHERE") :
    Decodes (fun t : Tables => signs b t.pieces) (Heads (.word word)) := by
  -- the word at the head tells what comes: LEFT one more join, WHERE the filter, `word` the end
  have hjoin (j : LeftJoin) (x : List Sign) : Heads (.word "LEFT") (signs b j.pieces ++ x) := by
    rw [signs_leftJoin]
    exact heads_cons.2 rfl
  have hjoins : Decodes (fun joins : List LeftJoin => joins.flatMap fun j => signs b j.pieces)
      fun x => Heads (.word "WHERE") x ∨ Heads (.word word) x := by
    refine (decodes_leftJoin b).flatMap (fun j x => (hjoin j x).ends rfl) (fun x hx => ?_)
      fun j x hx => ?_
    · exact hx.elim (·.ends rfl) (·.ends hmark)
    · rcases hx with hx | hx
      · exact absurd ((hjoin j x).unique hx) (by decide)
      · exact hleft (Lexeme.word.inj ((hjoin j x).unique hx)).symm
  have hfilter (filter : Option Formula) {x : List Sign} (hx : Heads (.word word) x) :
      Heads (.word "WHERE") ((filter.elim [] fun f =>
          .inl (.word "WHERE") :: signs b (formulaPieces f)) ++ x) ∨
        Heads (.word word) ((filter.elim [] fun f =>
          .inl (.word "WHERE") :: signs b (formulaPieces f)) ++ x) := by
    cases filter with
    | none => exact .inr hx
    | some f => exact .inl rfl
  rintro ⟨base, joins, filter⟩ ⟨base', joins', filter'⟩ x x' hx hx' e
  simp only [signs_tables, List.cons_append, List.append_assoc, List.cons.injEq, Sum.inl.injEq,
    Lexeme.identifier.injEq, true_and] at e
  obtain ⟨rfl, e⟩ := e
  obtain ⟨rfl, e₁⟩ := hjoins (hfilter filter hx) (hfilter filter' hx') e
  cases filter <;> cases filter' <;>
    simp only [Option.elim_none, Option.elim_some, List.nil_append, List.cons_append,
      List.cons.injEq, true_and] at e₁
  case none.none => exact ⟨rfl, e₁⟩
  case none.some f' => simp [e₁, hwhere.symm] at hx
  case some.none f => simp [← e₁, hwhere.symm] at hx'
  case some.some f f' =>
    obtain ⟨rfl, rfl⟩ := decodes_formula b (hx.ends hmark) (hx'.ends hmark) e₁
    exact ⟨rfl, rfl⟩

theorem signs_branch (c : Comparing) (n : Nat) :
    signs b (branchPieces (c, n)) = .inl (.word "WHEN") :: .inl (.symbol '(') ::
      (signs b c.pieces ++
        ([.inl (.symbol ')'), .inl (.word "THEN"), .inl (.number (toString n))] : List Sign)) := by
  have hwhen (ps : List Piece) : signs b (.word " WHEN (" :: ps) =
      .inl (.word "WHEN") :: .inl (.symbol '(') :: signs b ps := by
    cases b <;> rfl
  have hthen : signs b [.word ") THEN ", .number n] =
      [.inl (.symbol ')'), .inl (.word "THEN"), .inl (.number (toString n))] := by
    cases b <;> rfl
  rw [branchPieces, List.cons_append, hwhen, signs_append, hthen]

theorem decodes_branch : Decodes (fun br : Comparing × Nat => signs b (branchPieces br))
    fun _ => True := by
  rintro ⟨c, n⟩ ⟨c', n'⟩ x x' - - e
  simp only [signs_branch, List.cons_append, List.append_assoc, List.nil_append, List.cons.injEq,
    true_and] at e
  obtain ⟨rfl, e₁⟩ := decodes_comparing b trivial trivial e
  simp only [List.cons.injEq, Sum.inl.injEq, Lexeme.number.injEq, true_and] at e₁
  obtain ⟨hn, rfl⟩ := e₁
  obtain rfl := Nat.repr_injective hn
  exact ⟨rfl, rfl⟩

theorem decodes_branches :
    Decodes (fun branches : List (Comparing × Nat) => signs b (branches.flatMap branchPieces))
      (Heads (.word "ELSE")) := by
  simp only [signs_flatMap]
  refine (decodes_branch b).flatMap (fun _ _ => trivial) (fun _ _ => trivial) ?_
  rintro ⟨c, n⟩ x hx
  simp [signs_branch] at hx

theorem signs_output_column (c : Column) (name : String) :
    signs b (outputPieces (.column c, name)) =
      signs b [.identifier c.table, .word ".", .identifier c.name] ++
        ([.inl (.word "AS"), .inl (.identifier name)] : List Sign) := by
  cases b <;> rfl

theorem signs_output_count (c : Column) (name : String) :
    signs b (outputPieces (.count c, name)) = .inl (.word "COUNT") :: .inl (.symbol '(') ::
      (signs b [.identifier c.table, .word ".", .identifier c.name] ++
        ([.inl (.symbol ')'), .inl (.word "AS"), .inl (.identifier name)] : List Sign)) := by
  cases b <;> rfl

theorem signs_output_maxCase (branches : List (Comparing × Nat)) (otherwise : Nat)
    (name : String) : signs b (outputPieces (.maxCase branches otherwise, name)) =
      ([.inl (.word "MAX"), .inl (.symbol '('), .inl (.symbol '('),
        .inl (.word "CASE")] : List Sign) ++
        (signs b (branches.flatMap branchPieces) ++
          ([.inl (.word "ELSE"), .inl (.number (toString otherwise)), .inl (.word "END"),
            .inl (.symbol ')'), .inl (.symbol ')'), .inl (.word "AS"),
            .inl (.identifier name)] : List Sign)) := by
  have hcase (ps : List Piece) : signs b (.word "MAX(" :: .word "(CASE" :: ps) =
      ([.inl (.word "MAX"), .inl (.symbol '('), .inl (.symbol '('),
        .inl (.word "CASE")] : List Sign) ++
        signs b ps := by
    cases b <;> rfl
  have helse : signs b [.word " ELSE ", .number otherwise, .word " END)", .word ") AS ",
      .identifier name] = [.inl (.word "ELSE"), .inl (.number (toString otherwise)),
        .inl (.word "END"), .inl (.symbol ')'), .inl (.symbol ')'), .inl (.word "AS"),
        .inl (.identifier name)] := by
    cases b <;> rfl
  have hpieces : outputPieces (.maxCase branches otherwise, name) = .word "MAX(" ::
      .word "(CASE" :: (branches.flatMap branchPieces ++ [.word " ELSE ", .number otherwise,
        .word " END)", .word ") AS ", .identifier name]) := by
    simp [outputPieces, casePieces]
  rw [hpieces, hcase, signs_append, helse]

theorem decodes_output : Decodes (fun output : Projection × String => signs b (outputPieces output))
    fun _ => True := by
  rintro ⟨p, name⟩ ⟨p', name'⟩ x x' - - e
  cases p <;> cases p' <;>
    simp only [signs_output_column, signs_output_count, signs_output_maxCase, List.cons_append,
      List.append_assoc, List.nil_append, List.cons.injEq, true_and] at e
  case column.column c c' =>
    obtain ⟨rfl, e₁⟩ := decodes_column b trivial trivial e
    simp only [List.cons.injEq, Sum.inl.injEq, Lexeme.identifier.injEq, true_and] at e₁
    obtain ⟨rfl, rfl⟩ := e₁
    exact ⟨rfl, rfl⟩
  case count.count c c' =>
    obtain ⟨rfl, e₁⟩ := decodes_column b trivial trivial e
    simp only [List.cons.injEq, Sum.inl.injEq, Lexeme.identifier.injEq, true_and] at e₁
    obtain ⟨rfl, rfl⟩ := e₁
    exact ⟨rfl, rfl⟩
  case maxCase.maxCase branches n branches' n' =>
    obtain ⟨rfl, e₁⟩ := decodes_branches b (heads_cons.2 rfl) (heads_cons.2 rfl) e
    simp only [List.cons.injEq, Sum.inl.injEq, Lexeme.number.injEq, Lexeme.identifier.injEq,
      true_and] at e₁
    obtain ⟨hn, rfl, rfl⟩ := e₁
    obtain rfl := Nat.repr_injective hn
    exact ⟨rfl, rfl⟩
  all_goals simp [signs_column] at e

section Lists

variable {α : Type} {f : α → List Piece}

theorem signs_intercalate_cons (a : α) (as : List α) :
    signs b ([.word ", "].intercalate ((a :: as).map f)) =
      signs b (f a) ++ as.flatMap fun a => .inl (.symbol ',') :: signs b (f a) := by
  have hcomma (ps : List Piece) :
      signs b (.word ", " :: ps) = .inl (.symbol ',') :: signs b ps := by
    cases b <;> rfl
  induction as generalizing a with
  | nil => simp
  | cons a' as ih =>
    rw [List.map_cons, List.map_cons, List.intercalate_cons_cons, ← List.map_cons, signs_append,
      signs_append, ih, List.flatMap_cons, List.append_assoc]
    exact congrArg (_ ++ ·) (congrArg (· ++ _) (hcomma []))

variable {b} in
theorem Decodes.intercalate {E : List Sign → Prop}
    (h : Decodes (fun a => signs b (f a)) fun _ => True)
    (hcomma : ∀ x, ¬E (.inl (.symbol ',') :: x)) (hend : ∀ a x, ¬E (signs b (f a) ++ x)) :
    Decodes (fun as : List α => signs b ([.word ", "].intercalate (as.map f))) E := by
  have hitem : Decodes (fun a => .inl (.symbol ',') :: signs b (f a)) fun _ => True := by
    intro a a' x x' hx hx' e
    exact h hx hx' (List.cons.inj e).2
  have hitems := hitem.flatMap (fun _ _ => trivial) (fun _ _ => trivial) fun a x => hcomma _
  have hnil : signs b ([.word ", "].intercalate (([] : List α).map f)) = [] := rfl
  intro as as' x x' hx hx' e
  cases as <;> cases as' <;>
    simp only [hnil, signs_intercalate_cons, List.nil_append, List.append_assoc] at e
  case nil.nil => exact ⟨rfl, e⟩
  case nil.cons a' as' => exact absurd (e ▸ hx) (hend a' _)
  case cons.nil a as => exact absurd (e ▸ hx') (hend a _)
  case cons.cons a as a' as' =>
    obtain ⟨rfl, e₁⟩ := h trivial trivial e
    obtain ⟨rfl, rfl⟩ := hitems hx hx' e₁
    exact ⟨rfl, rfl⟩

end Lists

theorem signs_gathering (outputs : List (Projection × String)) (tables : Tables)
    (groupBy : List Column) : signs b (Gathering.pieces ⟨outputs, tables, groupBy⟩) =
      .inl (.word "SELECT") :: (signs b ([.word ", "].intercalate (outputs.map outputPieces)) ++
        (signs b tables.pieces ++ .inl (.word "GROUP") :: .inl (.word "BY") ::
          signs b ([.word ", "].intercalate (groupBy.map fun c =>
            [.identifier c.table, .word ".", .identifier c.name])))) := by
  have hselect (ps : List Piece) :
      signs b (.word "SELECT " :: ps) = .inl (.word "SELECT") :: signs b ps := by
    cases b <;> rfl
  have hgroup (ps : List Piece) : signs b (.word " GROUP BY " :: ps) =
      .inl (.word "GROUP") :: .inl (.word "BY") :: signs b ps := by
    cases b <;> rfl
  rw [Gathering.pieces, List.cons_append, List.cons_append, hselect, List.append_assoc,
    signs_append, signs_append, hgroup]

theorem decodes_gathering :
    Decodes (fun g : Gathering => signs b g.pieces) (Heads (.symbol ')')) := by
  have houtputs : Decodes (fun outputs : List (Projection × String) =>
      signs b ([.word ", "].intercalate (outputs.map outputPieces))) (Heads (.word "FROM")) := by
    refine (decodes_output b).intercalate (fun x hx => by simp at hx) ?_
    rintro ⟨p, name⟩ x hx
    cases p <;>
      simp [signs_output_column, signs_output_count, signs_output_maxCase, signs_column] at hx
  have hgroupBy : Decodes (fun groupBy : List Column => signs b ([.word ", "].intercalate
      (groupBy.map fun c => [.identifier c.table, .word ".", .identifier c.name])))
      (Heads (.symbol ')')) :=
    (decodes_column b).intercalate (fun x hx => by simp at hx)
      fun c x hx => by simp [signs_column] at hx
  have hfrom (t : Tables) (x : List Sign) : Heads (.word "FROM") (signs b t.pieces ++ x) := by
    rw [signs_tables]
    exact heads_cons.2 rfl
  rintro ⟨outputs, tables, groupBy⟩ ⟨outputs', tables', groupBy'⟩ x x' hx hx' e
  simp only [signs_gathering, List.cons_append, List.append_assoc, List.cons.injEq, true_and] at e
  obtain ⟨rfl, e₁⟩ := houtputs (hfrom tables _) (hfrom tables' _) e
  obtain ⟨rfl, e₂⟩ := decodes_tables b rfl (by decide) (by decide) (heads_cons.2 rfl)
    (heads_cons.2 rfl) e₁
  simp only [List.cons.injEq, true_and] at e₂
  obtain ⟨rfl, rfl⟩ := hgroupBy hx hx' e₂
  exact ⟨rfl, rfl⟩

theorem signs_page (limit offset : UInt64) :
    signs b [.word " LIMIT ", .bound (.unsigned limit), .word " OFFSET ",
      .bound (.unsigned offset)] = [.inl (.word "LIMIT"), .inr (.unsigned limit),
        .inl (.word "OFFSET"), .inr (.unsigned offset)] := by
  cases b <;> rfl

theorem signs_query (name : String) (body : Gathering) (total source : String)
    (order : List String) (limit offset : UInt64) :
    signs b (PagedQuery.pieces ⟨name, body, total, source, order, limit, offset⟩) =
      ([.inl (.word "WITH"), .inl (.identifier name), .inl (.word "AS"),
        .inl (.symbol '(')] : List Sign) ++
        (signs b body.pieces ++ (([.inl (.symbol ')'), .inl (.word "SELECT"), .inl (.symbol '*'),
          .inl (.symbol ','), .inl (.word "COUNT"), .inl (.symbol '('), .inl (.symbol '*'),
          .inl (.symbol ')'), .inl (.word "OVER"), .inl (.symbol '('), .inl (.symbol ')'),
          .inl (.word "AS"), .inl (.identifier total), .inl (.word "FROM"),
          .inl (.identifier source), .inl (.word "ORDER"), .inl (.word "BY")] : List Sign) ++
        (signs b ([.word ", "].intercalate (order.map fun name =>
          [.identifier name, .word " ASC"])) ++ ([.inl (.word "LIMIT"), .inr (.unsigned limit),
          .inl (.word "OFFSET"), .inr (.unsigned offset)] : List Sign)))) := by
  have hwith (ps : List Piece) :
      signs b (.word "WITH " :: .identifier name :: .word " AS (" :: ps) =
      ([.inl (.word "WITH"), .inl (.identifier name), .inl (.word "AS"),
        .inl (.symbol '(')] : List Sign) ++
        signs b ps := by
    cases b <;> rfl
  have htotal (ps : List Piece) : signs b (.word ") SELECT *, COUNT(*) OVER (  ) AS " ::
      .identifier total :: .word " FROM " :: .identifier source :: .word " ORDER BY " :: ps) =
      ([.inl (.symbol ')'), .inl (.word "SELECT"), .inl (.symbol '*'),
        .inl (.symbol ','), .inl (.word "COUNT"), .inl (.symbol '('), .inl (.symbol '*'),
        .inl (.symbol ')'), .inl (.word "OVER"), .inl (.symbol '('), .inl (.symbol ')'),
        .inl (.word "AS"), .inl (.identifier total), .inl (.word "FROM"),
        .inl (.identifier source), .inl (.word "ORDER"), .inl (.word "BY")] : List Sign) ++
          signs b ps := by
    cases b <;> rfl
  simp only [PagedQuery.pieces, List.cons_append, List.append_assoc]
  rw [hwith, signs_append, htotal, signs_append, signs_page]
  rfl

theorem query_eq_of_signs_eq {q r : PagedQuery} (e : signs b q.pieces = signs b r.pieces) :
    q = r := by
  have hname (name : String) : signs b [.identifier name, .word " ASC"] =
      [.inl (.identifier name), .inl (.word "ASC")] := by
    cases b <;> rfl
  have horder : Decodes (fun order : List String => signs b ([.word ", "].intercalate
      (order.map fun name => [.identifier name, .word " ASC"]))) (Heads (.word "LIMIT")) := by
    refine Decodes.intercalate ?_ (fun x hx => by simp at hx) fun name x hx => by simp [hname] at hx
    intro name name' x x' _ _ e
    simpa [hname] using e
  obtain ⟨name, body, total, source, order, limit, offset⟩ := q
  obtain ⟨name', body', total', source', order', limit', offset'⟩ := r
  simp only [signs_query, List.cons_append, List.nil_append, List.cons.injEq, Sum.inl.injEq,
    Lexeme.identifier.injEq, true_and] at e
  obtain ⟨rfl, e₁⟩ := e
  obtain ⟨rfl, e₂⟩ := decodes_gathering b (heads_cons.2 rfl) (heads_cons.2 rfl) e₁
  simp only [List.cons.injEq, Sum.inl.injEq, Lexeme.identifier.injEq, true_and] at e₂
  obtain ⟨rfl, rfl, e₃⟩ := e₂
  obtain ⟨rfl, e₄⟩ := horder (heads_cons.2 rfl) (heads_cons.2 rfl) e₃
  simp only [List.cons.injEq, Sum.inr.injEq, Value.unsigned.injEq, true_and, and_true] at e₄
  obtain ⟨rfl, rfl⟩ := e₄
  rfl

end Trees

theorem query_eq_of_spell_eq {b : Backend} {q r : PagedQuery}
    (h : spell b q.pieces = spell b r.pieces) (hp : params q.pieces = params r.pieces) : q = r := by
  apply query_eq_of_signs_eq b
  rw [← (recovered_query q).fill_scan, ← (recovered_query r).fill_scan, h, hp]

theorem written_iff (b : Backend) (s : GroupSelect) (q : PagedQuery) :
    spell b q.pieces = (Statement.ofSelect b (.groups s)).sql ∧
      params q.pieces = (Statement.ofSelect b (.groups s)).params ↔ q = s.query := by
  have hpieces : (Select.groups s).pieces = s.query.pieces := (query_pieces s).symm
  simp only [Statement.ofSelect, hpieces]
  constructor
  · rintro ⟨hsql, hparams⟩
    exact query_eq_of_spell_eq hsql hparams
  · rintro rfl
    exact ⟨rfl, rfl⟩

end FilterSql.Sql
