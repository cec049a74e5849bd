import FilterSql.Proofs.Sql.Listing
import FilterSql.Schema.Builtin

namespace FilterSql.Sql

def isWordCharacter (c : Char) : Bool :=
  c.isUpper || [' ', '.', ',', '(', ')', '*', '=', '<', '>'].contains c

/-- A word has capitals, blanks and punctuation only; anything may stand in the other pieces. -/
def Piece.isProper : Piece → Bool
  | .word text => text.toList.all isWordCharacter
  | _ => true

def Lexeme.isShared : Lexeme → Bool
  | .constant _ => false
  | .placeholder _ => false
  | .unclosed => false
  | _ => true

def Mode.isBare : Mode → Bool
  | .between => true
  | .word _ => true
  | .comparison _ => true
  | .symbol _ => true
  | _ => false

section Words

variable (b b' : Backend) {c : Char} {m : Mode}

theorem isDigit_eq_false (hc : isWordCharacter c = true) : c.isDigit = false := by
  rw [Bool.eq_false_iff, Ne, Char.isDigit_iff_toNat]
  change ¬(48 ≤ c.toNat ∧ c.toNat ≤ 57)
  rcases Bool.or_eq_true_iff.1 hc with h | h
  · have hupper : 65 ≤ c.toNat ∧ c.toNat ≤ 90 := of_decide_eq_true h
    omega
  · simp only [List.contains_iff_mem, List.mem_cons, List.not_mem_nil, or_false] at h
    rcases h with rfl | rfl | rfl | rfl | rfl | rfl | rfl | rfl | rfl <;> decide

theorem first_bare (hc : isWordCharacter c = true) :
    Mode.first b c = Mode.first b' c ∧ (Mode.first b c).isBare = true := by
  have hmark (b : Backend) : c ≠ b.quoteMark := by rintro rfl; cases b <;> cases hc
  have hsign (b : Backend) : c ≠ placeholderSign b := by rintro rfl; cases b <;> cases hc
  have hapostrophe : c ≠ '\x27' := by rintro rfl; cases hc
  simp only [Mode.first, hmark, hsign, hapostrophe, isDigit_eq_false hc, if_false,
    Bool.false_eq_true, true_and]
  repeat' split
  all_goals rfl

theorem extend?_bare (hm : m.isBare = true) (hc : isWordCharacter c = true) :
    m.extend? b c = m.extend? b' c ∧ ∀ m' ∈ m.extend? b c, m'.isBare = true := by
  have hapostrophe : c ≠ '\x27' := by rintro rfl; cases hc
  cases m with
  | between => exact ⟨rfl, by simp [Mode.extend?]⟩
  | symbol _ => exact ⟨rfl, by simp [Mode.extend?]⟩
  | word text =>
    simp only [Mode.extend?, hapostrophe, and_false, if_false, true_and]
    split <;> simp [Mode.isBare]
  | comparison op =>
    refine ⟨by cases op <;> rfl, ?_⟩
    cases op <;> simp only [Mode.extend?] <;> (repeat' split) <;> simp [Mode.isBare]
  | _ => cases hm

theorem finish_bare (hm : m.isBare = true) : m.finish.all Lexeme.isShared = true := by
  cases m <;> first | rfl | cases hm

theorem scanFrom_bare {cs : List Char} (hm : m.isBare = true)
    (hcs : ∀ c ∈ cs, isWordCharacter c = true) :
    scanFrom b m cs = scanFrom b' m cs ∧ (scanFrom b m cs).all Lexeme.isShared = true := by
  induction cs generalizing m with
  | nil => exact ⟨rfl, finish_bare hm⟩
  | cons c cs ih =>
    obtain ⟨hc, hcs⟩ := List.forall_mem_cons.1 hcs
    obtain ⟨hextend, hbare⟩ := extend?_bare b b' hm hc
    obtain ⟨hfirst, hfirstBare⟩ := first_bare b b' hc
    simp only [scanFrom, ← hextend]
    cases h : m.extend? b c with
    | some m' => exact ih (hbare m' h) hcs
    | none =>
      obtain ⟨heq, hshared⟩ := ih hfirstBare hcs
      rw [← hfirst, List.all_append, finish_bare hm, hshared]
      exact ⟨congrArg (m.finish ++ ·) heq, rfl⟩

end Words

/-- Units that stand side by side in what two backends read: the same unit, or a constant that both
have escaped, or a placeholder with the same number. The first placeholder has the number
`index`. -/
inductive Matched (b b' : Backend) : Nat → List Lexeme → List Lexeme → Prop
  | nil {index : Nat} : Matched b b' index [] []
  | shared {index : Nat} {x : Lexeme} {xs ys : List Lexeme} :
      x.isShared = true → Matched b b' index xs ys → Matched b b' index (x :: xs) (x :: ys)
  | constant {index : Nat} {xs ys : List Lexeme} (s : String) : Matched b b' index xs ys →
      Matched b b' index (.constant (String.ofList (rawConstant b s)) :: xs)
        (.constant (String.ofList (rawConstant b' s)) :: ys)
  | placeholder {index : Nat} {xs ys : List Lexeme} : Matched b b' (index + 1) xs ys →
      Matched b b' index (.placeholder (b.placeholder index) :: xs)
        (.placeholder (b'.placeholder index) :: ys)

section Units

variable {b b' : Backend}

theorem Matched.append_shared {index : Nat} {us xs ys : List Lexeme}
    (hu : us.all Lexeme.isShared = true) (h : Matched b b' index xs ys) :
    Matched b b' index (us ++ xs) (us ++ ys) := by
  induction us with
  | nil => exact h
  | cons u us ih =>
    rw [List.all_cons, Bool.and_eq_true] at hu
    exact .shared hu.1 (ih hu.2)

theorem matched_lexemesFrom {ps : List Piece} (h : ps.all Piece.isProper = true) (index : Nat) :
    Matched b b' index (lexemesFrom b index ps) (lexemesFrom b' index ps) := by
  induction ps generalizing index with
  | nil => exact .nil
  | cons p ps ih =>
    rw [List.all_cons, Bool.and_eq_true] at h
    cases p with
    | word text =>
      obtain ⟨heq, hshared⟩ := scanFrom_bare b b' (m := .between) rfl (List.all_eq_true.1 h.1)
      rw [lexemesFrom_word, lexemesFrom_word, scan, scan, ← heq]
      exact (ih h.2 index).append_shared hshared
    | identifier name => exact .shared rfl (ih h.2 index)
    | constant s => exact .constant s (ih h.2 index)
    | number n => exact .shared rfl (ih h.2 index)
    | bound value => exact .placeholder (ih h.2 (index + 1))

end Units

def Proper (ps : List Piece) : Prop := ps.all Piece.isProper = true

namespace Proper

theorem append {ps qs : List Piece} (hp : Proper ps) (hq : Proper qs) : Proper (ps ++ qs) := by
  rw [Proper, List.all_append, hp, hq]
  rfl

theorem flatMap {α : Type} {f : α → List Piece} (h : ∀ a, Proper (f a)) (as : List α) :
    Proper (as.flatMap f) :=
  flatMap_induction (P := Proper) rfl append h as

theorem commaSeparated {pss : List (List Piece)} (h : ∀ ps ∈ pss, Proper ps) :
    Proper (commaSeparated pss) :=
  all_commaSeparated rfl h

end Proper

theorem proper_source (s : Source) : Proper s.pieces :=
  Admits.source ⟨fun _ => rfl, fun _ => rfl, List.all_eq_true.1 rfl⟩ s

theorem proper_records (s : RecordSelect) : Proper s.pieces := by
  have hkey (o : SortKey) : Proper o.pieces := by
    unfold SortKey.pieces
    cases o.descending <;> rfl
  have horder : Proper (.word " ORDER BY " :: commaSeparated (s.order.map SortKey.pieces)) :=
    Proper.commaSeparated (List.forall_mem_map.2 fun x _ => hkey x)
  have hsource : Proper (.word "SELECT " :: .identifier s.source.base :: .word ".*" ::
      s.source.pieces) := proper_source s.source
  exact (hsource.append horder).append rfl

theorem proper_groups (s : GroupSelect) : Proper s.pieces := by
  have hcase : Proper s.rankCase :=
    (Proper.flatMap (fun _ => by rfl) s.ranks : Proper (.word "(CASE" :: _)).append rfl
  have hcolumns : Proper (.word "SELECT " :: commaSeparated s.columns) :=
    Proper.commaSeparated (forall_columns (fun _ => rfl) (hcase.append rfl) rfl)
  have hgroup : Proper (.word " GROUP BY " :: commaSeparated (s.keys.map Column.pieces)) :=
    Proper.commaSeparated (List.forall_mem_map.2 fun _ _ => by rfl)
  have horder : Proper (.word ") SELECT *, COUNT(*) OVER (  ) AS " :: .identifier totalCountName ::
      .word " FROM " :: .identifier groupsName :: .word " ORDER BY " ::
      commaSeparated (s.dimensions.map fun o => [.identifier o.name, .word " ASC"])) :=
    Proper.commaSeparated (List.forall_mem_map.2 fun _ _ => by rfl)
  have hgathering : Proper (.word "WITH " :: .identifier groupsName :: .word " AS (" ::
      s.gathering) := (hcolumns.append (proper_source s.source)).append hgroup
  exact (hgathering.append horder).append rfl

theorem proper_select (s : Select) : Proper s.pieces := by
  cases s with
  | records s => exact proper_records s
  | groups s => exact proper_groups s

end FilterSql.Sql

namespace FilterSql.Statement

open Sql

/-- Two statements, each for its backend, that differ in spelling only. -/
structure Respelled (b b' : Backend) (s s' : Statement) : Prop where
  params_eq : s.params = s'.params
  groupColumns_eq : s.groupColumns = s'.groupColumns
  written : ∃ tree : Tree, tree.pieces.all Piece.isProper = true ∧
    (∀ other : Tree, spell b other.pieces = s.sql ∧ Sql.params other.pieces = s.params ↔
      other = tree) ∧
    ∀ other : Tree, spell b' other.pieces = s'.sql ∧ Sql.params other.pieces = s'.params ↔
      other = tree
  matched : Matched b b' 1 (scan b s.sql.toList) (scan b' s'.sql.toList)

theorem respelled_ofSelect (b b' : Backend) (s : Select) :
    Respelled b b' (ofSelect b s) (ofSelect b' s) where
  params_eq := rfl
  groupColumns_eq := rfl
  written := ⟨s.tree, (tree_pieces s).symm ▸ proper_select s, tree_written_iff b s,
    tree_written_iff b' s⟩
  matched := by
    simp only [ofSelect, scan_spell]
    exact matched_lexemesFrom (proper_select s) 1

theorem missing?_eq_none {d : Dialect} (h : ∀ feature, d.supports feature = true) :
    d.missing? = none := by
  simp [Dialect.missing?, h]

/-- In two dialects that have what grouping needs, a query fails in the same way or has statements
that differ in spelling only. -/
theorem compile_respelled (schema : Schema) (q : ResolvedQuery) (d d' : Dialect)
    (hd : ∀ feature, d.supports feature = true) (hd' : ∀ feature, d'.supports feature = true) :
    (∃ e, q.compile d schema = .error e ∧ q.compile d' schema = .error e) ∨
      ∃ s s', q.compile d schema = .ok s ∧ q.compile d' schema = .ok s' ∧
        Respelled d.backend d'.backend s s' := by
  have hselect : select d schema q = select d' schema q := by
    simp [select, missing?_eq_none hd, missing?_eq_none hd']
  unfold ResolvedQuery.compile
  rw [hselect]
  cases select d' schema q with
  | error e => exact .inl ⟨e, rfl, rfl⟩
  | ok s => exact .inr ⟨_, _, rfl, rfl, respelled_ofSelect d.backend d'.backend s⟩

theorem compile_respelled_mysql :
    let q : ResolvedQuery := ⟨none, [.session, .tag "os"], ⟨0, 50, by decide⟩⟩
    ∃ s s', q.compile ⟨.mysql, some ⟨8, 0, 0⟩⟩ .builtin = .ok s ∧
      q.compile ⟨.postgres, none⟩ .builtin = .ok s' ∧ Respelled .mysql .postgres s s' := by
  intro q
  obtain ⟨s, hs⟩ := (exists_compile_iff ⟨.mysql, some ⟨8, 0, 0⟩⟩ .builtin q).2
    ⟨⟨[], rfl⟩, .inr ⟨rfl, by decide, by decide⟩⟩
  rcases compile_respelled .builtin q ⟨.mysql, some ⟨8, 0, 0⟩⟩ ⟨.postgres, none⟩
    (by rintro ⟨⟩ <;> rfl) (fun _ => rfl) with ⟨e, he, -⟩ | h
  · cases he.symm.trans hs
  · exact h

end FilterSql.Statement
