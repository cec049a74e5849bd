import FilterSql.Proofs.Sql.Reading
import FilterSql.Proofs.Sql.Syntax

namespace FilterSql.Sql

/-- A unit of a statement; a value stands in the place of its placeholder. -/
abbrev Sign := Lexeme ⊕ Value

def fill : List Lexeme → List Value → List Sign
  | [], _ => []
  | .placeholder _ :: xs, v :: vs => .inr v :: fill xs vs
  | x :: xs, vs => .inl x :: fill xs vs

def Lexeme.isPlaceholder : Lexeme → Bool
  | .placeholder _ => true
  | _ => false

theorem fill_append {xs : List Lexeme} (h : xs.all (!·.isPlaceholder) = true) (ys : List Lexeme)
    (vs : List Value) : fill (xs ++ ys) vs = xs.map .inl ++ fill ys vs := by
  induction xs with
  | nil => rfl
  | cons x xs ih =>
    simp only [List.all_cons, Bool.and_eq_true] at h
    have hx : fill (x :: (xs ++ ys)) vs = .inl x :: fill (xs ++ ys) vs := by
      cases x with
      | placeholder text => cases h.1
      | _ => rfl
    rw [List.cons_append, hx, ih h.2]
    rfl

def Piece.signs (b : Backend) : Piece → List Sign
  | .word text => (scan b text.toList).map .inl
  | .identifier name => [.inl (.identifier name)]
  | .constant s => [.inl (.constant (String.ofList (rawConstant b s)))]
  | .number n => [.inl (.number (toString n))]
  | .bound v => [.inr v]

def signs (b : Backend) (ps : List Piece) : List Sign := ps.flatMap (Piece.signs b)

theorem signs_append (b : Backend) (ps qs : List Piece) :
    signs b (ps ++ qs) = signs b ps ++ signs b qs := List.flatMap_append

theorem signs_cons (b : Backend) (p : Piece) (ps : List Piece) :
    signs b (p :: ps) = p.signs b ++ signs b ps := List.flatMap_cons

/-- The text of the pieces, read with the values bound in it, gives them back. -/
structure Recovered (ps : List Piece) : Prop where
  readable : Readable ps
  filled : ∀ b index xs vs,
    fill (lexemesFrom b index ps ++ xs) (params ps ++ vs) = signs b ps ++ fill xs vs

namespace Recovered

theorem fill_scan {ps : List Piece} (h : Recovered ps) (b : Backend) :
    fill (scan b (spell b ps).toList) (params ps) = signs b ps := by
  rw [spell, h.readable.scan_eq]
  simpa [fill] using h.filled b 1 [] []

theorem nil : Recovered [] := ⟨readable_nil, fun _ _ _ _ => rfl⟩

theorem append {ps qs : List Piece} (hp : Recovered ps) (hq : Recovered qs)
    (hb : Begins qs) : Recovered (ps ++ qs) where
  readable := hp.readable.append hq.readable hb
  filled b index xs vs := by
    rw [lexemesFrom_append, params_append, List.append_assoc, List.append_assoc, hp.filled,
      hq.filled, signs_append, List.append_assoc]

theorem identifier (name : String) : Recovered [.identifier name] :=
  ⟨readable_identifier name, fun _ _ _ _ => rfl⟩

theorem constant (s : String) : Recovered [.constant s] :=
  ⟨readable_constant s, fun _ _ _ _ => rfl⟩

theorem number (n : Nat) : Recovered [.number n] := ⟨readable_number n, fun _ _ _ _ => rfl⟩

theorem bound (v : Value) : Recovered [.bound v] := ⟨readable_bound v, fun _ _ _ _ => rfl⟩

end Recovered

def Quiet (text : String) : Prop := (Piece.word text).reads (!·.isPlaceholder) = true

theorem Quiet.fill_append {text : String} (h : Quiet text) (b : Backend) (ys : List Lexeme)
    (vs : List Value) :
    fill (scan b text.toList ++ ys) vs = (Piece.word text).signs b ++ fill ys vs :=
  Sql.fill_append (lexemes_all (fun _ _ => rfl) h b 1) ys vs

theorem Recovered.word {text : String} (hw : text.toList.any isQuote = false) (hq : Quiet text) :
    Recovered [.word text] where
  readable := readable_word hw
  filled b index xs vs := by
    have h := hq.fill_append b xs vs
    simp only [lexemesFrom, Piece.lexemes, signs, List.flatMap_cons, List.flatMap_nil,
      List.append_nil]
    exact h

theorem Recovered.cons_word {text : String} {ps : List Piece} (hp : Recovered ps)
    (hc : Closes text) (hq : Quiet text) : Recovered (.word text :: ps) where
  readable := hp.readable.cons_word hc
  filled b index xs vs := by
    have hparams : params (.word text :: ps) = params ps := rfl
    rw [lexemesFrom_word, hparams, List.append_assoc, hq.fill_append, hp.filled, signs_cons,
      List.append_assoc]

theorem Recovered.cons_named {text name : String} {ps : List Piece} (hp : Recovered ps)
    (hb : Begins ps) (hc : Closes text) (hq : Quiet text) :
    Recovered (.word text :: .identifier name :: ps) :=
  ((Recovered.identifier name).append hp hb).cons_word hc hq

theorem Recovered.flatMap {α : Type} {f : α → List Piece} (h : ∀ a, Recovered (f a))
    (hb : ∀ a, Begins (f a)) (as : List α) : Recovered (as.flatMap f) ∧ Begins (as.flatMap f) :=
  flatMap_induction (P := fun ps => Recovered ps ∧ Begins ps) ⟨.nil, trivial⟩
    (fun hp hq => ⟨hp.1.append hq.1 hq.2, hp.2.append hq.2⟩) (fun a => ⟨h a, hb a⟩) as

theorem Recovered.intercalate {α : Type} {f : α → List Piece} (h : ∀ a, Recovered (f a))
    (as : List α) : Recovered ([.word ", "].intercalate (as.map f)) := by
  rw [← commaSeparated_eq]
  exact commaSeparated_induction .nil
    (fun hp hq => hp.append (hq.cons_word ⟨rfl, rfl⟩ rfl) rfl)
    (List.forall_mem_map.2 fun a _ => h a)

theorem recovered_column (table name : String) :
    Recovered [.identifier table, .word ".", .identifier name] :=
  (Recovered.identifier table).append ((Recovered.identifier name).cons_word ⟨rfl, rfl⟩ rfl) rfl

theorem recovered_term (t : Term) : Recovered t.pieces := by
  cases t with
  | column c => exact recovered_column c.table c.name
  | bound value => exact .bound value
  | constant s => exact .constant s

theorem comparing_pieces_eq (c : Comparing) :
    c.pieces = c.left.pieces ++ .word (comparisonWord c.op) :: c.right.pieces := by
  obtain ⟨left, op, right⟩ := c
  cases op <;> rfl

theorem quiet_comparisonWord (op : Comparison) : Quiet (comparisonWord op) := by
  cases op <;> rfl

theorem recovered_comparing (c : Comparing) : Recovered c.pieces := by
  rw [comparing_pieces_eq]
  exact (recovered_term c.left).append
    ((recovered_term c.right).cons_word (closes_comparisonWord c.op) (quiet_comparisonWord c.op))
    (begins_comparisonWord c.op _)

theorem recovered_inParentheses {ps : List Piece} (h : Recovered ps) :
    Recovered (inParentheses ps) :=
  (h.append (.word rfl (by rfl)) (by rfl)).cons_word ⟨rfl, rfl⟩ rfl

theorem recovered_formula (f : Formula) : Recovered (formulaPieces f) := by
  have hoperand {ps : List Piece} (h : Recovered ps) (b : Bool) :
      Recovered (if b then ps else inParentheses ps) := by
    cases b with
    | true => exact h
    | false => exact recovered_inParentheses h
  induction f with
  | leaf c => exact recovered_comparing c
  | and l r ihl ihr | or l r ihl ihr =>
    exact (hoperand ihl _).append ((hoperand ihr _).cons_word ⟨rfl, rfl⟩ rfl) rfl
  | not f ih => exact (hoperand ih _).cons_word ⟨rfl, rfl⟩ rfl

theorem recovered_leftJoin (j : LeftJoin) : Recovered j.pieces := by
  have hon : Recovered (.word " ON " :: formulaPieces j.on) :=
    (recovered_formula j.on).cons_word ⟨rfl, rfl⟩ rfl
  have hname : Recovered (j.as?.elim [] (fun name => [.word " AS ", .identifier name]) ++
      .word " ON " :: formulaPieces j.on) := by
    cases j.as? with
    | none => exact hon
    | some name => exact hon.cons_named rfl ⟨rfl, rfl⟩ rfl
  have hbegins : Begins (j.as?.elim [] (fun name => [.word " AS ", .identifier name]) ++
      .word " ON " :: formulaPieces j.on) := by
    cases j.as? <;> rfl
  exact hname.cons_named hbegins ⟨rfl, rfl⟩ rfl

theorem recovered_tables (t : Tables) : Recovered t.pieces := by
  obtain ⟨hjoins, hbegins⟩ := Recovered.flatMap recovered_leftJoin (fun _ => rfl) t.joins
  have hfrom : Recovered
      (.word " FROM " :: .identifier t.base :: t.joins.flatMap LeftJoin.pieces) :=
    hjoins.cons_named hbegins ⟨rfl, rfl⟩ rfl
  rw [Tables.pieces]
  cases t.filter with
  | none => simpa using hfrom
  | some f => exact hfrom.append ((recovered_formula f).cons_word ⟨rfl, rfl⟩ rfl) rfl

theorem recovered_branch (branch : Comparing × Nat) : Recovered (branchPieces branch) := by
  have hthen : Recovered [.word ") THEN ", .number branch.2] :=
    (Recovered.number branch.2).cons_word ⟨rfl, rfl⟩ rfl
  exact ((recovered_comparing branch.1).append hthen rfl).cons_word ⟨rfl, rfl⟩ rfl

theorem recovered_case (branches : List (Comparing × Nat)) (otherwise : Nat) :
    Recovered (casePieces branches otherwise) := by
  obtain ⟨hbranches, hbegins⟩ := Recovered.flatMap recovered_branch (fun _ => rfl) branches
  have hopen : Recovered [.word "(CASE"] := .word rfl rfl
  have hend : Recovered [.number otherwise, .word " END)"] :=
    (Recovered.number otherwise).append (.word rfl rfl) rfl
  exact (hopen.append hbranches hbegins).append (hend.cons_word ⟨rfl, rfl⟩ rfl) rfl

theorem recovered_output (output : Projection × String) : Recovered (outputPieces output) := by
  obtain ⟨projection, name⟩ := output
  have hname : Recovered [.word ") AS ", .identifier name] :=
    (Recovered.identifier name).cons_word ⟨rfl, rfl⟩ rfl
  cases projection with
  | column c =>
    exact (recovered_column c.table c.name).append
      ((Recovered.identifier name).cons_word ⟨rfl, rfl⟩ rfl) rfl
  | count c =>
    exact ((recovered_column c.table c.name).append hname rfl).cons_word ⟨rfl, rfl⟩ rfl
  | maxCase branches otherwise =>
    exact ((recovered_case branches otherwise).append hname rfl).cons_word ⟨rfl, rfl⟩ rfl

theorem recovered_gathering (g : Gathering) : Recovered g.pieces := by
  have houtputs : Recovered (.word "SELECT " ::
      [.word ", "].intercalate (g.outputs.map outputPieces)) :=
    (Recovered.intercalate recovered_output g.outputs).cons_word ⟨rfl, rfl⟩ rfl
  have hgroup := Recovered.intercalate (fun c : Column => recovered_column c.table c.name) g.groupBy
  exact (houtputs.append (recovered_tables g.tables) rfl).append
    (hgroup.cons_word ⟨rfl, rfl⟩ rfl) rfl

theorem recovered_page (limit offset : Value) :
    Recovered [.word " LIMIT ", .bound limit, .word " OFFSET ", .bound offset] := by
  have hoffset : Recovered [.word " OFFSET ", .bound offset] :=
    (Recovered.bound offset).cons_word ⟨rfl, rfl⟩ rfl
  exact ((Recovered.bound limit).append hoffset rfl).cons_word ⟨rfl, rfl⟩ rfl

theorem recovered_query (q : PagedQuery) : Recovered q.pieces := by
  have hname (name : String) : Recovered [.identifier name, .word " ASC"] :=
    (Recovered.identifier name).append (.word rfl rfl) rfl
  have horder : Recovered (.word " ORDER BY " ::
      [.word ", "].intercalate (q.order.map fun name => [.identifier name, .word " ASC"])) :=
    (Recovered.intercalate hname q.order).cons_word ⟨rfl, rfl⟩ rfl
  have htotal : Recovered (.word ") SELECT *, COUNT(*) OVER (  ) AS " :: .identifier q.total ::
      .word " FROM " :: .identifier q.source :: .word " ORDER BY " ::
      [.word ", "].intercalate (q.order.map fun name => [.identifier name, .word " ASC"])) :=
    .cons_named (horder.cons_named rfl ⟨rfl, rfl⟩ rfl) rfl ⟨rfl, rfl⟩ rfl
  have hbody : Recovered (.word " AS (" :: q.body.pieces) :=
    (recovered_gathering q.body).cons_word ⟨rfl, rfl⟩ rfl
  have hwith : Recovered (.word "WITH " :: .identifier q.name :: .word " AS (" :: q.body.pieces) :=
    hbody.cons_named rfl ⟨rfl, rfl⟩ rfl
  exact (hwith.append htotal rfl).append (recovered_page _ _) rfl

theorem recovered_sortKey (k : SortKey) : Recovered (sortPieces k) := by
  have hcolumn := recovered_column k.column.table k.column.name
  unfold sortPieces
  cases k.descending <;> exact hcolumn.append (.word rfl rfl) rfl

theorem recovered_listing (q : Listing) : Recovered q.pieces := by
  have htables : Recovered (.word ".*" :: q.tables.pieces) :=
    (recovered_tables q.tables).cons_word ⟨rfl, rfl⟩ rfl
  have hall : Recovered (.word "SELECT " :: .identifier q.all :: .word ".*" :: q.tables.pieces) :=
    htables.cons_named rfl ⟨rfl, rfl⟩ rfl
  have horder : Recovered (.word " ORDER BY " ::
      [.word ", "].intercalate (q.order.map sortPieces)) :=
    (Recovered.intercalate recovered_sortKey q.order).cons_word ⟨rfl, rfl⟩ rfl
  exact (hall.append horder rfl).append (recovered_page _ _) rfl

theorem recovered_tree (t : Tree) : Recovered t.pieces := by
  cases t with
  | listing q => exact recovered_listing q
  | paged q => exact recovered_query q

/-- A statement's text is cut into the units of its pieces, by every backend. -/
theorem scan_spell (b : Backend) (s : Select) :
    scan b (spell b s.pieces).toList = lexemesFrom b 1 s.pieces := by
  rw [← tree_pieces s]
  exact (recovered_tree s.tree).readable.scan_eq b 1

end FilterSql.Sql
