import FilterSql.Proofs.Sql.Unambiguous

namespace FilterSql.Sql

section Signs

variable (b : Backend)

theorem signs_sortKey (k : SortKey) :
    signs b (sortPieces k) = signs b [.identifier k.column.table, .word ".",
      .identifier k.column.name] ++
        ([.inl (.word (if k.descending then "DESC" else "ASC"))] : List Sign) := by
  unfold sortPieces
  cases k.descending <;> cases b <;> rfl

theorem decodes_sortKey : Decodes (fun k : SortKey => signs b (sortPieces k)) fun _ => True := by
  rintro ⟨column, descending⟩ ⟨column', descending'⟩ x x' - - e
  simp only [signs_sortKey, List.append_assoc] at e
  obtain ⟨rfl, e₁⟩ := decodes_column b trivial trivial e
  cases descending <;> cases descending' <;> simp_all

theorem signs_listing (all : String) (tables : Tables) (order : List SortKey)
    (limit offset : UInt64) : signs b (Listing.pieces ⟨all, tables, order, limit, offset⟩) =
      ([.inl (.word "SELECT"), .inl (.identifier all), .inl (.symbol '.'),
        .inl (.symbol '*')] : List Sign) ++
        (signs b tables.pieces ++ (([.inl (.word "ORDER"), .inl (.word "BY")] : List Sign) ++
        (signs b ([.word ", "].intercalate (order.map sortPieces)) ++
          ([.inl (.word "LIMIT"), .inr (.unsigned limit), .inl (.word "OFFSET"),
            .inr (.unsigned offset)] : List Sign)))) := by
  have hall (ps : List Piece) : signs b (.word "SELECT " :: .identifier all :: .word ".*" :: ps) =
      ([.inl (.word "SELECT"), .inl (.identifier all), .inl (.symbol '.'),
        .inl (.symbol '*')] : List Sign) ++
        signs b ps := by
    cases b <;> rfl
  have horder (ps : List Piece) : signs b (.word " ORDER BY " :: ps) =
      ([.inl (.word "ORDER"), .inl (.word "BY")] : List Sign) ++ signs b ps := by
    cases b <;> rfl
  simp only [Listing.pieces, List.cons_append, List.append_assoc]
  rw [hall, signs_append, horder, signs_append, signs_page]
  rfl

theorem listing_eq_of_signs_eq {q r : Listing} (e : signs b q.pieces = signs b r.pieces) :
    q = r := by
  have hkeys : Decodes (fun order : List SortKey => signs b ([.word ", "].intercalate
      (order.map sortPieces))) (Heads (.word "LIMIT")) :=
    (decodes_sortKey b).intercalate (fun x hx => by simp at hx)
      fun k x hx => by simp [signs_sortKey, signs_column] at hx
  obtain ⟨all, tables, order, limit, offset⟩ := q
  obtain ⟨all', tables', order', limit', offset'⟩ := r
  simp only [signs_listing, List.cons_append, List.nil_append, List.cons.injEq, Sum.inl.injEq,
    Lexeme.identifier.injEq, true_and] at e
  obtain ⟨rfl, e₁⟩ := e
  obtain ⟨rfl, e₂⟩ := decodes_tables b rfl (by decide) (by decide) (heads_cons.2 rfl)
    (heads_cons.2 rfl) e₁
  simp only [List.cons.injEq, true_and] at e₂
  obtain ⟨rfl, e₃⟩ := hkeys (heads_cons.2 rfl) (heads_cons.2 rfl) e₂
  simp only [List.cons.injEq, Sum.inr.injEq, Value.unsigned.injEq, true_and, and_true] at e₃
  obtain ⟨rfl, rfl⟩ := e₃
  rfl

end Signs

theorem tree_eq_of_signs_eq (b : Backend) {t u : Tree} (e : signs b t.pieces = signs b u.pieces) :
    t = u := by
  rcases t with ⟨q⟩ | ⟨q⟩ <;> rcases u with ⟨r⟩ | ⟨r⟩
  · rw [listing_eq_of_signs_eq b e]
  · obtain ⟨⟩ := q
    obtain ⟨⟩ := r
    simp [Tree.pieces, signs_listing, signs_query] at e
  · obtain ⟨⟩ := q
    obtain ⟨⟩ := r
    simp [Tree.pieces, signs_listing, signs_query] at e
  · rw [query_eq_of_signs_eq b e]

theorem tree_written_iff (b : Backend) (s : Select) (t : Tree) :
    spell b t.pieces = (Statement.ofSelect b s).sql ∧
      params t.pieces = (Statement.ofSelect b s).params ↔ t = s.tree := by
  simp only [Statement.ofSelect, ← tree_pieces s]
  constructor
  · rintro ⟨hsql, hparams⟩
    apply tree_eq_of_signs_eq b
    rw [← (recovered_tree t).fill_scan, ← (recovered_tree s.tree).fill_scan, hsql, hparams]
  · rintro rfl
    exact ⟨rfl, rfl⟩

end FilterSql.Sql
