import FilterSql.Condition.Printer
import FilterSql.Proofs.Parser.Completeness
import FilterSql.Proofs.Parser.Positions
import FilterSql.Proofs.Token.Printing

namespace FilterSql

open Grammar Lexer

def Literal.Plain : Literal → Prop
  | .string s => ∀ c ∈ s.toList,
      Text.shown c = [c] ∨ Text.shown c = ['\\', '"'] ∨ Text.shown c = ['\\', '\\']
  | .int n => 0 ≤ n.toInt
  | .float _ => False

structure FieldTest.Plain (test : FieldTest) : Prop where
  name : IsName test.field.toList
  notKeyword : ∀ keyword ∈ ["and", "or", "not"], Text.isWord keyword test.field.toList = false
  value : test.value.Plain

instance : DecidablePred Literal.Plain
  | .string _ => inferInstanceAs (Decidable (∀ c ∈ _, _))
  | .int _ => inferInstanceAs (Decidable (_ ≤ _))
  | .float _ => inferInstanceAs (Decidable False)

def Literal.tokenKind : Literal → TokenKind
  | .string s => .string s
  | .int n => .number (toString n.toInt)
  | .float x => .number x.plain

def Filter.kinds : Filter → List TokenKind
  | .leaf test => [.identifier test.field, .comparison test.op, test.value.tokenKind]
  | .and left right => .lparen :: (kinds left ++ .and :: kinds right) ++ [.rparen]
  | .or left right => .lparen :: (kinds left ++ .or :: kinds right) ++ [.rparen]
  | .not inner => .lparen :: .not :: kinds inner ++ [.rparen]

theorem Text.shown_eq_escape {c : Char}
    (h : shown c = [c] ∨ shown c = ['\\', '"'] ∨ shown c = ['\\', '\\']) :
    shown c = escape [c] := by
  unfold shown at h ⊢
  simp only [escape]
  by_cases hb : c = '\\'
  · subst hb
    decide
  by_cases hq : c = '"'
  · subst hq
    decide
  grind [codeEscape]

theorem escape_cons (c : Char) (cs : List Char) : escape (c :: cs) = escape [c] ++ escape cs := by
  simp only [escape]
  split <;> rfl

theorem Text.flatMap_shown {cs : List Char}
    (h : ∀ c ∈ cs, shown c = [c] ∨ shown c = ['\\', '"'] ∨ shown c = ['\\', '\\']) :
    cs.flatMap shown = escape cs := by
  induction cs with
  | nil => rfl
  | cons c cs ih =>
    obtain ⟨hc, hcs⟩ := List.forall_mem_cons.1 h
    rw [List.flatMap_cons, escape_cons, shown_eq_escape hc, ih hcs]

namespace Literal

variable {value : Literal}

theorem readInt64_toString {n : Int64} (h : 0 ≤ n.toInt) : ∃ d ds,
    (toString n.toInt).toList = d :: ds ∧ (∀ e ∈ d :: ds, e.isDigit = true) ∧
      Text.readInt64 (d :: ds) = .ok n := by
  obtain ⟨m, hm⟩ := Int.eq_ofNat_of_zero_le h
  obtain ⟨d, ds, hds, hdigits⟩ := exists_digits m
  have hvalue : Text.natValue (d :: ds) = m := hds ▸ Text.natValue_toString m
  have hbound : n.toInt < 2 ^ 63 := n.toInt_lt
  refine ⟨d, ds, by rw [hm]; exact hds, hdigits, ?_⟩
  rw [readInt64_digits hdigits, hvalue, if_neg (by omega), ← hm, Int64.ofInt_toInt]

theorem toList_render (h : value.Plain) : value.render.toList = value.tokenKind.written := by
  cases value with
  | string s => simp [render, Text.quoted, Text.flatMap_shown h, tokenKind, TokenKind.written]
  | int n => rfl
  | float x => exact h.elim

theorem literal?_tokenKind (h : value.Plain) : value.tokenKind.literal? = some value := by
  cases value with
  | string s => rfl
  | int n =>
    obtain ⟨d, ds, hds, hdigits, hread⟩ := readInt64_toString h
    have hpoint : '.' ∉ d :: ds := fun hmem => absurd (hdigits _ hmem) (by decide)
    rw [tokenKind, TokenKind.literal?, ofNumeral?, hds, if_neg hpoint, hread]
    rfl
  | float x => exact h.elim

theorem writable_tokenKind (h : value.Plain) : value.tokenKind.Writable := by
  cases value with
  | string s => trivial
  | int n =>
    obtain ⟨d, ds, hds, hdigits, hread⟩ := readInt64_toString h
    have hpoint : '.' ∉ d :: ds := fun hmem => absurd (hdigits _ hmem) (by decide)
    obtain ⟨hd, htail⟩ := List.forall_mem_cons.1 hdigits
    have hnumeral := IsNumeral.whole hd htail
    rw [tokenKind, TokenKind.Writable, hds]
    refine ⟨hnumeral, (inRange_iff hnumeral).1 ?_⟩
    rw [inRange, if_neg hpoint, hread]
    rfl
  | float x => exact h.elim

end Literal

namespace Lexer

theorem ReadsAs.tokenize {text : String} {kinds : List TokenKind} (h : ReadsAs text.toList kinds) :
    ∃ tokens, tokenize text = .ok tokens ∧ tokens.map Token.kind = kinds ++ [.eof] := by
  obtain ⟨hfault, hkinds⟩ := h 0
  refine ⟨_, tokenize_eq_ok_iff.2 ⟨hfault, rfl⟩, ?_⟩
  rw [List.map_append, scan, hkinds]
  rfl

/-- In front of anything that cannot extend a token, the text is read as these kinds. -/
def Legible (cs : List Char) (kinds : List TokenKind) : Prop :=
  ∀ blanks after rest, (∀ c ∈ blanks, Text.isBlank c = true) → Stops after → ReadsAs after rest →
    ReadsAs (blanks ++ (cs ++ after)) (kinds ++ rest)

theorem legible_written (kind : TokenKind) (h : kind.Writable) : Legible kind.written [kind] :=
  fun _ _ _ hb ha hr => hr.word (.of kind [] h (by simp)) ha.not_continues hb

theorem Legible.spaced {u v : List Char} {us vs : List TokenKind} (hu : Legible u us)
    (hv : Legible v vs) : Legible (u ++ ' ' :: v) (us ++ vs) := by
  intro blanks after rest hb ha hr
  have hblank : ∀ c ∈ [' '], Text.isBlank c = true := List.all_eq_true.1 rfl
  have hstops : Stops (' ' :: (v ++ after)) := stops_of_blank (by simpa using hblank)
  simpa using hu blanks _ _ hb hstops (hv [' '] after rest hblank ha hr)

theorem Legible.enclosed {u : List Char} {us : List TokenKind} (hu : Legible u us) :
    Legible ('(' :: u ++ [')']) (.lparen :: us ++ [.rparen]) := by
  intro blanks after rest hb ha hr
  have hnil : ∀ c ∈ ([] : List Char), Text.isBlank c = true := by simp
  have hstops : Stops (')' :: after) := by
    intro c hc
    cases hc
    decide
  have hclosing : ReadsAs (')' :: after) (.rparen :: rest) :=
    legible_written .rparen trivial [] after rest hnil ha hr
  have hopening : ReadsAs (blanks ++ (['('] ++ (u ++ ')' :: after)))
      (.lparen :: (us ++ .rparen :: rest)) :=
    (hu [] _ _ hnil hstops hclosing).word (.of .lparen [] trivial hnil) id hb
  simpa using hopening

end Lexer

theorem FieldTest.legible_render {test : FieldTest} (h : test.Plain) :
    Legible test.render.toList (Filter.kinds (.leaf test)) := by
  have hname := legible_written (.identifier test.field) ⟨h.name, h.notKeyword⟩
  have hop := legible_written (.comparison test.op) trivial
  have hvalue := legible_written test.value.tokenKind (Literal.writable_tokenKind h.value)
  rw [← Literal.toList_render h.value] at hvalue
  simpa [render, Filter.kinds, TokenKind.written] using (hname.spaced hop).spaced hvalue

theorem Filter.legible_render {t : Filter} (h : ∀ test ∈ t.leaves, test.Plain) :
    Legible t.render.toList t.kinds := by
  induction t with
  | leaf test => exact FieldTest.legible_render (h test (by simp [Condition.leaves]))
  | and left right ihl ihr =>
    obtain ⟨hl, hr⟩ := List.forall_mem_append.1 h
    have hoperator := legible_written .and trivial
    simpa [render, kinds, TokenKind.written] using ((ihl hl).spaced (hoperator.spaced (ihr hr))).enclosed
  | or left right ihl ihr =>
    obtain ⟨hl, hr⟩ := List.forall_mem_append.1 h
    have hoperator := legible_written .or trivial
    simpa [render, kinds, TokenKind.written] using ((ihl hl).spaced (hoperator.spaced (ihr hr))).enclosed
  | not inner ih =>
    have hoperator := legible_written .not trivial
    simpa [render, kinds, TokenKind.written] using (hoperator.spaced (ih h)).enclosed

namespace Parser

/-- The tokens are written for the condition as an operand, and each level of the condition opens at
most a parenthesis and a NOT. -/
structure Enclosed (w : List Token) (t : Filter) : Prop where
  derives : Derives filterScript .primary w t
  nesting_le : nesting w + 2 ≤ 2 * t.height

variable {u v w : List Token} {l r t : Filter}

theorem enclosed_test {test : FieldTest} (h : IsFieldTest w test) : Enclosed w (.leaf test) := by
  refine ⟨.test h, ?_⟩
  obtain ⟨hname, hop, hvalue⟩ := h
  simp [nesting, nestingFrom, hname, hop, openBehind_literal hvalue, Condition.height]

theorem enclosed_parentheses (h : Derives filterScript .disjunction w t)
    (hn : nesting w + 3 ≤ 2 * t.height) :
    Enclosed (TokenKind.lparen.unplaced :: w ++ [TokenKind.rparen.unplaced]) t := by
  refine ⟨.parentheses rfl h rfl, ?_⟩
  rw [nesting_parentheses rfl h rfl]
  omega

theorem Enclosed.and (hl : Enclosed u l) (hr : Enclosed v r) :
    Enclosed (TokenKind.lparen.unplaced :: (u ++ TokenKind.and.unplaced :: v) ++
      [TokenKind.rparen.unplaced]) (.and l r) := by
  have hand := hl.derives.unary.toConjunction.and (s := TokenKind.and.unplaced) rfl hr.derives.unary
  refine enclosed_parentheses hand.toDisjunction ?_
  rw [nesting_append hl.derives, nesting_operator (.inl rfl), Condition.height]
  have := hl.nesting_le
  have := hr.nesting_le
  omega

theorem Enclosed.or (hl : Enclosed u l) (hr : Enclosed v r) :
    Enclosed (TokenKind.lparen.unplaced :: (u ++ TokenKind.or.unplaced :: v) ++
      [TokenKind.rparen.unplaced]) (.or l r) := by
  have hor := hl.derives.unary.toConjunction.toDisjunction.or (s := TokenKind.or.unplaced) rfl
    hr.derives.unary.toConjunction
  refine enclosed_parentheses hor ?_
  rw [nesting_append hl.derives, nesting_operator (.inr rfl), Condition.height]
  have := hl.nesting_le
  have := hr.nesting_le
  omega

theorem Enclosed.not (h : Enclosed w t) :
    Enclosed (TokenKind.lparen.unplaced :: (TokenKind.not.unplaced :: w) ++
      [TokenKind.rparen.unplaced]) (.not t) := by
  have hnot := Derives.negation (s := TokenKind.not.unplaced) rfl h.derives.unary
  refine enclosed_parentheses hnot.toConjunction.toDisjunction ?_
  rw [nesting_negation rfl h.derives.unary, Condition.height]
  have := h.nesting_le
  omega

end Parser

theorem Filter.enclosed_kinds {t : Filter} (h : ∀ test ∈ t.leaves, test.Plain) :
    Parser.Enclosed (t.kinds.map TokenKind.unplaced) t.unplaced := by
  induction t with
  | leaf test =>
    have hvalue := Literal.literal?_tokenKind (h test (by simp [Condition.leaves])).value
    exact Parser.enclosed_test (.mk rfl rfl hvalue)
  | and left right ihl ihr =>
    obtain ⟨hl, hr⟩ := List.forall_mem_append.1 h
    simpa [kinds, unplaced, Condition.map] using (ihl hl).and (ihr hr)
  | or left right ihl ihr =>
    obtain ⟨hl, hr⟩ := List.forall_mem_append.1 h
    simpa [kinds, unplaced, Condition.map] using (ihl hl).or (ihr hr)
  | not inner ih => simpa [kinds, unplaced, Condition.map] using (ih h).not

theorem unplacedAnswer_eq_some {answer : Except QueryError (Option Filter)} {t : Filter}
    (h : unplacedAnswer answer = .ok (some t)) :
    ∃ t', answer = .ok (some t') ∧ t'.unplaced = t := by
  rcases answer with error | filter
  · cases h
  · cases filter with
    | none => cases h
    | some t' =>
      cases h
      exact ⟨t', rfl, rfl⟩

/-- A filter as text is read as the filter, but for the places of its names. -/
theorem parseFilter_render (t : Filter) (limits : Limits) (hplain : ∀ test ∈ t.leaves, test.Plain)
    (hdepth : 2 * t.height ≤ limits.depth) (hheight : t.height ≤ limits.height) :
    ∃ t', parseFilter limits t.render = .ok (some t') ∧ t'.unplaced = t.unplaced := by
  have hreads : ReadsAs t.render.toList t.kinds := by
    simpa using Filter.legible_render hplain [] [] [] (by simp) (by simp [Stops])
      (readsAs_blanks (by simp))
  obtain ⟨tokens, htokens, hkinds⟩ := hreads.tokenize
  obtain ⟨hderives, hnesting⟩ := Filter.enclosed_kinds hplain
  have hsame : t.unplaced.height = t.height := Condition.height_map ..
  apply unplacedAnswer_eq_some
  rw [unplacedAnswer_parseFilter htokens, hkinds, List.map_append]
  exact Parser.parse_of_derives (Parser.kind_ne_eof_of_derives hderives) (by simp [TokenKind.unplaced])
    hderives.unary.toConjunction.toDisjunction (by omega) (by omega)

theorem parseFilter_render_quote :
    let named : FieldTest := ⟨"Andy_1", .ne, .string "\"é\\", ⟨5, 9⟩⟩
    let largest : FieldTest := ⟨"_", .ge, .int 9223372036854775807, ⟨0, 0⟩⟩
    let t : Filter := .and (.leaf named) (.not (.leaf largest))
    named.Plain ∧ largest.Plain ∧ 2 * t.height = 6 ∧ t.height = 3 ∧
    ∃ t', parseFilter ⟨6, 3⟩ t.render = .ok (some t') ∧ t'.unplaced = t.unplaced := by
  intro named largest t
  have hname : "Andy_1".toList = 'A' :: ['n', 'd', 'y', '_', '1'] := by simp
  have hline : "_".toList = ['_'] := by simp
  have hwide : Text.shown 'é' = ['é'] := by
    have hmark : Text.isExtendingMark 'é' = false := by
      rw [Text.isExtendingMark, Text.isExtending, Text.extendingRanges, Text.inRanges]
      rfl
    -- the letter stands behind the third range and in front of the fourth
    have hprintable : Text.isPrintable 'é' = true := by
      rw [Text.isPrintable, Text.unprintableRanges, Text.inRanges, Text.inRanges, Text.inRanges,
        Text.inRanges]
      rfl
    simp [Text.shown, hmark, hprintable]
  have hstring : (Literal.string "\"é\\").Plain := by
    have hlist : "\"é\\".toList = ['"', 'é', '\\'] := by simp
    rw [Literal.Plain, hlist, List.forall_mem_cons, List.forall_mem_cons, List.forall_mem_singleton]
    exact ⟨.inr (.inl rfl), .inl hwide, .inr (.inr rfl)⟩
  have hnamed : named.Plain :=
    ⟨hname ▸ .mk (by decide) (List.all_eq_true.1 rfl), by simp [named, Text.isWord], hstring⟩
  have hlargest : largest.Plain :=
    ⟨hline ▸ .mk (by decide) (by simp), by simp [largest, Text.isWord], by decide⟩
  have hplain : ∀ test ∈ t.leaves, test.Plain :=
    List.forall_mem_cons.2 ⟨hnamed, List.forall_mem_singleton.2 hlargest⟩
  exact ⟨hnamed, hlargest, rfl, rfl, parseFilter_render t ⟨6, 3⟩ hplain (by decide) (by decide)⟩

end FilterSql
