import FilterSql.Proofs.Parser.Completeness
import FilterSql.Proofs.Token.Segmentation
import FilterSql.Proofs.Validation

namespace FilterSql

namespace Grammar

variable {σ α : Type} {S : Script σ α}

/-- A word is made of these tests, one behind another, and of marks. -/
inductive Carries (S : Script σ α) : List σ → List α → Prop
  | nil : Carries S [] []
  | mark {s : σ} {u : List σ} {tests : List α} {m : Mark} : S.mark? s = some m →
      Carries S u tests → Carries S (s :: u) tests
  | test {w u : List σ} {a : α} {tests : List α} : S.IsTest w a → Carries S u tests →
      Carries S (w ++ u) (a :: tests)

theorem Carries.append {u v : List σ} {first second : List α} (hu : Carries S u first)
    (hv : Carries S v second) : Carries S (u ++ v) (first ++ second) := by
  induction hu with
  | nil => exact hv
  | mark hm _ ih => exact .mark hm ih
  | test ha _ ih =>
    rw [List.append_assoc, List.cons_append]
    exact .test ha ih

def Phrase.leftLeaves : Phrase α → List α
  | .disjuncts left => left.leaves
  | .conjuncts left => left.leaves
  | _ => []

/-- A part is made of the tests that it adds to a condition, in the order of the leaves. -/
theorem Derives.carries {p : Phrase α} {u : List σ} {t : Condition α} (h : Derives S p u t) :
    ∃ tests, t.leaves = p.leftLeaves ++ tests ∧ Carries S u tests := by
  induction h with
  | disjunction _ _ ihu ihv | conjunction _ _ ihu ihv =>
    obtain ⟨first, hfirst, hu⟩ := ihu
    obtain ⟨second, hsecond, hv⟩ := ihv
    exact ⟨first ++ second, by simpa [Phrase.leftLeaves, hfirst] using hsecond, hu.append hv⟩
  | noDisjunct | noConjunct => exact ⟨[], by simp [Phrase.leftLeaves], .nil⟩
  | disjunct hm _ _ ihu ihv | conjunct hm _ _ ihu ihv =>
    obtain ⟨first, hfirst, hu⟩ := ihu
    obtain ⟨second, hsecond, hv⟩ := ihv
    refine ⟨first ++ second, ?_, (hu.append hv).mark hm⟩
    simpa [Phrase.leftLeaves, Condition.leaves, hfirst] using hsecond
  | negation hm _ ih =>
    obtain ⟨tests, htests, hu⟩ := ih
    exact ⟨tests, htests, hu.mark hm⟩
  | unary _ ih => exact ih
  | test ha => exact ⟨_, rfl, by simpa using Carries.test ha .nil⟩
  | parentheses hm _ he ih =>
    obtain ⟨tests, htests, hu⟩ := ih
    refine ⟨tests, htests, ?_⟩
    simpa using (hu.append (Carries.nil.mark he)).mark hm

end Grammar

open Grammar

def TokenKind.isIdentifier : TokenKind → Bool
  | .identifier _ => true
  | _ => false

def FieldTest.nameToken (test : FieldTest) : Token := ⟨.identifier test.field, test.span⟩

theorem isIdentifier_of_mark? {kind : TokenKind} {m : Mark} (h : kind.mark? = some m) :
    kind.isIdentifier = false := by
  cases kind with
  | identifier => cases h
  | _ => rfl

theorem isIdentifier_of_literal? {kind : TokenKind} {value : Literal}
    (h : kind.literal? = some value) : kind.isIdentifier = false := by
  cases kind with
  | identifier => cases h
  | _ => rfl

theorem IsFieldTest.identifiers {word : List Token} {test : FieldTest} (h : IsFieldTest word test) :
    word.filter (·.kind.isIdentifier) = [test.nameToken] := by
  cases h with
  | @mk name comparison literal field op value hname hcomparison hliteral =>
    have hfirst : name.kind.isIdentifier = true := by rw [hname]; rfl
    have hsecond : comparison.kind.isIdentifier = false := by rw [hcomparison]; rfl
    have hthird := isIdentifier_of_literal? hliteral
    simp [hfirst, hsecond, hthird, FieldTest.nameToken, ← hname]

theorem identifiers_of_carries {words : List Token} {tests : List FieldTest}
    (h : Carries filterScript words tests) :
    words.filter (·.kind.isIdentifier) = tests.map FieldTest.nameToken := by
  induction h with
  | nil => rfl
  | mark hm _ ih => rw [List.filter_cons_of_neg (by simp [isIdentifier_of_mark? hm]), ih]
  | test ha _ ih => rw [List.filter_append, IsFieldTest.identifiers ha, ih, List.map_cons,
      List.singleton_append]

theorem Lexer.Stands.identifier {text : List Char} {name : String} {span : Span}
    (h : Stands text ⟨.identifier name, span⟩) :
    ∃ before after, text = before ++ name.toList ++ after ∧
      span = ⟨Text.width before, Text.width (before ++ name.toList)⟩ := by
  obtain ⟨before, slice, after, htext, hspan, hspells, -⟩ := h
  obtain ⟨⟩ := hspells
  exact ⟨before, after, by simpa using htext, by simpa using hspan⟩

theorem exists_derives_of_parseFilter {limits : Limits} {text : String} {t : Filter}
    (h : parseFilter limits text = .ok (some t)) :
    ∃ words last, tokenize text = .ok (words ++ [last]) ∧ last.kind = .eof ∧
      Lexer.Segmentation text.toList words ∧ Derives filterScript .disjunction words t := by
  obtain ⟨tokens, htokens, hparse⟩ := bind_eq_ok_iff.1 h
  obtain ⟨hfault, rfl⟩ := Lexer.tokenize_eq_ok_iff.1 htokens
  have hsegments := Lexer.segmentation_scan hfault
  refine ⟨_, _, htokens, rfl, hsegments, ?_⟩
  exact Parser.derives_of_parse (fun token ht => (hsegments.stands token ht).kind_ne_eof)
    (by simp) hparse

/-- The tests of a filter are the tests of its text: each name stands at its span, the spans follow
one another in the order of the leaves, and the text has no other name and nothing but marks around
its tests. -/
theorem parseFilter_leaves_in_text (limits : Limits) (text : String) (t : Filter)
    (h : parseFilter limits text = .ok (some t)) :
    (∀ test ∈ t.leaves, test.span.start < test.span.stop ∧
      ∃ before after, text = before ++ test.field ++ after ∧
        test.span = ⟨before.utf8ByteSize, (before ++ test.field).utf8ByteSize⟩) ∧
    t.leaves.Pairwise (fun first second =>
      first.span.start < second.span.start ∧ first.span.stop ≤ second.span.start) ∧
    ∃ words last, tokenize text = .ok (words ++ [last]) ∧ last.kind = .eof ∧
      Carries filterScript words t.leaves ∧
      (words ++ [last]).filter (·.kind.isIdentifier) = t.leaves.map FieldTest.nameToken := by
  obtain ⟨words, last, htokens, hlast, hsegments, hderives⟩ := exists_derives_of_parseFilter h
  obtain ⟨tests, hleaves, hcarries⟩ := hderives.carries
  obtain rfl : t.leaves = tests := hleaves
  have hnames := identifiers_of_carries hcarries
  have hstands (test : FieldTest) (ht : test ∈ t.leaves) :
      Lexer.Stands text.toList test.nameToken := by
    have hmem := List.mem_map_of_mem (f := FieldTest.nameToken) ht
    rw [← hnames] at hmem
    exact hsegments.stands _ (List.mem_filter.1 hmem).1
  refine ⟨fun test ht => ⟨(hstands test ht).span_lt, ?_⟩, ?_,
    words, last, htokens, hlast, hcarries, ?_⟩
  · obtain ⟨before, after, htext, hspan⟩ := (hstands test ht).identifier
    refine ⟨String.ofList before, String.ofList after, ?_, ?_⟩
    · rw [← String.toList_inj, htext]
      simp
    · have hstop := Text.utf8ByteSize_ofList (before ++ test.field.toList)
      rw [String.ofList_append, String.ofList_toList] at hstop
      rw [hstop, Text.utf8ByteSize_ofList]
      exact hspan
  · have hordered := hsegments.ordered.filter (·.kind.isIdentifier)
    rw [hnames, List.pairwise_map] at hordered
    refine hordered.imp_of_mem fun {first second} hfirst _ hle => ⟨?_, hle⟩
    exact Nat.lt_of_lt_of_le (hstands first hfirst).span_lt hle
  · have hend : last.kind.isIdentifier = false := by rw [hlast]; rfl
    simp [hnames, hend]

theorem parseFilter_leaves_in_text_wide :
    let text := "a = \"é\" AND (NOT b<2 OR a != 3)"
    let t : Filter := .and (.leaf ⟨"a", .eq, .string "é", ⟨0, 1⟩⟩)
      (.or (.not (.leaf ⟨"b", .lt, .int 2, ⟨18, 19⟩⟩)) (.leaf ⟨"a", .ne, .int 3, ⟨25, 26⟩⟩))
    parseFilter {} text = .ok (some t) ∧
    (∃ before after, text = before ++ "b" ++ after ∧ before.utf8ByteSize = 18) ∧
    ∃ tokens, tokenize text = .ok tokens ∧ tokens.filter (·.kind.isIdentifier) =
      [⟨.identifier "a", ⟨0, 1⟩⟩, ⟨.identifier "b", ⟨18, 19⟩⟩, ⟨.identifier "a", ⟨25, 26⟩⟩] := by
  intro text t
  have h : parseFilter {} text = .ok (some t) := by cbv
  obtain ⟨hstand, -, words, last, htokens, -, -, hnames⟩ := parseFilter_leaves_in_text {} text t h
  refine ⟨h, ?_, _, htokens, hnames⟩
  obtain ⟨-, before, after, htext, hspan⟩ :=
    hstand ⟨"b", .lt, .int 2, ⟨18, 19⟩⟩ (by simp [t, Condition.leaves])
  exact ⟨before, after, htext, (congrArg Span.start hspan).symm⟩

end FilterSql
