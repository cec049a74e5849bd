import FilterSql.Proofs.Numeral
import FilterSql.Proofs.Parser.Expected
import FilterSql.Proofs.Parser.Leaves
import FilterSql.Proofs.Token.Layout

namespace FilterSql

def Text.placeValue (ds : List Char) : Nat :=
  Nat.ofDigits 10 (ds.reverse.map fun d => d.toNat - '0'.toNat)

theorem Text.natValue_eq_placeValue (ds : List Char) : natValue ds = placeValue ds := by
  induction ds using List.reverseRecOn with
  | nil => rfl
  | append_singleton ds d ih =>
    have hplace : placeValue (ds ++ [d]) = d.toNat - '0'.toNat + 10 * placeValue ds := by
      simp [placeValue, Nat.ofDigits_cons]
    have hvalue : natValue (ds ++ [d]) = 10 * natValue ds + (d.toNat - '0'.toNat) := by
      simp [natValue]
    rw [hplace, hvalue, ih, Nat.add_comm]

namespace Literal

/-- What a numeral stands for: the integer of its digits if it has no point, and otherwise a number
that is finite. -/
inductive IsNumber (w : List Char) : Literal → Prop
  | int {n : Int64} : '.' ∉ w → n.toInt = Text.placeValue w → Text.placeValue w ≤ 2 ^ 63 - 1 →
      IsNumber w (.int n)
  | float {x : Binary64} : '.' ∈ w → Binary64.read? w = some x → x.isFinite = true →
      IsNumber w (.float x)

theorem isSome_ofNumeral? (numeral : String) :
    (ofNumeral? numeral).isSome = Lexer.inRange numeral.toList := by
  unfold ofNumeral? Lexer.inRange
  split
  · simp
  · cases Text.readInt64 numeral.toList <;> rfl

theorem isNumber_of_ofNumeral? {w : List Char} {value : Literal} (hw : Lexer.IsNumeral w)
    (h : ofNumeral? (String.ofList w) = some value) : value.IsNumber w := by
  unfold ofNumeral? at h
  rw [String.toList_ofList] at h
  split at h
  · next hp =>
    obtain ⟨x, hx, rfl⟩ := Option.map_eq_some_iff.1 h
    exact .float hp hx (Option.filter_eq_some_iff.1 hx).2
  · next hp =>
    cases hw with
    | @whole d ds hd hds =>
      rw [Lexer.readInt64_digits (List.forall_mem_cons.2 ⟨hd, hds⟩),
        Text.natValue_eq_placeValue] at h
      split at h
      · cases h
      · next hle =>
        cases h
        refine .int hp (Int64.toInt_ofInt_of_le ?_ ?_) (Nat.not_lt.1 hle)
        · omega
        · omega
    | point => exact absurd (by simp) hp

end Literal

namespace Lexer

theorem inRange_of_mem_scanFrom {position : Nat} {cs : List Char} {token : Token}
    {numeral : String} (ht : token ∈ (scanFrom position cs).tokens)
    (hk : token.kind = .number numeral) : inRange numeral.toList = true := by
  fun_induction scanFrom position cs with
  | case1 => cases ht
  | case2 => cases ht
  | case3 position cs _ c rest hd k hcut _ _ ih =>
    rcases List.mem_cons.1 ht with rfl | ht
    · have hrange := inRange_of_cut hcut hk
      have hspells := (cut_spells hcut).1
      rw [show k.kind = .number numeral from hk] at hspells
      generalize k.taken = w at hrange hspells
      cases hspells
      rwa [String.toList_ofList]
    · exact ih ht

theorem hasValue_of_tokenize {text : String} {tokens : List Token}
    (h : tokenize text = .ok tokens) : ∀ token ∈ tokens, token.kind.HasValue := by
  obtain ⟨-, rfl⟩ := tokenize_eq_ok_iff.1 h
  intro token ht numeral hk
  rcases List.mem_append.1 ht with ht | ht
  · rw [Literal.isSome_ofNumeral?]
    exact inRange_of_mem_scanFrom ht hk
  · obtain rfl := List.mem_singleton.1 ht
    cases hk

end Lexer

def QueryError.IsLex : QueryError → Prop
  | .lex _ _ => True
  | _ => False

namespace Parser

theorem not_isLex_of_isLimit {error : QueryError} (h : error.IsLimit) : ¬error.IsLex := by
  cases error with
  | nestingTooDeep => exact id
  | _ => exact h.elim

theorem not_isLex_unexpected (token : Token) (expected : List Expectation) :
    ¬(unexpected token expected).IsLex := by
  unfold unexpected
  split <;> exact id

section Answers

variable {limits : Limits}

theorem not_isLex_of_refuse {s : State} {token : Token} {failure : Failure}
    (ht : token.kind.HasValue) (h : step limits s token = .refuse failure) :
    ¬failure.error.IsLex := by
  obtain ⟨error, depth⟩ := failure
  cases refused_of_refuse h with
  | limit hlimit => exact not_isLex_of_isLimit hlimit
  | lex _ _ hv => exact absurd ht hv
  | unexpected _ herror => exact herror ▸ not_isLex_unexpected token _

theorem not_isLex_of_atEnd {finish : Nat} {s : State} {failure : Failure}
    (h : atEnd limits finish s = .error failure) : ¬failure.error.IsLex := by
  unfold atEnd at h
  split at h
  · split at h
    · next hc =>
      cases h
      exact not_isLex_of_isLimit (close_error hc)
    · split at h
      · cases h; exact id
      · cases h
  · cases h; exact id

theorem not_isLex_of_run {finish : Nat} {s : State} {tokens : List Token} {error : QueryError}
    (ht : ∀ token ∈ tokens, token.kind.HasValue)
    (h : (run limits finish s tokens).answer = .error error) : ¬error.IsLex := by
  induction tokens generalizing s with
  | nil =>
    simp only [run] at h
    split at h
    · cases h
    · next he =>
      cases h
      exact not_isLex_of_atEnd he
  | cons token rest ih =>
    obtain ⟨htoken, hrest⟩ := List.forall_mem_cons.1 ht
    simp only [run] at h
    split at h
    · exact ih hrest h
    · cases h
    · next he =>
      cases h
      exact not_isLex_of_refuse htoken he
    · next he =>
      cases h
      exact not_isLex_of_isLimit (isLimit_of_overflow he)

theorem not_isLex_of_parse {p : Parser} {error : QueryError}
    (ht : ∀ token ∈ p.rest, token.kind.HasValue) (h : (p.parse limits).answer = .error error) :
    ¬error.IsLex := by
  unfold parse at h
  split at h
  · cases h
  · cases h
  · exact not_isLex_of_run ht h

theorem rest_run_suffix (finish : Nat) (s : State) (tokens : List Token) :
    (run limits finish s tokens).parser.rest <:+ tokens := by
  induction tokens generalizing s with
  | nil =>
    simp only [run]
    split <;> exact List.suffix_rfl
  | cons token rest ih =>
    simp only [run]
    split
    · exact (ih _).trans (List.suffix_cons token rest)
    · exact List.suffix_rfl
    · exact List.suffix_rfl
    · exact List.suffix_cons token rest

theorem rest_parse_suffix (p : Parser) : (p.parse limits).parser.rest <:+ p.rest := by
  unfold parse
  split
  · exact List.suffix_rfl
  · exact List.suffix_rfl
  · exact rest_run_suffix p.finish _ _

end Answers

def after (limits : Limits) (calls : Nat) (p : Parser) : Parser :=
  (fun p => (parse limits p).parser)^[calls] p

theorem rest_after_suffix (limits : Limits) (calls : Nat) (p : Parser) :
    (p.after limits calls).rest <:+ p.rest := by
  induction calls generalizing p with
  | zero => exact List.suffix_rfl
  | succ calls ih => exact (ih _).trans (rest_parse_suffix p)

theorem exists_words_of_suffix {rest words : List Token} {last : Token}
    (h : rest <:+ words ++ [last]) (hlast : last.kind = .eof) :
    ∃ later closing, rest = later ++ closing ∧ later ⊆ words ∧
      ∀ token ∈ closing, token.kind = .eof := by
  obtain ⟨taken, htaken⟩ := h
  obtain ⟨later, hwords, hrest⟩ | ⟨beyond, -, hend⟩ := List.append_eq_append_iff.1 htaken
  · refine ⟨later, [last], hrest, ?_, by simpa using hlast⟩
    exact hwords ▸ List.subset_append_right taken later
  · refine ⟨[], rest, rfl, List.nil_subset _, fun token ht => ?_⟩
    have hmem : token ∈ [last] := hend ▸ List.mem_append_right beyond ht
    rwa [List.mem_singleton.1 hmem]

end Parser

theorem Grammar.Carries.exists_of_mem {σ α : Type} {S : Script σ α} {words : List σ}
    {tests : List α} {a : α} (h : Carries S words tests) (ha : a ∈ tests) :
    ∃ before word after, words = before ++ word ++ after ∧ S.IsTest word a := by
  induction h with
  | nil => cases ha
  | @mark s _ _ _ _ _ ih =>
    obtain ⟨before, word, after, rfl, hword⟩ := ih ha
    exact ⟨s :: before, word, after, rfl, hword⟩
  | @test w u _ _ hw _ ih =>
    rcases List.mem_cons.1 ha with rfl | ha
    · exact ⟨[], w, u, rfl, hw⟩
    · obtain ⟨before, word, after, rfl, hword⟩ := ih ha
      exact ⟨w ++ before, word, after, by simp, hword⟩

theorem exists_numeral_of_literal? {kind : TokenKind} {value : Literal}
    (h : kind.literal? = some value) (hv : value.kind = .number) :
    ∃ numeral, kind = .number numeral ∧ Literal.ofNumeral? numeral = some value := by
  cases kind with
  | number numeral => exact ⟨numeral, rfl, h⟩
  | string content =>
    cases h
    cases hv
  | _ => cases h

/-- A test of the text: its name, its comparison and a numeral, which covers `w`. -/
def FieldTest.WrittenWith (text : List Char) (tokens : List Token) (test : FieldTest)
    (w : List Char) : Prop :=
  ∃ before comparison literal after,
    tokens = before ++ test.nameToken :: comparison :: literal :: after ∧
    comparison.kind = .comparison test.op ∧ literal.kind = .number (String.ofList w) ∧
    ∃ u v, text = u ++ w ++ v ∧ literal.span = ⟨Text.width u, Text.width (u ++ w)⟩

theorem exists_numeral_of_mem_leaves {limits : Limits} {text : String} {tokens : List Token}
    {p : Parser} {t : Filter} {test : FieldTest} (h : tokenize text = .ok tokens)
    (hp : p.rest <:+ tokens) (hparse : (p.parse limits).answer = .ok (some t))
    (ht : test ∈ t.leaves) (hv : test.value.kind = .number) :
    ∃ w, Lexer.IsNumeral w ∧ test.WrittenWith text.toList tokens w ∧ test.value.IsNumber w := by
  obtain ⟨hf, rfl⟩ := Lexer.tokenize_eq_ok_iff.1 h
  have hstands := (Lexer.segmentation_scan hf).stands
  obtain ⟨later, closing, hrest, hlater, hclosing⟩ := Parser.exists_words_of_suffix hp rfl
  have hderives := Parser.derives_of_answer hrest
    (fun token hmem => (hstands token (hlater hmem)).kind_ne_eof) hclosing hparse
  obtain ⟨tests, hleaves, hcarries⟩ := hderives.carries
  obtain rfl : t.leaves = tests := hleaves
  obtain ⟨before, word, after, rfl, hword⟩ := hcarries.exists_of_mem ht
  obtain ⟨taken, htaken⟩ := hp
  cases hword with
  | @mk name comparison literal field op value hname hcomparison hliteral =>
    obtain ⟨numeral, hkind, hvalue⟩ := exists_numeral_of_literal? hliteral hv
    obtain ⟨u, w, v, htext, hspan, hspells, -⟩ := hstands literal (hlater (by simp))
    rw [hkind] at hspells
    cases hspells with
    | number hw =>
      refine ⟨w, hw, ⟨taken ++ before, comparison, literal, after ++ closing, ?_, hcomparison,
        hkind, u, v, htext, hspan⟩, Literal.isNumber_of_ofNumeral? hw hvalue⟩
      rw [← htaken, hrest]
      simp [FieldTest.nameToken, ← hname]

/-- The scanner and the parser agree on numbers. No numeral among the tokens of a text is without a
value, so no answer of the parser is an error of a scanner, however often it was asked before; and
each number at a leaf is the one that its numeral in the text stands for. -/
theorem parse_numbers_in_text (text : String) (tokens : List Token) (limits : Limits)
    (h : tokenize text = .ok tokens) :
    (∀ token ∈ tokens, token.kind.HasValue) ∧
    ∀ calls,
      let answer := (((Parser.ofTokens tokens).after limits calls).parse limits).answer
      (∀ position fault, answer ≠ .error (.lex position fault)) ∧
      ∀ t, answer = .ok (some t) → ∀ test ∈ t.leaves, test.value.kind = .number →
        ∃ w, Lexer.IsNumeral w ∧ test.WrittenWith text.toList tokens w ∧
          test.value.IsNumber w := by
  have hvalues := Lexer.hasValue_of_tokenize h
  refine ⟨hvalues, fun calls => ?_⟩
  have hrest := Parser.rest_after_suffix limits calls (.ofTokens tokens)
  refine ⟨fun position fault herror => ?_, fun t ht test htest hv => ?_⟩
  · exact Parser.not_isLex_of_parse (fun token hmem => hvalues token (hrest.subset hmem)) herror
      trivial
  · exact exists_numeral_of_mem_leaves h hrest ht htest hv

theorem parse_numbers_in_text_again :
    let text := "NOT a >= 009223372036854775807 OR b < 0.50"
    let tokens : List Token :=
      [⟨.not, ⟨0, 3⟩⟩, ⟨.identifier "a", ⟨4, 5⟩⟩, ⟨.comparison .ge, ⟨6, 8⟩⟩,
        ⟨.number "009223372036854775807", ⟨9, 30⟩⟩, ⟨.or, ⟨31, 33⟩⟩, ⟨.identifier "b", ⟨34, 35⟩⟩,
        ⟨.comparison .lt, ⟨36, 37⟩⟩, ⟨.number "0.50", ⟨38, 42⟩⟩, ⟨.eof, ⟨42, 42⟩⟩]
    let limits : Limits := { depth := 0 }
    let whole : FieldTest := ⟨"a", .ge, .int 9223372036854775807, ⟨4, 5⟩⟩
    let half : FieldTest := ⟨"b", .lt, .float ⟨0x3fe0000000000000⟩, ⟨34, 35⟩⟩
    tokenize text = .ok tokens ∧
    ((Parser.ofTokens tokens).parse limits).answer = .error (.nestingTooDeep 0 0) ∧
    (((Parser.ofTokens tokens).after limits 1).parse limits).answer =
      .ok (some (.or (.leaf whole) (.leaf half))) ∧
    (∃ w, whole.WrittenWith text.toList tokens w ∧ whole.value.IsNumber w) ∧
    ∃ w, half.WrittenWith text.toList tokens w ∧ half.value.IsNumber w := by
  intro text tokens limits whole half
  have h : tokenize text = .ok tokens := by cbv
  have hanswer : (((Parser.ofTokens tokens).after limits 1).parse limits).answer =
      .ok (some (.or (.leaf whole) (.leaf half))) := by cbv
  obtain ⟨-, hcalls⟩ := parse_numbers_in_text text tokens limits h
  obtain ⟨-, hleaves⟩ := hcalls 1
  obtain ⟨w, -, hwhole⟩ := hleaves _ hanswer whole (by simp [Condition.leaves]) rfl
  obtain ⟨v, -, hhalf⟩ := hleaves _ hanswer half (by simp [Condition.leaves]) rfl
  exact ⟨h, rfl, hanswer, ⟨w, hwhole⟩, v, hhalf⟩

end FilterSql
