import FilterSql.Proofs.Parser.Nesting

namespace FilterSql.Parser

open Grammar

theorem kind_of_mark? {token : Token} {m : Mark} (h : filterScript.mark? token = some m) :
    token.kind =
      match m with
      | .and => .and
      | .or => .or
      | .not => .not
      | .lparen => .lparen
      | .rparen => .rparen := by
  change token.kind.mark? = some m at h
  cases hk : token.kind <;> rw [hk] at h <;> cases h <;> rfl

theorem kind_ne_eof_of_derives {p : Phrase FieldTest} {w : List Token} {t : Filter}
    (h : Derives filterScript p w t) : ∀ token ∈ w, token.kind ≠ .eof := by
  have hmark {token : Token} {m : Mark} (hm : filterScript.mark? token = some m) :
      token.kind ≠ .eof := by
    rw [kind_of_mark? hm]
    cases m <;> nofun
  induction h with
  | disjunction _ _ ihu ihv | conjunction _ _ ihu ihv =>
    exact List.forall_mem_append.2 ⟨ihu, ihv⟩
  | noDisjunct | noConjunct => simp
  | disjunct hm _ _ ihu ihv | conjunct hm _ _ ihu ihv =>
    exact List.forall_mem_append.2 ⟨List.forall_mem_cons.2 ⟨hmark hm, ihu⟩, ihv⟩
  | negation hm _ ih => exact List.forall_mem_cons.2 ⟨hmark hm, ih⟩
  | unary _ ih => exact ih
  | test ha =>
    cases ha with
    | @mk _ _ literal _ _ _ hn hc hl =>
      have hliteral : literal.kind ≠ .eof := fun hk => by rw [hk] at hl; cases hl
      simp [hn, hc, hliteral]
  | parentheses hm _ he ih =>
    exact List.forall_mem_append.2 ⟨List.forall_mem_cons.2 ⟨hmark hm, ih⟩, by simpa using hmark he⟩

theorem grow_of_le {limits : Limits} {depth position : Nat} {tree : Filter} {height : Nat}
    (h : height ≤ limits.height) : grow limits depth position tree height = .ok ⟨tree, height⟩ :=
  if_neg (Nat.not_lt.2 h)

section Close

variable {limits : Limits} {depth position : Nat} {stack : List Frame} {l x : Subtree}

theorem close_not (b : Bool) (h : x.height + 1 ≤ limits.height) :
    close limits b depth (.not position :: stack) x =
      close limits b (depth - 1) stack ⟨.not x.tree, x.height + 1⟩ := by
  simp only [close, grow_of_le h]

theorem close_and (b : Bool) (h : max l.height x.height + 1 ≤ limits.height) :
    close limits b depth (.and l position :: stack) x =
      close limits b depth stack ⟨.and l.tree x.tree, max l.height x.height + 1⟩ := by
  simp only [close, grow_of_le h]

theorem close_or (h : max l.height x.height + 1 ≤ limits.height) :
    close limits false depth (.or l position :: stack) x =
      close limits false depth stack ⟨.or l.tree x.tree, max l.height x.height + 1⟩ := by
  simp only [close, grow_of_le h]
  rfl

theorem close_of_bare (h : Bare stack) :
    close limits false depth stack x = .ok ⟨depth, stack, x⟩ := by
  match stack, h with
  | [], _ => rfl
  | .paren :: _, _ => rfl

theorem close_of_loose (h : Loose stack) :
    close limits true depth stack x = .ok ⟨depth, stack, x⟩ := by
  match stack, h with
  | [], _ => rfl
  | .paren :: _, _ => rfl
  | .or _ _ :: _, _ => rfl

end Close

/-- Two states behind an operand go on alike if closing makes them alike, before an AND and
elsewhere. -/
theorem run_congr {limits : Limits} {finish depth depth' : Nat} {stack stack' : List Frame}
    {x x' : Subtree} {rest : List Token}
    (hc : close limits false depth stack x = close limits false depth' stack' x')
    (ha : ¬Avoids filterScript .and rest →
      close limits true depth stack x = close limits true depth' stack' x') :
    run limits finish ⟨depth, stack, .complete x⟩ rest =
      run limits finish ⟨depth', stack', .complete x'⟩ rest := by
  cases rest with
  | nil => simp only [run, atEnd, hc]
  | cons token rest =>
    have hs : step limits ⟨depth, stack, .complete x⟩ token =
        step limits ⟨depth', stack', .complete x'⟩ token := by
      simp only [step]
      split
      · next hk =>
        have h := ha (by simp [mark?_of_kind hk, TokenKind.mark?])
        simp only [operator, h]
      · simp only [operator, hc]
      · simp only [finishOperand, hc]
    simp only [run, hs]

def start : Phrase FieldTest → Phase
  | .disjuncts l => .complete ⟨l, l.height⟩
  | .conjuncts l => .complete ⟨l, l.height⟩
  | _ => .operand

theorem run_shift {limits : Limits} {finish : Nat} {s s' : State} {token : Token}
    {rest : List Token} (h : step limits s token = .shift s') :
    run limits finish s (token :: rest) = run limits finish s' rest := by
  simp only [run, h]

section Step

variable {limits : Limits} {depth : Nat} {stack : List Frame} {x : Subtree} {token : Token}

theorem step_not (hk : token.kind = .not) (hd : depth + 1 ≤ limits.depth) :
    step limits ⟨depth, stack, .operand⟩ token =
      .shift ⟨depth + 1, .not token.span.start :: stack, .operand⟩ := by
  simp only [step, hk, enter]
  exact if_neg (Nat.not_lt.2 hd)

theorem step_lparen (hk : token.kind = .lparen) (hd : depth + 1 ≤ limits.depth) :
    step limits ⟨depth, stack, .operand⟩ token = .shift ⟨depth + 1, .paren :: stack, .operand⟩ := by
  simp only [step, hk, enter]
  exact if_neg (Nat.not_lt.2 hd)

theorem step_rparen (hk : token.kind = .rparen) :
    step limits ⟨depth + 1, .paren :: stack, .complete x⟩ token =
      .shift ⟨depth, stack, .complete x⟩ := by
  simp only [step, hk, finishOperand, close]
  rfl

theorem step_and (hk : token.kind = .and) (hf : Loose stack) :
    step limits ⟨depth, stack, .complete x⟩ token =
      .shift ⟨depth, .and x token.span.start :: stack, .operand⟩ := by
  simp only [step, hk, operator, close_of_loose hf]

theorem step_or (hk : token.kind = .or) (hf : Bare stack) :
    step limits ⟨depth, stack, .complete x⟩ token =
      .shift ⟨depth, .or x token.span.start :: stack, .operand⟩ := by
  simp only [step, hk, operator, close_of_bare hf]

end Step

theorem run_test {limits : Limits} {finish depth : Nat} {stack : List Frame}
    {w rest : List Token} {test : FieldTest} (h : IsFieldTest w test) :
    run limits finish ⟨depth, stack, .operand⟩ (w ++ rest) =
      run limits finish ⟨depth, stack, .complete ⟨.leaf test, 1⟩⟩ rest := by
  cases h with
  | @mk name comparison literal field op value hn hc hl =>
    have h₁ : step limits ⟨depth, stack, .operand⟩ name =
        .shift ⟨depth, stack, .comparison field name.span⟩ := by
      simp only [step, hn]
    have h₂ : step limits ⟨depth, stack, .comparison field name.span⟩ comparison =
        .shift ⟨depth, stack, .literal field name.span op⟩ := by
      simp only [step, hc]
    have h₃ : step limits ⟨depth, stack, .literal field name.span op⟩ literal =
        .shift ⟨depth, stack, .complete ⟨.leaf ⟨field, op, value, name.span⟩, 1⟩⟩ := by
      cases hk : literal.kind <;> rw [hk] at hl <;> simp only [TokenKind.literal?] at hl <;>
        simp_all [step]
    simp only [List.cons_append, List.nil_append]
    rw [run_shift h₁, run_shift h₂, run_shift h₃]

/-- Reading the word of a part brings the parser behind the condition of that part, with the stack
and the depth it had. -/
theorem run_derives {limits : Limits} {finish depth : Nat} {p : Phrase FieldTest}
    {w rest : List Token} {t : Filter} {stack : List Frame} (h : Derives filterScript p w t)
    (hf : Fits p stack) (he : Ends filterScript p rest) (hd : depth + nesting w ≤ limits.depth)
    (hh : t.height ≤ limits.height) :
    run limits finish ⟨depth, stack, start p⟩ (w ++ rest) =
      run limits finish ⟨depth, stack, .complete ⟨t, t.height⟩⟩ rest := by
  induction h generalizing depth rest stack with
  | @disjunction u v l t hu hv ihu ihv =>
    have hl := hv.leftHeight_le
    rw [nesting_append hu] at hd
    calc
      run limits finish ⟨depth, stack, .operand⟩ (u ++ v ++ rest)
        = run limits finish ⟨depth, stack, .operand⟩ (u ++ (v ++ rest)) := by
          rw [List.append_assoc]
      _ = run limits finish ⟨depth, stack, .complete ⟨l, l.height⟩⟩ (v ++ rest) :=
          ihu (Bare.loose hf) (hv.avoids_and he.1) (by omega) (Nat.le_trans hl hh)
      _ = run limits finish ⟨depth, stack, .complete ⟨t, t.height⟩⟩ rest :=
          ihv hf he (by omega) hh
  | noDisjunct => rfl
  | @disjunct s u v l r t hm hu hv ihu ihv =>
    have hl : (Condition.or l r).height ≤ limits.height := Nat.le_trans hv.leftHeight_le hh
    simp only [Condition.height] at hl
    rw [List.cons_append, nesting_operator (.inr hm), nesting_append hu] at hd
    have hand := hv.avoids_and he.1
    calc
      run limits finish ⟨depth, stack, .complete ⟨l, l.height⟩⟩ (s :: u ++ v ++ rest)
        = run limits finish ⟨depth, .or ⟨l, l.height⟩ s.span.start :: stack, .operand⟩
            (u ++ (v ++ rest)) := by
          rw [← List.append_assoc, List.cons_append, List.cons_append]
          exact run_shift (step_or (kind_of_mark? hm) hf)
      _ = run limits finish
            ⟨depth, .or ⟨l, l.height⟩ s.span.start :: stack, .complete ⟨r, r.height⟩⟩
            (v ++ rest) :=
          ihu trivial hand (by omega) (by omega)
      _ = run limits finish ⟨depth, stack, .complete ⟨.or l r, (Condition.or l r).height⟩⟩
            (v ++ rest) :=
          -- an AND here would take `r` before the OR does, but none follows
          run_congr (close_or hl) (fun h => absurd hand h)
      _ = run limits finish ⟨depth, stack, .complete ⟨t, t.height⟩⟩ rest :=
          ihv hf he (by omega) hh
  | @conjunction u v l t hu hv ihu ihv =>
    have hl := hv.leftHeight_le
    rw [nesting_append hu] at hd
    calc
      run limits finish ⟨depth, stack, .operand⟩ (u ++ v ++ rest)
        = run limits finish ⟨depth, stack, .operand⟩ (u ++ (v ++ rest)) := by
          rw [List.append_assoc]
      _ = run limits finish ⟨depth, stack, .complete ⟨l, l.height⟩⟩ (v ++ rest) :=
          ihu trivial trivial (by omega) (Nat.le_trans hl hh)
      _ = run limits finish ⟨depth, stack, .complete ⟨t, t.height⟩⟩ rest :=
          ihv hf he (by omega) hh
  | noConjunct => rfl
  | @conjunct s u v l r t hm hu hv ihu ihv =>
    have hl : (Condition.and l r).height ≤ limits.height := Nat.le_trans hv.leftHeight_le hh
    simp only [Condition.height] at hl
    rw [List.cons_append, nesting_operator (.inl hm), nesting_append hu] at hd
    calc
      run limits finish ⟨depth, stack, .complete ⟨l, l.height⟩⟩ (s :: u ++ v ++ rest)
        = run limits finish ⟨depth, .and ⟨l, l.height⟩ s.span.start :: stack, .operand⟩
            (u ++ (v ++ rest)) := by
          rw [← List.append_assoc, List.cons_append, List.cons_append]
          exact run_shift (step_and (kind_of_mark? hm) hf)
      _ = run limits finish
            ⟨depth, .and ⟨l, l.height⟩ s.span.start :: stack, .complete ⟨r, r.height⟩⟩
            (v ++ rest) :=
          ihu trivial trivial (by omega) (by omega)
      _ = run limits finish ⟨depth, stack, .complete ⟨.and l r, (Condition.and l r).height⟩⟩
            (v ++ rest) :=
          run_congr (close_and false hl) (fun _ => close_and true hl)
      _ = run limits finish ⟨depth, stack, .complete ⟨t, t.height⟩⟩ rest :=
          ihv hf he (by omega) hh
  | @negation s u t hm hu ih =>
    simp only [Condition.height] at hh
    rw [nesting_negation hm hu] at hd
    calc
      run limits finish ⟨depth, stack, .operand⟩ (s :: u ++ rest)
        = run limits finish ⟨depth + 1, .not s.span.start :: stack, .operand⟩ (u ++ rest) :=
          run_shift (step_not (kind_of_mark? hm) (by omega))
      _ = run limits finish
            ⟨depth + 1, .not s.span.start :: stack, .complete ⟨t, t.height⟩⟩ rest :=
          ih trivial trivial (by omega) (by omega)
      _ = run limits finish ⟨depth, stack, .complete ⟨.not t, (Condition.not t).height⟩⟩ rest :=
          run_congr (close_not false hh) (fun _ => close_not true hh)
  | unary _ ih => exact ih trivial trivial hd hh
  | test ha => exact run_test ha
  | @parentheses s u e t hm hu hc ih =>
    rw [nesting_parentheses hm hu hc] at hd
    calc
      run limits finish ⟨depth, stack, .operand⟩ (s :: u ++ [e] ++ rest)
        = run limits finish ⟨depth + 1, .paren :: stack, .operand⟩ (u ++ (e :: rest)) := by
          rw [List.append_assoc, List.cons_append]
          exact run_shift (step_lparen (kind_of_mark? hm) (by omega))
      _ = run limits finish ⟨depth + 1, .paren :: stack, .complete ⟨t, t.height⟩⟩ (e :: rest) :=
          ih trivial (by simp [Ends, hc]) (by omega) hh
      _ = run limits finish ⟨depth, stack, .complete ⟨t, t.height⟩⟩ rest :=
          run_shift (step_rparen (kind_of_mark? hc))

theorem run_closing {limits : Limits} {finish depth : Nat} {x : Subtree} {closing : List Token}
    (hc : ∀ token ∈ closing, token.kind = .eof) :
    (run limits finish ⟨depth, [], .complete x⟩ closing).answer = .ok (some x.tree) := by
  cases closing with
  | nil => simp only [run, atEnd, close]
  | cons token rest =>
    have hk := hc token (by simp)
    have hs : step limits ⟨depth, [], .complete x⟩ token = .accept depth x.tree := by
      simp only [step, hk, finishOperand, close]
    simp only [run, hs]

theorem run_of_derives {limits : Limits} {finish : Nat} {w closing : List Token} {t : Filter}
    (hc : ∀ token ∈ closing, token.kind = .eof) (h : Derives filterScript .disjunction w t)
    (hd : nesting w ≤ limits.depth) (hh : t.height ≤ limits.height) :
    (run limits finish ⟨0, [], .operand⟩ (w ++ closing)).answer = .ok (some t) := by
  have hends : Ends filterScript .disjunction closing := by
    constructor <;> intro s hs <;>
      simp [mark?_of_kind (hc s (List.mem_of_mem_head? hs)), TokenKind.mark?]
  rw [← run_closing (x := ⟨t, t.height⟩) hc]
  exact congrArg Outcome.answer (run_derives h trivial hends (by simpa using hd) hh)

theorem run_ne_none {limits : Limits} {finish : Nat} {s : State} {tokens : List Token} :
    (run limits finish s tokens).answer ≠ .ok none := by
  induction tokens generalizing s with
  | nil =>
    simp only [run]
    split <;> simp
  | cons token rest ih =>
    simp only [run]
    split
    · exact ih
    · simp
    · simp
    · simp

theorem parse_eq_run {limits : Limits} {p : Parser} {token : Token} {rest : List Token}
    (hr : p.rest = token :: rest) (h : token.kind ≠ .eof) :
    p.parse limits = run limits p.finish ⟨p.depth, [], .operand⟩ p.rest := by
  unfold parse
  split
  · next he => cases hr.symm.trans he
  · next he =>
    cases hr.symm.trans he
    exact absurd rfl h
  · rfl

theorem parse_cons {limits : Limits} {token : Token} {rest : List Token}
    (h : token.kind ≠ .eof) :
    (ofTokens (token :: rest)).parse limits =
      run limits (ofTokens (token :: rest)).finish ⟨0, [], .operand⟩ (token :: rest) :=
  parse_eq_run rfl h

theorem parse_atEnd {limits : Limits} {p : Parser} (hc : ∀ token ∈ p.rest, token.kind = .eof) :
    p.parse limits = ⟨.ok none, p⟩ := by
  unfold parse
  split
  · rfl
  · rfl
  · next hnil heof =>
    cases hr : p.rest with
    | nil => exact absurd hr hnil
    | cons token rest =>
      obtain ⟨kind, span⟩ := token
      obtain rfl : kind = .eof := hc ⟨kind, span⟩ (by simp [hr])
      exact absurd hr (heof span rest)

theorem parse_closing {limits : Limits} {closing : List Token}
    (hc : ∀ token ∈ closing, token.kind = .eof) :
    ((ofTokens closing).parse limits).answer = .ok none :=
  congrArg Outcome.answer (parse_atEnd hc)

theorem parse_eq_none_iff {limits : Limits} {tokens closing : List Token}
    (ht : ∀ token ∈ tokens, token.kind ≠ .eof) (hc : ∀ token ∈ closing, token.kind = .eof) :
    ((ofTokens (tokens ++ closing)).parse limits).answer = .ok none ↔ tokens = [] := by
  cases tokens with
  | nil => simp [parse_closing hc]
  | cons token rest =>
    rw [List.cons_append, parse_cons (ht token (by simp))]
    simp [run_ne_none]

theorem derives_of_answer {limits : Limits} {p : Parser} {tokens closing : List Token} {t : Filter}
    (hr : p.rest = tokens ++ closing) (ht : ∀ token ∈ tokens, token.kind ≠ .eof)
    (hc : ∀ token ∈ closing, token.kind = .eof) (h : (p.parse limits).answer = .ok (some t)) :
    Derives filterScript .disjunction tokens t := by
  cases tokens with
  | nil =>
    rw [parse_atEnd (by rwa [hr])] at h
    cases h
  | cons token rest =>
    rw [parse_eq_run hr (ht token (by simp)), hr] at h
    exact derives_of_run (reads_start p.depth) ht hc h

theorem derives_of_parse {limits : Limits} {tokens closing : List Token} {t : Filter}
    (ht : ∀ token ∈ tokens, token.kind ≠ .eof) (hc : ∀ token ∈ closing, token.kind = .eof)
    (h : ((ofTokens (tokens ++ closing)).parse limits).answer = .ok (some t)) :
    Derives filterScript .disjunction tokens t :=
  derives_of_answer rfl ht hc h

theorem parse_of_derives {limits : Limits} {tokens closing : List Token} {t : Filter}
    (ht : ∀ token ∈ tokens, token.kind ≠ .eof) (hc : ∀ token ∈ closing, token.kind = .eof)
    (h : Derives filterScript .disjunction tokens t) (hd : nesting tokens ≤ limits.depth)
    (hh : t.height ≤ limits.height) :
    ((ofTokens (tokens ++ closing)).parse limits).answer = .ok (some t) := by
  cases tokens with
  | nil => exact absurd rfl h.ne_nil
  | cons token rest =>
    rw [List.cons_append, parse_cons (ht token (by simp)), ← List.cons_append]
    exact run_of_derives hc h hd hh

theorem parse_eq_some_iff {limits : Limits} {tokens closing : List Token} {t : Filter}
    (ht : ∀ token ∈ tokens, token.kind ≠ .eof) (hc : ∀ token ∈ closing, token.kind = .eof)
    (hd : tokens.length ≤ limits.depth) (hh : tokens.length ≤ limits.height) :
    ((ofTokens (tokens ++ closing)).parse limits).answer = .ok (some t) ↔
      Derives filterScript .disjunction tokens t := by
  refine ⟨derives_of_parse ht hc, fun h => ?_⟩
  have hheight := h.height_le
  simp only [Phrase.leftHeight] at hheight
  exact parse_of_derives ht hc h (Nat.le_trans (nesting_le_length tokens) hd) (by omega)

/-- The parser accepts the language of the grammar: it finds no filter where there is no token, the
condition that the tokens are written for where there is one, and nothing else. -/
theorem parse_eq_ok_iff_derives (limits : Limits) (tokens closing : List Token)
    (ht : ∀ token ∈ tokens, token.kind ≠ .eof)
    (hc : closing = [] ∨ ∃ span, closing = [⟨.eof, span⟩])
    (hd : tokens.length ≤ limits.depth) (hh : tokens.length ≤ limits.height) :
    (((ofTokens (tokens ++ closing)).parse limits).answer = .ok none ↔ tokens = []) ∧
    (∀ t, ((ofTokens (tokens ++ closing)).parse limits).answer = .ok (some t) ↔
      Derives filterScript .disjunction tokens t) ∧
    ∀ w t u, Derives filterScript .disjunction w t → Derives filterScript .disjunction w u →
      t = u := by
  have hc : ∀ token ∈ closing, token.kind = .eof := by
    rcases hc with rfl | ⟨span, rfl⟩ <;> simp
  exact ⟨parse_eq_none_iff ht hc, fun t => parse_eq_some_iff ht hc hd hh,
    fun w t u => Derives.condition_unique⟩

theorem parse_eq_ok_iff_derives_mixed :
    let token (kind : TokenKind) : Token := ⟨kind, ⟨0, 1⟩⟩
    let test (name : String) (op : Comparison) (literal : TokenKind) : List Token :=
      [token (.identifier name), token (.comparison op), token literal]
    let tokens := token .not :: test "a" .eq (.string "x") ++ token .or ::
      test "b" .ne (.number "1") ++ token .and :: token .lparen ::
      test "c" .lt (.number "25") ++ token .or :: test "a" .eq (.string "x") ++ [token .rparen]
    let leaf (field : String) (op : Comparison) (value : Literal) : Filter :=
      .leaf ⟨field, op, value, ⟨0, 1⟩⟩
    ((ofTokens (tokens ++ [token .eof])).parse {}).answer ≠ .ok none ∧
    Derives filterScript .disjunction tokens
      (.or (.not (leaf "a" .eq (.string "x")))
        (.and (leaf "b" .ne (.int 1))
          (.or (leaf "c" .lt (.int 25)) (leaf "a" .eq (.string "x"))))) := by
  intro token test tokens leaf
  obtain ⟨hnone, hsome, -⟩ := parse_eq_ok_iff_derives {} tokens [token .eof] (by decide)
    (.inr ⟨_, rfl⟩) (by decide) (by decide)
  constructor
  · exact fun h => absurd (hnone.1 h) (by decide)
  · exact (hsome _).1 rfl

end FilterSql.Parser
