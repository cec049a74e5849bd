import FilterSql.Proofs.Parser.Completeness
import FilterSql.Proofs.Token.Segmentation

/-!
Where the parser gives up, and what it says it expected. The tokens behind which it still goes on are
those that begin a condition, so an error stands at the first token that no condition can go on with,
and names what could stand in its place.
-/

namespace FilterSql

def TokenKind.expectation : TokenKind → Expectation
  | .and => .and
  | .or => .or
  | .not => .not
  | .identifier _ => .fieldName
  | .string _ => .stringLiteral
  | .number _ => .numberLiteral
  | .lparen => .lparen
  | .rparen => .rparen
  | .comparison op => .comparison op
  | .eof => .endOfInput

/-- Not a numeral that stands for no number. -/
def TokenKind.HasValue (kind : TokenKind) : Prop :=
  ∀ numeral, kind = .number numeral → (Literal.ofNumeral? numeral).isSome = true

def QueryError.IsLimit : QueryError → Prop
  | .nestingTooDeep _ _ => True
  | _ => False

namespace Lexer

theorem pairwise_start {text : String} {tokens : List Token} (h : tokenize text = .ok tokens) :
    tokens.Pairwise fun first second => first.span.start < second.span.start := by
  obtain ⟨hf, rfl⟩ := tokenize_eq_ok_iff.1 h
  have hs := segmentation_scan hf
  refine List.pairwise_append.2 ⟨hs.ordered.imp_of_mem fun hfirst _ hle => ?_,
    List.pairwise_singleton _ _, fun token ht last hl => ?_⟩
  · exact Nat.lt_of_lt_of_le (hs.stands _ hfirst).span_lt hle
  · obtain rfl := List.mem_singleton.1 hl
    have hstop := (hs.stands token ht).stop_le
    rw [← Text.utf8ByteSize_ofList, String.ofList_toList] at hstop
    exact Nat.lt_of_lt_of_le (hs.stands token ht).span_lt hstop

end Lexer

namespace Parser

open Grammar

def Sentence (w : List Token) : Prop := ∃ t, Derives filterScript .disjunction w t

/-- The tokens begin a sentence. -/
def Viable (w : List Token) : Prop := ∃ v, Sentence (w ++ v)

theorem Viable.of_append {u v : List Token} (h : Viable (u ++ v)) : Viable u := by
  obtain ⟨w, h⟩ := h
  exact ⟨v ++ w, by simpa using h⟩

theorem Spelled.viable {stack : List Frame} {u w : List Token} {p : Phrase FieldTest} {x : Subtree}
    (hs : Spelled stack u) (hx : Written p w x) (hp : Operand false p) (hf : Fits p stack) :
    Viable (u ++ w) := by
  induction hs generalizing p w x with
  | nil =>
    refine ⟨[], x.tree, ?_⟩
    rw [List.append_nil]
    exact (hp.written_closed hx).derives
  | not _ ht ih =>
    cases hp with
    | unary => simpa using ih (hx.not ht) .unary trivial
    | conjunction => cases hf
    | disjunction => cases hf
  | and _ hfs hl ht ih =>
    cases hp with
    | unary => simpa using ih (hl.and ht hx) .conjunction hfs
    | conjunction => cases hf
    | disjunction => cases hf
  | or _ hfs hl ht ih =>
    have hx' : Written .conjunction w x := by
      cases hp with
      | unary => exact ⟨hx.derives.toConjunction, hx.height_eq⟩
      | conjunction => exact hx
      | disjunction => cases hf
    simpa using ih (hl.or ht hx') (.disjunction rfl) hfs
  | @paren _ u token _ ht ih =>
    -- the tokens alone are no operand; with the closing one they are
    let closing : Token := ⟨.rparen, ⟨0, 0⟩⟩
    have hprimary : Derives filterScript .primary (token :: w ++ [closing]) x.tree :=
      .parentheses (mark?_of_kind ht) (hp.written_closed hx).derives rfl
    have h := ih (x := x) ⟨.unary hprimary, hx.height_eq⟩ .unary trivial
    refine Viable.of_append (v := [closing]) ?_
    simpa using h

theorem Phase.Reads.completed {phase : Phase} {w : List Token} (h : phase.Reads w) :
    ∃ v x, Written .unary (w ++ v) x := by
  let name : Token := ⟨.identifier "a", ⟨0, 0⟩⟩
  let comparison : Token := ⟨.comparison .eq, ⟨0, 0⟩⟩
  let literal : Token := ⟨.string "", ⟨0, 0⟩⟩
  cases phase with
  | operand =>
    obtain rfl := h
    exact ⟨[name, comparison, literal], _, written_leaf rfl rfl rfl⟩
  | comparison field span =>
    obtain ⟨name, rfl, hn, -⟩ := h
    exact ⟨[comparison, literal], _, written_leaf hn rfl rfl⟩
  | literal field span op =>
    obtain ⟨name, comparison, rfl, hn, -, hc⟩ := h
    exact ⟨[literal], _, written_leaf hn hc rfl⟩
  | complete x => exact ⟨[], x, by rwa [List.append_nil]⟩

theorem viable_of_reads {s : State} {u : List Token} (h : s.Reads u) : Viable u := by
  obtain ⟨v, w, rfl, hv, hw⟩ := h
  obtain ⟨rest, x, hx⟩ := hw.completed
  refine Viable.of_append (v := rest) ?_
  simpa using hv.viable hx .unary trivial

def Step.Free : Step → Prop
  | .shift _ => True
  | .accept _ _ => True
  | .refuse failure => ¬failure.error.IsLimit
  | .overflow _ => False

theorem grow_error {limits : Limits} {depth position : Nat} {tree : Filter} {height : Nat}
    {failure : Failure} (h : grow limits depth position tree height = .error failure) :
    failure.error.IsLimit := by
  unfold grow at h
  split at h
  · cases h; trivial
  · cases h

theorem close_error {limits : Limits} {beforeAnd : Bool} {depth : Nat} {stack : List Frame}
    {x : Subtree} {failure : Failure} (h : close limits beforeAnd depth stack x = .error failure) :
    failure.error.IsLimit := by
  fun_induction close limits beforeAnd depth stack x with
  | case1 _ _ _ _ _ hg => cases h; exact grow_error hg
  | case2 _ _ _ _ _ _ ih => exact ih h
  | case3 _ _ _ _ _ _ hg => cases h; exact grow_error hg
  | case4 _ _ _ _ _ _ _ ih => exact ih h
  | case5 => cases h
  | case6 _ _ _ _ _ _ _ hg => cases h; exact grow_error hg
  | case7 _ _ _ _ _ _ _ _ ih => exact ih h
  | case8 => cases h

section Raised

variable {limits raised : Limits}

theorem grow_raised (hh : limits.height ≤ raised.height) {depth position : Nat} {tree : Filter}
    {height : Nat} {x : Subtree} (h : grow limits depth position tree height = .ok x) :
    grow raised depth position tree height = .ok x := by
  unfold grow at h
  split at h
  · cases h
  · next hle => exact h ▸ grow_of_le (by omega)

theorem close_raised (hh : limits.height ≤ raised.height) {beforeAnd : Bool} {depth : Nat}
    {stack : List Frame} {x : Subtree} {c : Pending}
    (h : close limits beforeAnd depth stack x = .ok c) :
    close raised beforeAnd depth stack x = .ok c := by
  fun_induction close limits beforeAnd depth stack x with
  | case1 | case3 | case6 => cases h
  | case2 _ _ _ _ _ hg ih => rw [close, grow_raised hh hg]; exact ih h
  | case4 _ _ _ _ _ _ hg ih => rw [close, grow_raised hh hg]; exact ih h
  | case5 _ _ _ _ _ hb => rw [close, if_pos hb]; exact h
  | case7 _ _ _ _ _ hb _ hg ih => rw [close, if_neg hb, grow_raised hh hg]; exact ih h
  | case8 depth stack x hnot hand hor =>
    rw [close.eq_4 _ _ _ _ _ hnot hand hor]
    exact h

theorem close_beforeAnd {beforeAnd : Bool} {depth : Nat} {stack : List Frame} {x : Subtree}
    {c : Pending} (h : close limits beforeAnd depth stack x = .ok c) :
    ∃ c', close limits true depth stack x = .ok c' := by
  fun_induction close limits beforeAnd depth stack x with
  | case1 | case3 | case6 => cases h
  | case2 _ _ _ _ _ hg ih => rw [close, hg]; exact ih h
  | case4 _ _ _ _ _ _ hg ih => rw [close, hg]; exact ih h
  | case5 => exact ⟨_, by rw [close, if_pos rfl]⟩
  | case7 => exact ⟨_, by rw [close, if_pos rfl]⟩
  | case8 depth stack x hnot hand hor =>
    exact ⟨_, close.eq_4 _ _ _ _ _ hnot hand hor⟩

theorem enter_raised (hd : limits.depth ≤ raised.depth) {s : State} {token : Token} {frame : Frame}
    (h : (enter limits s token frame).Free) :
    enter raised s token frame = enter limits s token frame := by
  unfold enter at h ⊢
  split at h
  · cases h
  · next hle => rw [if_neg hle, if_neg (by omega)]

theorem operator_raised (hh : limits.height ≤ raised.height) {s : State} {x : Subtree}
    {beforeAnd : Bool} {frame : Subtree → Frame} (h : (operator limits s x beforeAnd frame).Free) :
    operator raised s x beforeAnd frame = operator limits s x beforeAnd frame := by
  unfold operator at h ⊢
  cases hc : close limits beforeAnd s.depth s.stack x with
  | error failure =>
    rw [hc] at h
    exact absurd (close_error hc) h
  | ok c => rw [close_raised hh hc]

theorem finishOperand_raised (hh : limits.height ≤ raised.height) {s : State} {x : Subtree}
    {token : Token} (h : (finishOperand limits s x token).Free) :
    finishOperand raised s x token = finishOperand limits s x token := by
  unfold finishOperand at h ⊢
  cases hc : close limits false s.depth s.stack x with
  | error failure =>
    rw [hc] at h
    exact absurd (close_error hc) h
  | ok c => rw [close_raised hh hc]

theorem step_raised (hd : limits.depth ≤ raised.depth) (hh : limits.height ≤ raised.height)
    {s : State} {token : Token} (h : (step limits s token).Free) :
    step raised s token = step limits s token := by
  unfold step at h ⊢
  split at h
  · split at h
    · exact enter_raised hd h
    · exact enter_raised hd h
    · rfl
    · rfl
  · rfl
  · rfl
  · split at h
    · exact operator_raised hh h
    · exact operator_raised hh h
    · exact finishOperand_raised hh h

end Raised

/-- The parser comes to this state behind these tokens, under the limits and under all that are
higher. -/
structure Follows (limits : Limits) (s : State) (u : List Token) : Prop where
  reads : s.Reads u
  run_eq : ∀ raised : Limits, limits.depth ≤ raised.depth → limits.height ≤ raised.height →
    ∀ finish rest, run raised finish ⟨0, [], .operand⟩ (u ++ rest) = run raised finish s rest

theorem follows_start (limits : Limits) : Follows limits ⟨0, [], .operand⟩ [] :=
  ⟨reads_start 0, fun _ _ _ _ _ => rfl⟩

section Follows

variable {limits : Limits} {s : State} {u : List Token}

theorem Follows.shift {s' : State} {token : Token} (h : Follows limits s u)
    (hs : step limits s token = .shift s') : Follows limits s' (u ++ [token]) where
  reads := reads_shift h.reads hs
  run_eq raised hd hh finish rest := by
    have hstep : step raised s token = .shift s' :=
      (step_raised hd hh (by rw [hs]; trivial)).trans hs
    rw [List.append_assoc, h.run_eq raised hd hh]
    exact run_shift hstep

theorem Follows.exists_of_error {finish : Nat} {words : List Token} {last : Token}
    {error : QueryError} (h : Follows limits s u) (hl : last.kind = .eof)
    (hr : (run limits finish s (words ++ [last])).answer = .error error) :
    ∃ before token after s' depth, words ++ [last] = before ++ token :: after ∧
      Follows limits s' (u ++ before) ∧
      (step limits s' token = .refuse ⟨error, depth⟩ ∨
        step limits s' token = .overflow ⟨error, depth⟩) := by
  induction words generalizing s u with
  | nil =>
    simp only [List.nil_append, run] at hr
    split at hr
    · next he => exact absurd he (step_eof_ne_shift hl)
    · cases hr
    · next failure he =>
      cases hr
      exact ⟨[], last, [], s, failure.depth, rfl, by simpa using h, .inl he⟩
    · next failure he =>
      cases hr
      exact ⟨[], last, [], s, failure.depth, rfl, by simpa using h, .inr he⟩
  | cons token words ih =>
    simp only [List.cons_append, run] at hr
    split at hr
    · next he =>
      obtain ⟨before, refused, after, s', depth, e, hf, hstep⟩ := ih (h.shift he) hr
      exact ⟨token :: before, refused, after, s', depth, by simp [e], by simpa using hf, hstep⟩
    · cases hr
    · next failure he =>
      cases hr
      exact ⟨[], token, _, s, failure.depth, rfl, by simpa using h, .inl he⟩
    · next failure he =>
      cases hr
      exact ⟨[], token, _, s, failure.depth, rfl, by simpa using h, .inr he⟩

/-- No sentence goes on with a token that is refused for another reason than a limit. -/
theorem Follows.not_sentence {token : Token} {failure : Failure} {w rest closing : List Token}
    (h : Follows limits s u) (hs : step limits s token = .refuse failure)
    (hf : ¬failure.error.IsLimit) (hc : ∀ token ∈ closing, token.kind = .eof)
    (hw : u ++ token :: rest = w ++ closing) : ¬Sentence w := by
  rintro ⟨t, ht⟩
  -- with limits that the sentence keeps to it would be accepted, and the token is still refused
  let raised : Limits := ⟨max limits.depth (nesting w), max limits.height t.height⟩
  have hd : limits.depth ≤ raised.depth := Nat.le_max_left ..
  have hh : limits.height ≤ raised.height := Nat.le_max_left ..
  have hstep : step raised s token = .refuse failure :=
    (step_raised hd hh (by rw [hs]; exact hf)).trans hs
  have haccepted : (run raised 0 ⟨0, [], .operand⟩ (w ++ closing)).answer = .ok (some t) :=
    run_of_derives hc ht (Nat.le_max_right ..) (Nat.le_max_right ..)
  rw [← hw, h.run_eq raised hd hh] at haccepted
  simp only [run, hstep] at haccepted
  cases haccepted

theorem Follows.not_viable {token : Token} {failure : Failure} (h : Follows limits s u)
    (hs : step limits s token = .refuse failure) (hf : ¬failure.error.IsLimit) :
    ¬Viable (u ++ [token]) := by
  rintro ⟨v, hv⟩
  have hw : u ++ token :: v = u ++ [token] ++ v ++ [] := by simp
  exact h.not_sentence hs hf (by simp) hw hv

end Follows

/-- What a state expects, by how much of the operand at hand is read and by whether it stands in
parentheses. -/
inductive Expects (limits : Limits) (s : State) : List Expectation → Prop
  | operand : s.phase = .operand → Expects limits s operandStart
  | comparison {field : String} {span : Span} : s.phase = .comparison field span →
      Expects limits s comparisons
  | literal {field : String} {span : Span} {op : Comparison} : s.phase = .literal field span op →
      Expects limits s literals
  | inner {x : Subtree} {c : Pending} {stack : List Frame} : s.phase = .complete x →
      close limits false s.depth s.stack x = .ok c → c.stack = .paren :: stack →
      Expects limits s operandEndInner
  | outer {x : Subtree} {c : Pending} : s.phase = .complete x →
      close limits false s.depth s.stack x = .ok c → (∀ stack, c.stack ≠ .paren :: stack) →
      Expects limits s operandEndOuter

inductive Refused (limits : Limits) (s : State) (token : Token) : QueryError → Prop
  | limit {error : QueryError} : error.IsLimit → Refused limits s token error
  | lex (position : Nat) (fault : LexFault) : ¬token.kind.HasValue →
      Refused limits s token (.lex position fault)
  | unexpected {expected : List Expectation} {error : QueryError} : Expects limits s expected →
      error = unexpected token expected → Refused limits s token error

def Step.Explained (limits : Limits) (s : State) (token : Token) : Step → Prop
  | .shift _ => True
  | .accept _ _ => True
  | .refuse failure => Refused limits s token failure.error
  | .overflow failure => failure.error.IsLimit

theorem unexpected_of_eof {token : Token} (h : token.kind = .eof) (expected : List Expectation) :
    unexpected token expected = .unexpectedEnd token.span.start := by
  simp only [unexpected, h]

theorem unexpected_of_ne_eof {token : Token} (h : token.kind ≠ .eof)
    (expected : List Expectation) :
    unexpected token expected = .syntaxError token.span.start expected token.kind := by
  unfold unexpected
  split
  · contradiction
  · rfl

theorem not_isLimit_unexpected (token : Token) (expected : List Expectation) :
    ¬(unexpected token expected).IsLimit := by
  unfold unexpected
  split <;> exact id

section Expects

variable {limits : Limits} {s : State} {token : Token} {expected : List Expectation}

theorem explained_enter (frame : Frame) : (enter limits s token frame).Explained limits s token := by
  unfold enter
  split <;> trivial

theorem explained_operator (x : Subtree) (beforeAnd : Bool) (frame : Subtree → Frame) :
    (operator limits s x beforeAnd frame).Explained limits s token := by
  unfold operator
  split
  · next hc => exact .limit (close_error hc)
  · trivial

theorem explained_finishOperand {x : Subtree} (hp : s.phase = .complete x) :
    (finishOperand limits s x token).Explained limits s token := by
  unfold finishOperand
  split
  · next hc => exact .limit (close_error hc)
  · next hc =>
    split
    · trivial
    · next hstack _ => exact .unexpected (.inner hp hc hstack) rfl
    · trivial
    · next hparen hk _ =>
      exact .unexpected (.outer hp hc hparen) (unexpected_of_ne_eof hk _).symm

theorem explained_step (limits : Limits) (s : State) (token : Token) :
    (step limits s token).Explained limits s token := by
  unfold step
  split
  · next hp =>
    split
    · exact explained_enter _
    · exact explained_enter _
    · trivial
    · exact .unexpected (.operand hp) rfl
  · next hp =>
    split
    · trivial
    · exact .unexpected (.comparison hp) rfl
  · next hp =>
    split
    · trivial
    · next hk =>
      split
      · trivial
      · next hnone => exact .lex _ _ fun hv => Option.isSome_iff_ne_none.1 (hv _ hk) hnone
    · exact .unexpected (.literal hp) rfl
  · next hp =>
    split
    · exact explained_operator _ _ _
    · exact explained_operator _ _ _
    · exact explained_finishOperand hp

theorem refused_of_refuse {failure : Failure} (h : step limits s token = .refuse failure) :
    Refused limits s token failure.error := by
  have he := explained_step limits s token
  rwa [h] at he

theorem isLimit_of_overflow {failure : Failure} (h : step limits s token = .overflow failure) :
    failure.error.IsLimit := by
  have he := explained_step limits s token
  rwa [h] at he

theorem expects_of_syntaxError {position depth : Nat} {found : TokenKind}
    (h : step limits s token = .refuse ⟨.syntaxError position expected found, depth⟩) :
    Expects limits s expected ∧ token.kind ≠ .eof ∧ token.span.start = position ∧
      token.kind = found := by
  cases refused_of_refuse h with
  | limit hlimit => exact hlimit.elim
  | unexpected he herror =>
    by_cases hk : token.kind = .eof
    · rw [unexpected_of_eof hk] at herror
      cases herror
    · rw [unexpected_of_ne_eof hk] at herror
      cases herror
      exact ⟨he, hk, rfl, rfl⟩

theorem eof_of_unexpectedEnd {position depth : Nat}
    (h : step limits s token = .refuse ⟨.unexpectedEnd position, depth⟩) :
    token.kind = .eof ∧ token.span.start = position := by
  cases refused_of_refuse h with
  | limit hlimit => exact hlimit.elim
  | unexpected _ herror =>
    by_cases hk : token.kind = .eof
    · rw [unexpected_of_eof hk] at herror
      cases herror
      exact ⟨hk, rfl⟩
    · rw [unexpected_of_ne_eof hk] at herror
      cases herror

section Kinds

variable {kind : TokenKind}

theorem expectation_mem_operandStart : kind.expectation ∈ operandStart ↔
    kind = .not ∨ kind = .lparen ∨ ∃ name, kind = .identifier name := by
  cases kind <;> simp [TokenKind.expectation, operandStart]

theorem expectation_mem_comparisons : kind.expectation ∈ comparisons ↔
    ∃ op, kind = .comparison op := by
  cases kind with
  | comparison op => cases op <;> simp [TokenKind.expectation, comparisons]
  | _ => simp [TokenKind.expectation, comparisons]

theorem expectation_mem_literals : kind.expectation ∈ literals ↔
    (∃ content, kind = .string content) ∨ ∃ numeral, kind = .number numeral := by
  cases kind <;> simp [TokenKind.expectation, literals]

theorem expectation_mem_operandEndInner : kind.expectation ∈ operandEndInner ↔
    kind = .and ∨ kind = .or ∨ kind = .rparen := by
  cases kind <;> simp [TokenKind.expectation, operandEndInner]

theorem expectation_mem_operandEndOuter : kind.expectation ∈ operandEndOuter ↔
    kind = .and ∨ kind = .or ∨ kind = .eof := by
  cases kind <;> simp [TokenKind.expectation, operandEndOuter]

end Kinds

theorem Expects.exists_shift (h : Expects limits s expected) (hk : token.kind ≠ .eof)
    (hm : token.kind.expectation ∈ expected) (hv : token.kind.HasValue) :
    ∃ s', step ⟨s.depth + 1, limits.height⟩ s token = .shift s' := by
  -- `deeper` is kept abstract while `step` is unfolded
  generalize hdeeper : (⟨s.depth + 1, limits.height⟩ : Limits) = deeper
  have henter (frame : Frame) : ∃ s', enter deeper s token frame = .shift s' := by
    subst hdeeper
    exact ⟨_, if_neg (Nat.lt_irrefl _)⟩
  have hclose {b : Bool} {x : Subtree} {c : Pending}
      (hc : close limits b s.depth s.stack x = .ok c) :
      close deeper b s.depth s.stack x = .ok c :=
    close_raised (hdeeper ▸ Nat.le_refl _) hc
  have hoperator {b : Bool} {x : Subtree} {c : Pending}
      (hc : close limits b s.depth s.stack x = .ok c) (frame : Subtree → Frame) :
      ∃ s', operator deeper s x b frame = .shift s' :=
    ⟨_, by rw [operator, hclose hc]⟩
  unfold step
  cases h with
  | operand hp =>
    rcases expectation_mem_operandStart.1 hm with hkind | hkind | ⟨name, hkind⟩
    · simpa only [hp, hkind] using henter _
    · simpa only [hp, hkind] using henter _
    · exact ⟨_, by rw [hp, hkind]⟩
  | comparison hp =>
    obtain ⟨op, hkind⟩ := expectation_mem_comparisons.1 hm
    exact ⟨_, by rw [hp, hkind]⟩
  | literal hp =>
    rcases expectation_mem_literals.1 hm with ⟨content, hkind⟩ | ⟨numeral, hkind⟩
    · exact ⟨_, by rw [hp, hkind]⟩
    · obtain ⟨value, hvalue⟩ := Option.isSome_iff_exists.1 (hv numeral hkind)
      exact ⟨_, by simp only [hp, hkind, hvalue]; rfl⟩
  | inner hp hc hstack =>
    obtain ⟨_, hand⟩ := close_beforeAnd hc
    rcases expectation_mem_operandEndInner.1 hm with hkind | hkind | hkind
    · simpa only [hp, hkind] using hoperator hand _
    · simpa only [hp, hkind] using hoperator hc _
    · exact ⟨_, by simp only [hp, hkind, finishOperand, hclose hc, hstack]; rfl⟩
  | outer hp hc =>
    obtain ⟨_, hand⟩ := close_beforeAnd hc
    rcases expectation_mem_operandEndOuter.1 hm with hkind | hkind | hkind
    · simpa only [hp, hkind] using hoperator hand _
    · simpa only [hp, hkind] using hoperator hc _
    · exact absurd hkind hk

theorem Expects.exists_refuse (h : Expects limits s expected)
    (hm : token.kind.expectation ∉ expected) :
    ∃ failure, step limits s token = .refuse failure ∧ ¬failure.error.IsLimit := by
  cases h with
  | operand hp =>
    rw [expectation_mem_operandStart] at hm
    simp only [step, hp]
    split
    · next hk => exact absurd (.inl hk) hm
    · next hk => exact absurd (.inr (.inl hk)) hm
    · next name hk => exact absurd (.inr (.inr ⟨name, hk⟩)) hm
    · exact ⟨_, rfl, not_isLimit_unexpected _ _⟩
  | comparison hp =>
    rw [expectation_mem_comparisons] at hm
    simp only [step, hp]
    split
    · next op hk => exact absurd ⟨op, hk⟩ hm
    · exact ⟨_, rfl, not_isLimit_unexpected _ _⟩
  | literal hp =>
    rw [expectation_mem_literals] at hm
    simp only [step, hp]
    split
    · next content hk => exact absurd (.inl ⟨content, hk⟩) hm
    · next numeral hk => exact absurd (.inr ⟨numeral, hk⟩) hm
    · exact ⟨_, rfl, not_isLimit_unexpected _ _⟩
  | inner hp hc hstack =>
    rw [expectation_mem_operandEndInner] at hm
    simp only [step, hp]
    split
    · next hk => exact absurd (.inl hk) hm
    · next hk => exact absurd (.inr (.inl hk)) hm
    · simp only [finishOperand, hc, hstack]
      split
      · next hk => exact absurd (.inr (.inr hk)) hm
      · exact ⟨_, rfl, not_isLimit_unexpected _ _⟩
      · next hn => exact absurd rfl (hn _)
      · next hn _ _ => exact absurd rfl (hn _)
  | outer hp hc hparen =>
    rw [expectation_mem_operandEndOuter] at hm
    simp only [step, hp]
    split
    · next hk => exact absurd (.inl hk) hm
    · next hk => exact absurd (.inr (.inl hk)) hm
    · simp only [finishOperand, hc]
      split
      · next hstack _ => exact absurd hstack (hparen _)
      · next hstack _ => exact absurd hstack (hparen _)
      · next hk _ => exact absurd (.inr (.inr hk)) hm
      · exact ⟨_, rfl, id⟩

theorem Expects.step_numeral (h : Expects limits s expected)
    (hm : token.kind.expectation ∈ expected) (hv : ¬token.kind.HasValue) :
    ∃ fault, step limits s token = .refuse ⟨.lex token.span.start fault, s.depth⟩ := by
  simp only [TokenKind.HasValue, not_forall, Option.not_isSome_iff_eq_none] at hv
  obtain ⟨numeral, hk, hnone⟩ := hv
  rw [hk] at hm
  cases h with
  | literal hp => exact ⟨_, by simp only [step, hp, hk, hnone]; rfl⟩
  | operand => simp [TokenKind.expectation, operandStart] at hm
  | comparison => simp [TokenKind.expectation, comparisons] at hm
  | inner => simp [TokenKind.expectation, operandEndInner] at hm
  | outer => simp [TokenKind.expectation, operandEndOuter] at hm

variable {u : List Token}

theorem Follows.viable_snoc_iff (hf : Follows limits s u) (he : Expects limits s expected) :
    Viable (u ++ [token]) ↔
      token.kind ≠ .eof ∧ token.kind.expectation ∈ expected ∧ token.kind.HasValue := by
  constructor
  · intro hv
    have hm : token.kind.expectation ∈ expected := by
      by_contra hm
      obtain ⟨failure, hs, hlimit⟩ := he.exists_refuse hm
      exact hf.not_viable hs hlimit hv
    refine ⟨?_, hm, ?_⟩
    · obtain ⟨v, t, ht⟩ := hv
      exact kind_ne_eof_of_derives ht token (by simp)
    · by_contra hvalue
      obtain ⟨fault, hs⟩ := he.step_numeral hm hvalue
      exact hf.not_viable hs id hv
  · rintro ⟨hk, hm, hv⟩
    obtain ⟨s', hs⟩ := he.exists_shift hk hm hv
    exact viable_of_reads (reads_shift hf.reads hs)

theorem Follows.sentence_iff (hf : Follows limits s u) (he : Expects limits s expected) :
    Sentence u ↔ .endOfInput ∈ expected := by
  constructor
  · intro hu
    by_contra hm
    let last : Token := ⟨.eof, ⟨0, 0⟩⟩
    have hlast : last.kind.expectation ∉ expected := hm
    obtain ⟨failure, hs, hlimit⟩ := he.exists_refuse hlast
    have hw : u ++ last :: [] = u ++ [last] := rfl
    exact hf.not_sentence hs hlimit (by simp [last]) hw hu
  · intro hm
    cases he with
    | outer hp hc hparen => exact ⟨_, derives_of_closed hf.reads hp hc hparen⟩
    | operand => simp [operandStart] at hm
    | comparison => simp [comparisons] at hm
    | literal => simp [literals] at hm
    | inner => simp [operandEndInner] at hm

end Expects

theorem exists_expectation_eq {c : Expectation} (hc : c ≠ .endOfInput) :
    ∃ kind : TokenKind, kind.expectation = c ∧ kind ≠ .eof ∧ kind.HasValue := by
  have hvalue {kind : TokenKind} (h : ∀ numeral, kind ≠ .number numeral) : kind.HasValue :=
    fun numeral hk => absurd hk (h numeral)
  cases c with
  | fieldName => exact ⟨.identifier "a", rfl, nofun, hvalue nofun⟩
  | comparison op => exact ⟨.comparison op, rfl, nofun, hvalue nofun⟩
  | stringLiteral => exact ⟨.string "", rfl, nofun, hvalue nofun⟩
  | numberLiteral => exact ⟨.number "0", rfl, nofun, by rintro _ ⟨⟩; rfl⟩
  | and => exact ⟨.and, rfl, nofun, hvalue nofun⟩
  | or => exact ⟨.or, rfl, nofun, hvalue nofun⟩
  | not => exact ⟨.not, rfl, nofun, hvalue nofun⟩
  | lparen => exact ⟨.lparen, rfl, nofun, hvalue nofun⟩
  | rparen => exact ⟨.rparen, rfl, nofun, hvalue nofun⟩
  | endOfInput => exact absurd rfl hc

/-- The token is the first that no sentence goes on with, and these are the things that a sentence
could go on with in its place. -/
structure Pinpoints (before : List Token) (token : Token) (expected : List Expectation) : Prop where
  viable : Viable before
  not_viable : ¬Viable (before ++ [token])
  notMem : token.kind.expectation ∉ expected
  mem_iff : ∀ c, c ≠ .endOfInput →
    (c ∈ expected ↔ ∃ next : Token, next.kind.expectation = c ∧ Viable (before ++ [next]))
  end_iff : .endOfInput ∈ expected ↔ before ≠ [] ∧ Sentence before
  next_iff : ∀ next : Token, Viable (before ++ [next]) ↔
    next.kind ≠ .eof ∧ next.kind.expectation ∈ expected ∧ next.kind.HasValue

theorem Follows.pinpoints {limits : Limits} {s : State} {before : List Token} {token : Token}
    {position depth : Nat} {expected : List Expectation} {found : TokenKind}
    (hf : Follows limits s before)
    (hs : step limits s token = .refuse ⟨.syntaxError position expected found, depth⟩) :
    Pinpoints before token expected := by
  obtain ⟨he, hk, -, -⟩ := expects_of_syntaxError hs
  have hnot : ¬Viable (before ++ [token]) := hf.not_viable hs id
  refine ⟨viable_of_reads hf.reads, hnot, fun hm => ?_, fun c hc => ⟨fun hm => ?_, ?_⟩, ?_,
    fun next => hf.viable_snoc_iff he⟩
  · by_cases hv : token.kind.HasValue
    · exact hnot ((hf.viable_snoc_iff he).2 ⟨hk, hm, hv⟩)
    · obtain ⟨fault, hlex⟩ := he.step_numeral hm hv
      cases hlex.symm.trans hs
  · obtain ⟨kind, rfl, hkind, hvalue⟩ := exists_expectation_eq hc
    exact ⟨⟨kind, ⟨0, 0⟩⟩, rfl, (hf.viable_snoc_iff he).2 ⟨hkind, hm, hvalue⟩⟩
  · rintro ⟨next, rfl, hv⟩
    exact ((hf.viable_snoc_iff he).1 hv).2.1
  · rw [← hf.sentence_iff he]
    refine ⟨fun h => ⟨?_, h⟩, And.right⟩
    obtain ⟨t, ht⟩ := h
    exact ht.ne_nil

theorem split_unique {tokens before before' after after' : List Token} {token token' : Token}
    (hp : tokens.Pairwise fun first second => first.span.start < second.span.start)
    (h : tokens = before ++ token :: after) (h' : tokens = before' ++ token' :: after')
    (hs : token.span.start = token'.span.start) : before = before' ∧ token = token' := by
  have hlater {u v w : List Token} {a b : Token} (hp : (u ++ a :: (v ++ b :: w)).Pairwise
      fun first second => first.span.start < second.span.start) : a.span.start < b.span.start :=
    (List.pairwise_cons.1 (List.pairwise_append.1 hp).2.1).1 b (by simp)
  obtain ⟨between, rfl, e⟩ | ⟨between, rfl, e⟩ := List.append_eq_append_iff.1 (h.symm.trans h')
  · cases between with
    | nil =>
      obtain ⟨rfl, -⟩ := List.cons.inj e
      exact ⟨by simp, rfl⟩
    | cons a between =>
      obtain ⟨rfl, rfl⟩ := List.cons.inj e
      subst h
      exact absurd hs (Nat.ne_of_lt (hlater hp))
  · cases between with
    | nil =>
      obtain ⟨rfl, -⟩ := List.cons.inj e
      exact ⟨by simp, rfl⟩
    | cons a between =>
      obtain ⟨rfl, rfl⟩ := List.cons.inj e
      subst h'
      exact absurd hs.symm (Nat.ne_of_lt (hlater hp))

theorem exists_refuse_of_parse {limits : Limits} {words : List Token} {last : Token}
    {error : QueryError} (hw : ∀ token ∈ words, token.kind ≠ .eof) (hl : last.kind = .eof)
    (h : ((ofTokens (words ++ [last])).parse limits).answer = .error error)
    (he : ¬error.IsLimit) :
    words ≠ [] ∧ ∃ before token after s depth, words ++ [last] = before ++ token :: after ∧
      Follows limits s before ∧ step limits s token = .refuse ⟨error, depth⟩ := by
  cases words with
  | nil =>
    rw [List.nil_append, parse_closing (by simpa using hl)] at h
    cases h
  | cons first words =>
    rw [List.cons_append, parse_cons (hw first (by simp)), ← List.cons_append] at h
    obtain ⟨before, token, after, s, depth, htokens, hf, hs | hs⟩ :=
      (follows_start limits).exists_of_error hl h
    · exact ⟨by simp, before, token, after, s, depth, htokens, hf, hs⟩
    · exact absurd (isLimit_of_overflow hs) he

/-- The errors of the parser are exact. A syntax error stands at the first token with which the
tokens so far no longer begin a sentence, and lists what could stand there; an end that comes too
early stands behind tokens that begin a sentence and are none. -/
theorem parse_error_pinpoints (text : String) (tokens : List Token) (limits : Limits)
    (h : tokenize text = .ok tokens) :
    (∀ position expected found,
      ((ofTokens tokens).parse limits).answer = .error (.syntaxError position expected found) →
        (∃ token ∈ tokens, token.span.start = position ∧ token.kind = found ∧ found ≠ .eof) ∧
        ∀ before token after, tokens = before ++ token :: after → token.span.start = position →
          Pinpoints before token expected) ∧
    ∀ position, ((ofTokens tokens).parse limits).answer = .error (.unexpectedEnd position) →
      position = text.utf8ByteSize ∧
      ∃ words last, tokens = words ++ [last] ∧ last.kind = .eof ∧ words ≠ [] ∧ ¬Sentence words ∧
        Viable words := by
  have hordered := Lexer.pairwise_start h
  obtain ⟨hfault, rfl⟩ := Lexer.tokenize_eq_ok_iff.1 h
  have hw : ∀ token ∈ (Lexer.scan text).tokens, token.kind ≠ .eof := fun token ht =>
    ((Lexer.segmentation_scan hfault).stands token ht).kind_ne_eof
  constructor
  · intro position expected found herror
    obtain ⟨-, before, token, after, s, depth, htokens, hf, hs⟩ :=
      exists_refuse_of_parse hw rfl herror id
    obtain ⟨-, hk, hstart, hfound⟩ := expects_of_syntaxError hs
    refine ⟨⟨token, by simp [htokens], hstart, hfound, hfound ▸ hk⟩, ?_⟩
    intro before' token' after' htokens' hstart'
    obtain ⟨rfl, rfl⟩ := split_unique hordered htokens htokens' (hstart.trans hstart'.symm)
    exact hf.pinpoints hs
  · intro position herror
    obtain ⟨hne, before, token, after, s, depth, htokens, hf, hs⟩ :=
      exists_refuse_of_parse hw rfl herror id
    obtain ⟨hk, hstart⟩ := eof_of_unexpectedEnd hs
    have hmem : token ∈ before ++ token :: after := by simp
    rw [← htokens] at hmem
    rcases List.mem_append.1 hmem with hmem | hmem
    · exact absurd hk (hw token hmem)
    · obtain rfl := List.mem_singleton.1 hmem
      obtain ⟨rfl, -⟩ := split_unique hordered htokens rfl rfl
      exact ⟨hstart.symm, _, _, rfl, rfl, hne, hf.not_sentence hs id (by simp) htokens.symm,
        viable_of_reads hf.reads⟩

theorem parse_error_pinpoints_paren :
    let words : List Token :=
      [⟨.lparen, ⟨0, 1⟩⟩, ⟨.identifier "a", ⟨1, 2⟩⟩, ⟨.comparison .eq, ⟨2, 3⟩⟩, ⟨.number "1", ⟨3, 4⟩⟩]
    let name : Token := ⟨.identifier "b", ⟨5, 6⟩⟩
    let limits : Limits := ⟨1, 1⟩
    tokenize "(a=1 b" = .ok (words ++ [name, ⟨.eof, ⟨6, 6⟩⟩]) ∧
    parseFilter limits "(a=1 b" = .error (.syntaxError 5 [.and, .or, .rparen] name.kind) ∧
    ¬Viable (words ++ [name]) ∧
    (∀ next : Token, Viable (words ++ [next]) ↔
      next.kind = .and ∨ next.kind = .or ∨ next.kind = .rparen) ∧
    tokenize "(a=1" = .ok (words ++ [⟨.eof, ⟨4, 4⟩⟩]) ∧
    parseFilter limits "(a=1" = .error (.unexpectedEnd 4) ∧ ¬Sentence words ∧ Viable words := by
  intro words name limits
  have h : tokenize "(a=1 b" = .ok (words ++ [name, ⟨.eof, ⟨6, 6⟩⟩]) := by cbv
  have h' : tokenize "(a=1" = .ok (words ++ [⟨.eof, ⟨4, 4⟩⟩]) := by cbv
  obtain ⟨-, hpin⟩ := (parse_error_pinpoints _ _ limits h).1 5 [.and, .or, .rparen] name.kind rfl
  have hpin := hpin words name [⟨.eof, ⟨6, 6⟩⟩] rfl rfl
  obtain ⟨-, words', last, htokens, -, -, hsentence, hviable⟩ :=
    (parse_error_pinpoints _ _ limits h').2 4 rfl
  obtain ⟨rfl, -⟩ := List.append_inj' htokens rfl
  refine ⟨h, ?_, hpin.not_viable, fun next => ?_, h', ?_, hsentence, hviable⟩
  · rw [parseFilter, h]; rfl
  · rw [hpin.next_iff next]
    refine ⟨fun hn => expectation_mem_operandEndInner.1 hn.2.1, fun hk =>
      ⟨?_, expectation_mem_operandEndInner.2 hk, ?_⟩⟩
    · rcases hk with hk | hk | hk <;> simp [hk]
    · rcases hk with hk | hk | hk <;> simp [TokenKind.HasValue, hk]
  · rw [parseFilter, h']; rfl

end Parser

end FilterSql
