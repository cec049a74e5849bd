import FilterSql.Proofs.Token.Layout
import FilterSql.Proofs.Validation

namespace FilterSql

def QueryError.unplaced : QueryError → QueryError
  | .lex _ fault => .lex 0 fault
  | .syntaxError _ expected found => .syntaxError 0 expected found
  | .unexpectedEnd _ => .unexpectedEnd 0
  | .nestingTooDeep _ limit => .nestingTooDeep 0 limit
  | error => error

def TokenKind.unplaced (kind : TokenKind) : Token := ⟨kind, ⟨0, 0⟩⟩

def Token.unplaced (token : Token) : Token := ⟨token.kind, ⟨0, 0⟩⟩

def FieldTest.unplaced (test : FieldTest) : FieldTest := { test with span := ⟨0, 0⟩ }

def Filter.unplaced (filter : Filter) : Filter := filter.map FieldTest.unplaced

def mapResult {ε α : Type} (f : ε → ε) (g : α → α) : Except ε α → Except ε α
  | .error e => .error (f e)
  | .ok a => .ok (g a)

def unplacedAnswer : Except QueryError (Option Filter) → Except QueryError (Option Filter) :=
  mapResult QueryError.unplaced (Option.map Filter.unplaced)

namespace Parser

def Subtree.unplaced (x : Subtree) : Subtree := ⟨x.tree.unplaced, x.height⟩

def Frame.unplaced : Frame → Frame
  | .not _ => .not 0
  | .and left _ => .and left.unplaced 0
  | .or left _ => .or left.unplaced 0
  | .paren => .paren

def Phase.unplaced : Phase → Phase
  | .operand => .operand
  | .comparison field _ => .comparison field ⟨0, 0⟩
  | .literal field _ op => .literal field ⟨0, 0⟩ op
  | .complete x => .complete x.unplaced

def State.unplaced (s : State) : State := ⟨s.depth, s.stack.map Frame.unplaced, s.phase.unplaced⟩

def Failure.unplaced (failure : Failure) : Failure := ⟨failure.error.unplaced, failure.depth⟩

def Pending.unplaced (p : Pending) : Pending :=
  ⟨p.depth, p.stack.map Frame.unplaced, p.operand.unplaced⟩

def Step.unplaced : Step → Step
  | .shift s => .shift s.unplaced
  | .accept depth filter => .accept depth filter.unplaced
  | .refuse failure => .refuse failure.unplaced
  | .overflow failure => .overflow failure.unplaced

section Close

variable {limits : Limits} {depth position : Nat} {stack : List Frame} {left x : Subtree}

theorem close_not_bind (beforeAnd : Bool) :
    close limits beforeAnd depth (.not position :: stack) x =
      (grow limits (depth - 1) position (.not x.tree) (x.height + 1)).bind
        (close limits beforeAnd (depth - 1) stack) := by
  rw [close]
  cases grow limits (depth - 1) position (.not x.tree) (x.height + 1) <;> rfl

theorem close_and_bind (beforeAnd : Bool) :
    close limits beforeAnd depth (.and left position :: stack) x =
      (grow limits depth position (.and left.tree x.tree) (max left.height x.height + 1)).bind
        (close limits beforeAnd depth stack) := by
  rw [close]
  cases grow limits depth position (.and left.tree x.tree) (max left.height x.height + 1) <;> rfl

theorem close_or_bind :
    close limits false depth (.or left position :: stack) x =
      (grow limits depth position (.or left.tree x.tree) (max left.height x.height + 1)).bind
        (close limits false depth stack) := by
  rw [close, if_neg Bool.false_ne_true]
  cases grow limits depth position (.or left.tree x.tree) (max left.height x.height + 1) <;> rfl

end Close

section Unplaced

variable (limits : Limits)

theorem grow_unplaced (depth position : Nat) (tree : Filter) (height : Nat) :
    grow limits depth 0 tree.unplaced height =
      mapResult Failure.unplaced Subtree.unplaced (grow limits depth position tree height) := by
  unfold grow
  split <;> rfl

theorem close_unplaced (beforeAnd : Bool) (depth : Nat) (stack : List Frame) (x : Subtree) :
    close limits beforeAnd depth (stack.map Frame.unplaced) x.unplaced =
      mapResult Failure.unplaced Pending.unplaced (close limits beforeAnd depth stack x) := by
  induction stack generalizing depth x with
  | nil => rfl
  | cons frame stack ih =>
    have hgrow (depth position : Nat) (tree : Filter) (height : Nat) :
        (grow limits depth 0 tree.unplaced height).bind
          (close limits beforeAnd depth (stack.map Frame.unplaced)) =
        mapResult Failure.unplaced Pending.unplaced
          ((grow limits depth position tree height).bind (close limits beforeAnd depth stack)) := by
      rw [grow_unplaced limits depth position]
      cases grow limits depth position tree height with
      | error failure => rfl
      | ok y => exact ih depth y
    cases frame with
    | not position =>
      rw [close_not_bind, ← hgrow]
      exact close_not_bind beforeAnd
    | and left position =>
      rw [close_and_bind, ← hgrow]
      exact close_and_bind beforeAnd
    | or left position =>
      cases beforeAnd with
      | true => rfl
      | false =>
        rw [close_or_bind, ← hgrow]
        exact close_or_bind
    | paren => rfl

theorem enter_unplaced (s : State) (token : Token) (frame : Frame) :
    enter limits s.unplaced token.unplaced frame.unplaced =
      (enter limits s token frame).unplaced := by
  have hdepth : s.unplaced.depth = s.depth := rfl
  unfold enter
  rw [hdepth]
  split <;> rfl

theorem operator_unplaced (s : State) (x : Subtree) (beforeAnd : Bool)
    (frame frame' : Subtree → Frame) (hf : ∀ left, frame' left.unplaced = (frame left).unplaced) :
    operator limits s.unplaced x.unplaced beforeAnd frame' =
      (operator limits s x beforeAnd frame).unplaced := by
  simp only [operator, State.unplaced, close_unplaced]
  cases close limits beforeAnd s.depth s.stack x with
  | error failure => rfl
  | ok p =>
    simp only [mapResult, Pending.unplaced, hf]
    rfl

theorem finishOperand_unplaced (s : State) (x : Subtree) (token : Token) :
    finishOperand limits s.unplaced x.unplaced token.unplaced =
      (finishOperand limits s x token).unplaced := by
  simp only [finishOperand, State.unplaced, close_unplaced]
  cases close limits false s.depth s.stack x with
  | error failure => rfl
  | ok p =>
    obtain ⟨depth, stack, operand⟩ := p
    obtain ⟨kind, span⟩ := token
    rcases stack with _ | ⟨_ | _ | _ | _, stack⟩ <;> cases kind <;> rfl

/-- A step does the same whatever the positions are. -/
theorem step_unplaced (s : State) (token : Token) :
    step limits s.unplaced token.unplaced = (step limits s token).unplaced := by
  obtain ⟨depth, stack, phase⟩ := s
  obtain ⟨kind, span⟩ := token
  cases phase with
  | operand =>
    cases kind with
    | not => exact enter_unplaced limits _ ⟨.not, span⟩ (.not span.start)
    | lparen => exact enter_unplaced limits _ ⟨.lparen, span⟩ .paren
    | _ => rfl
  | comparison field place => cases kind <;> rfl
  | literal field place op =>
    cases kind with
    | number numeral =>
      simp only [step, State.unplaced, Phase.unplaced, Token.unplaced]
      cases Literal.ofNumeral? numeral <;> rfl
    | _ => rfl
  | complete x =>
    cases kind with
    | and =>
      exact operator_unplaced limits ⟨depth, stack, .complete x⟩ x true (.and · span.start)
        (.and · 0) fun _ => rfl
    | or =>
      exact operator_unplaced limits ⟨depth, stack, .complete x⟩ x false (.or · span.start)
        (.or · 0) fun _ => rfl
    | _ => exact finishOperand_unplaced limits ⟨depth, stack, .complete x⟩ x ⟨_, span⟩

theorem atEnd_unplaced (finish : Nat) (s : State) :
    atEnd limits 0 s.unplaced =
      mapResult Failure.unplaced (Prod.map id Filter.unplaced) (atEnd limits finish s) := by
  obtain ⟨depth, stack, phase⟩ := s
  cases phase with
  | complete x =>
    simp only [atEnd, State.unplaced, Phase.unplaced, close_unplaced]
    cases close limits false depth stack x with
    | error failure => rfl
    | ok p =>
      obtain ⟨depth, stack, operand⟩ := p
      rcases stack with _ | ⟨_ | _ | _ | _, stack⟩ <;> rfl
  | _ => rfl

theorem run_unplaced (finish : Nat) (s : State) (tokens : List Token) :
    (run limits 0 s.unplaced (tokens.map Token.unplaced)).answer =
      unplacedAnswer (run limits finish s tokens).answer := by
  induction tokens generalizing s with
  | nil =>
    simp only [List.map_nil, run, atEnd_unplaced limits finish]
    cases atEnd limits finish s <;> rfl
  | cons token tokens ih =>
    simp only [List.map_cons, run, step_unplaced]
    cases step limits s token with
    | shift t => exact ih t
    | accept depth filter => rfl
    | refuse failure => rfl
    | overflow failure => rfl

theorem parse_unplaced (tokens : List Token) :
    ((ofTokens (tokens.map Token.unplaced)).parse limits).answer =
      unplacedAnswer ((ofTokens tokens).parse limits).answer := by
  have hparser : ofTokens (tokens.map Token.unplaced) = ⟨tokens.map Token.unplaced, 0, 0⟩ := by
    simp only [ofTokens, List.getLast?_map]
    cases tokens.getLast? <;> rfl
  rw [hparser]
  cases tokens with
  | nil => rfl
  | cons token tokens =>
    have hrun := run_unplaced limits (ofTokens (token :: tokens)).finish ⟨0, [], .operand⟩
      (token :: tokens)
    obtain ⟨kind, span⟩ := token
    cases kind with
    | eof => rfl
    | _ => exact hrun

end Unplaced

end Parser

theorem unplacedAnswer_parseFilter {text : String} {tokens : List Token}
    (h : tokenize text = .ok tokens) (limits : Limits) :
    unplacedAnswer (parseFilter limits text) =
      ((Parser.ofTokens ((tokens.map Token.kind).map TokenKind.unplaced)).parse limits).answer := by
  have hkinds : (tokens.map Token.kind).map TokenKind.unplaced = tokens.map Token.unplaced := by
    rw [List.map_map]
    rfl
  rw [hkinds, Parser.parse_unplaced, parseFilter, h]
  rfl

theorem parseFilter_kinds {text text' : String} {tokens tokens' : List Token}
    (h : tokenize text = .ok tokens) (h' : tokenize text' = .ok tokens')
    (hk : tokens'.map Token.kind = tokens.map Token.kind) (limits : Limits) :
    unplacedAnswer (parseFilter limits text') = unplacedAnswer (parseFilter limits text) := by
  rw [unplacedAnswer_parseFilter h, unplacedAnswer_parseFilter h', hk]

theorem traverse_map {α β ε : Type} {f : α → Except ε β} {g : α → α} (h : ∀ a, f (g a) = f a)
    (t : Condition α) : (t.map g).traverse f = t.traverse f := by
  induction t with
  | leaf a => simp only [Condition.map, Condition.traverse, h]
  | and l r ihl ihr => simp only [Condition.map, Condition.traverse, ihl, ihr]
  | or l r ihl ihr => simp only [Condition.map, Condition.traverse, ihl, ihr]
  | not t ih => simp only [Condition.map, Condition.traverse, ih]

theorem validate_unplaced (schema : Schema) (filter : Option Filter) (groupBy : List Dimension)
    (page : Page) :
    Query.validate schema ⟨filter.map Filter.unplaced, groupBy, page⟩ =
      Query.validate schema ⟨filter, groupBy, page⟩ := by
  have hfilter : Query.resolveFilter schema (filter.map Filter.unplaced) =
      Query.resolveFilter schema filter := by
    cases filter with
    | none => rfl
    | some filter =>
      exact congrArg (Except.map some) (traverse_map (f := FieldTest.resolve schema)
        (g := FieldTest.unplaced) (fun _ => rfl) filter)
  simp only [Query.validate, hfilter]

namespace Engine

theorem mapError_compile (e : Engine) (r : Request) :
    (e.compile r).mapError QueryError.unplaced = Except.mapError QueryError.unplaced (do
      let filter ← unplacedAnswer (e.parse r.query)
      let groupBy ← Dimension.parseList r.groupBy
      let page ← Page.make r.offset (min r.limit e.maxLimit)
      let query ← Query.validate e.schema ⟨filter, groupBy, page⟩
      query.compile e.dialect e.schema) := by
  unfold compile
  cases e.parse r.query with
  | error error => cases error <;> rfl
  | ok filter => simp only [unplacedAnswer, mapResult, bind, Except.bind, validate_unplaced]

/-- A request whose text tokenizes has, in any other layout of the text, tokens of the same kinds
and the same statement, or the same error but for its position. -/
theorem compile_relayout (e : Engine) (r : Request) (words : List Token) (last : Token)
    (text : String) (h : tokenize r.query = .ok (words ++ [last]))
    (hr : Lexer.Relayout words r.query text) :
    (∃ tokens, tokenize text = .ok tokens ∧
      tokens.map Token.kind = (words ++ [last]).map Token.kind) ∧
    (e.compile { r with query := text }).mapError QueryError.unplaced =
      (e.compile r).mapError QueryError.unplaced := by
  obtain ⟨tokens, htokens, hkinds⟩ := tokenize_relayout h hr
  refine ⟨⟨tokens, htokens, hkinds⟩, ?_⟩
  have hanswer : unplacedAnswer (e.parse text) = unplacedAnswer (e.parse r.query) :=
    parseFilter_kinds h htokens hkinds e.limits
  rw [mapError_compile, mapError_compile, hanswer]

theorem compile_relayout_wide :
    let r : Request := { query := "not a=1" }
    let text := "\u3000NoT\na= 1 "
    let words : List Token :=
      [⟨.not, ⟨0, 3⟩⟩, ⟨.identifier "a", ⟨4, 5⟩⟩, ⟨.comparison .eq, ⟨5, 6⟩⟩, ⟨.number "1", ⟨6, 7⟩⟩]
    tokenize r.query = .ok (words ++ [⟨.eof, ⟨7, 7⟩⟩]) ∧ Lexer.Relayout words r.query text ∧
      ∀ e : Engine, (e.compile { r with query := text }).mapError QueryError.unplaced =
        (e.compile r).mapError QueryError.unplaced := by
  intro r text words
  have h : tokenize r.query = .ok (words ++ [⟨.eof, ⟨7, 7⟩⟩]) := by cbv
  have hquery : r.query.toList = ['n', 'o', 't', ' ', 'a', '=', '1'] := by decide
  have htext : text.toList = ['\u3000', 'N', 'o', 'T', '\n', 'a', '=', ' ', '1', ' '] := by decide
  have hr : Lexer.Relayout words r.query text := by
    have hblank {cs : List Char} (h : cs.all Text.isBlank = true) :
        ∀ c ∈ cs, Text.isBlank c = true := List.all_eq_true.1 h
    rw [Lexer.Relayout, hquery, htext]
    refine .token [] ['\u3000'] ['n', 'o', 't'] ['N', 'o', 'T'] (hblank rfl) (hblank rfl)
      (by decide) (.inr ⟨rfl, by decide⟩) ?_
    refine .token [' '] ['\n'] ['a'] ['a'] (hblank rfl) (hblank rfl) (by decide) (.inl rfl) ?_
    refine .token [] [] ['='] ['='] (hblank rfl) (hblank rfl) (by decide) (.inl rfl) ?_
    refine .token [] [' '] ['1'] ['1'] (hblank rfl) (hblank rfl) (by decide) (.inl rfl) ?_
    exact .done (hblank rfl) (hblank rfl)
  exact ⟨h, hr, fun e => (compile_relayout e r words _ text h hr).2⟩

end Engine

end FilterSql
