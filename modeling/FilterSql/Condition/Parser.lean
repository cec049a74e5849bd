import FilterSql.Token.Lexer

/-!
From tokens to a filter. The parser takes one token at a time and keeps what is unfinished on a stack:
NOT binds tightest, then AND, then OR, and chains of AND and of OR lean to the left.

A parser may be used again after it has answered: it goes on at the token that it did not take, at the
depth that it had reached.
-/

namespace FilterSql

/-- Bounds on what is accepted: the depth of open parentheses and pending NOTs, and the height of the
tree. -/
structure Limits where
  depth : Nat := 64
  height : Nat := 256
  deriving DecidableEq, Repr

def Literal.ofNumeral? (numeral : String) : Option Literal :=
  if '.' ∈ numeral.toList then (Binary64.read? numeral.toList).map .float
  else (Text.readInt64 numeral.toList).toOption.map .int

structure Parser where
  rest : List Token
  depth : Nat
  finish : Nat
  deriving DecidableEq, Repr

namespace Parser

def ofTokens (tokens : List Token) : Parser :=
  { rest := tokens, depth := 0, finish := (tokens.getLast?.map (·.span.stop)).getD 0 }

structure Subtree where
  tree : Filter
  height : Nat
  deriving DecidableEq, Repr

inductive Frame
  | not (position : Nat)
  | and (left : Subtree) (position : Nat)
  | or (left : Subtree) (position : Nat)
  | paren
  deriving DecidableEq, Repr

inductive Phase
  | operand
  | comparison (field : String) (span : Span)
  | literal (field : String) (span : Span) (op : Comparison)
  | complete (operand : Subtree)
  deriving DecidableEq, Repr

structure State where
  depth : Nat
  stack : List Frame
  phase : Phase
  deriving DecidableEq, Repr

structure Failure where
  error : QueryError
  depth : Nat
  deriving DecidableEq, Repr

structure Pending where
  depth : Nat
  stack : List Frame
  operand : Subtree
  deriving DecidableEq, Repr

def grow (limits : Limits) (depth position : Nat) (tree : Filter) (height : Nat) :
    Except Failure Subtree :=
  if limits.height < height then .error ⟨.nestingTooDeep position limits.height, depth⟩
  else .ok ⟨tree, height⟩

/-- Gives the operand to every NOT and AND that waits for it and, unless an AND follows, to every OR,
up to the next open parenthesis. -/
def close (limits : Limits) (beforeAnd : Bool) (depth : Nat) :
    List Frame → Subtree → Except Failure Pending
  | .not position :: stack, operand =>
    match grow limits (depth - 1) position (.not operand.tree) (operand.height + 1) with
    | .error failure => .error failure
    | .ok operand => close limits beforeAnd (depth - 1) stack operand
  | .and left position :: stack, operand =>
    match grow limits depth position (.and left.tree operand.tree)
        (max left.height operand.height + 1) with
    | .error failure => .error failure
    | .ok operand => close limits beforeAnd depth stack operand
  | .or left position :: stack, operand =>
    if beforeAnd then .ok ⟨depth, .or left position :: stack, operand⟩
    else
      match grow limits depth position (.or left.tree operand.tree)
          (max left.height operand.height + 1) with
      | .error failure => .error failure
      | .ok operand => close limits beforeAnd depth stack operand
  | stack, operand => .ok ⟨depth, stack, operand⟩

def unexpected (token : Token) (expected : List Expectation) : QueryError :=
  match token.kind with
  | .eof => .unexpectedEnd token.span.start
  | kind => .syntaxError token.span.start expected kind

def operandStart : List Expectation := [.fieldName, .not, .lparen]

def comparisons : List Expectation :=
  [Comparison.eq, .ne, .gt, .lt, .ge, .le].map .comparison

def literals : List Expectation := [.stringLiteral, .numberLiteral]

def operandEndInner : List Expectation := [.and, .or, .rparen]

def operandEndOuter : List Expectation := [.and, .or, .endOfInput]

inductive Step
  | shift (state : State)
  | accept (depth : Nat) (filter : Filter)
  | refuse (failure : Failure)
  | overflow (failure : Failure)
  deriving DecidableEq, Repr

def enter (limits : Limits) (s : State) (token : Token) (frame : Frame) : Step :=
  if limits.depth < s.depth + 1 then
    .overflow ⟨.nestingTooDeep token.span.start limits.depth, s.depth + 1⟩
  else .shift ⟨s.depth + 1, frame :: s.stack, .operand⟩

def operator (limits : Limits) (s : State) (operand : Subtree) (beforeAnd : Bool)
    (frame : Subtree → Frame) : Step :=
  match close limits beforeAnd s.depth s.stack operand with
  | .error failure => .refuse failure
  | .ok p => .shift ⟨p.depth, frame p.operand :: p.stack, .operand⟩

def finishOperand (limits : Limits) (s : State) (operand : Subtree) (token : Token) : Step :=
  match close limits false s.depth s.stack operand with
  | .error failure => .refuse failure
  | .ok p =>
    match p.stack, token.kind with
    | .paren :: stack, .rparen => .shift ⟨p.depth - 1, stack, .complete p.operand⟩
    | .paren :: _, _ => .refuse ⟨unexpected token operandEndInner, p.depth⟩
    | _, .eof => .accept p.depth p.operand.tree
    | _, kind => .refuse ⟨.syntaxError token.span.start operandEndOuter kind, p.depth⟩

def step (limits : Limits) (s : State) (token : Token) : Step :=
  match s.phase with
  | .operand =>
    match token.kind with
    | .not => enter limits s token (.not token.span.start)
    | .lparen => enter limits s token .paren
    | .identifier name => .shift { s with phase := .comparison name token.span }
    | _ => .refuse ⟨unexpected token operandStart, s.depth⟩
  | .comparison field span =>
    match token.kind with
    | .comparison op => .shift { s with phase := .literal field span op }
    | _ => .refuse ⟨unexpected token comparisons, s.depth⟩
  | .literal field span op =>
    match token.kind with
    | .string content =>
      .shift { s with phase := .complete ⟨.leaf ⟨field, op, .string content, span⟩, 1⟩ }
    | .number numeral =>
      match Literal.ofNumeral? numeral with
      | some value => .shift { s with phase := .complete ⟨.leaf ⟨field, op, value, span⟩, 1⟩ }
      | none => .refuse ⟨.lex token.span.start (.invalidNumber numeral), s.depth⟩
    | _ => .refuse ⟨unexpected token literals, s.depth⟩
  | .complete operand =>
    match token.kind with
    | .and => operator limits s operand true (.and · token.span.start)
    | .or => operator limits s operand false (.or · token.span.start)
    | _ => finishOperand limits s operand token

def atEnd (limits : Limits) (finish : Nat) (s : State) : Except Failure (Nat × Filter) :=
  match s.phase with
  | .complete operand =>
    match close limits false s.depth s.stack operand with
    | .error failure => .error failure
    | .ok p =>
      match p.stack with
      | .paren :: _ => .error ⟨.unexpectedEnd finish, p.depth⟩
      | _ => .ok (p.depth, p.operand.tree)
  | _ => .error ⟨.unexpectedEnd finish, s.depth⟩

structure Outcome where
  answer : Except QueryError (Option Filter)
  parser : Parser

def run (limits : Limits) (finish : Nat) : State → List Token → Outcome
  | s, [] =>
    match atEnd limits finish s with
    | .ok (depth, filter) => ⟨.ok (some filter), ⟨[], depth, finish⟩⟩
    | .error failure => ⟨.error failure.error, ⟨[], failure.depth, finish⟩⟩
  | s, token :: rest =>
    match step limits s token with
    | .shift s => run limits finish s rest
    | .accept depth filter => ⟨.ok (some filter), ⟨token :: rest, depth, finish⟩⟩
    | .refuse failure => ⟨.error failure.error, ⟨token :: rest, failure.depth, finish⟩⟩
    | .overflow failure => ⟨.error failure.error, ⟨rest, failure.depth, finish⟩⟩

/-- Reads a filter; there is none if no token is left or the end is the next. -/
def parse (limits : Limits) (p : Parser) : Outcome :=
  match p.rest with
  | [] => ⟨.ok none, p⟩
  | ⟨.eof, _⟩ :: _ => ⟨.ok none, p⟩
  | tokens => run limits p.finish ⟨p.depth, [], .operand⟩ tokens

end Parser

def parseFilter (limits : Limits) (text : String) : Except QueryError (Option Filter) := do
  let tokens ← tokenize text
  ((Parser.ofTokens tokens).parse limits).answer

end FilterSql
