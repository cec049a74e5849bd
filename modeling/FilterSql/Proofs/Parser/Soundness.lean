import FilterSql.Condition.Parser
import FilterSql.Proofs.Grammar

/-!
The filter language as a script, and what the parser's stack stands for: the tokens taken so far,
cut into the operators that wait and the words of their left operands. Every answer of the parser is
a condition that its tokens are written for.
-/

namespace FilterSql

open Grammar

def TokenKind.mark? : TokenKind → Option Mark
  | .and => some .and
  | .or => some .or
  | .not => some .not
  | .lparen => some .lparen
  | .rparen => some .rparen
  | _ => none

def TokenKind.literal? : TokenKind → Option Literal
  | .string content => some (.string content)
  | .number numeral => Literal.ofNumeral? numeral
  | _ => none

inductive IsFieldTest : List Token → FieldTest → Prop
  | mk {name comparison literal : Token} {field : String} {op : Comparison} {value : Literal} :
      name.kind = .identifier field → comparison.kind = .comparison op →
      literal.kind.literal? = some value →
      IsFieldTest [name, comparison, literal] ⟨field, op, value, name.span⟩

def filterScript : Script Token FieldTest where
  mark? token := token.kind.mark?
  IsTest := IsFieldTest
  test_head := by
    rintro _ _ ⟨hn, -, -⟩
    exact ⟨_, _, rfl, by simp [hn, TokenKind.mark?]⟩
  test_unique := by
    rintro _ _ x y _ _ ⟨hn, hc, hl⟩ ⟨hn', hc', hl'⟩ e
    simp only [List.cons_append, List.nil_append, List.cons.injEq] at e
    obtain ⟨rfl, rfl, rfl, -⟩ := e
    cases hn.symm.trans hn'
    cases hc.symm.trans hc'
    cases hl.symm.trans hl'
    exact ⟨rfl, rfl⟩

namespace Parser

/-- Nothing on top waits for a part that binds as tight as an OR. -/
def Bare : List Frame → Prop
  | [] => True
  | .paren :: _ => True
  | _ => False

/-- Nothing on top waits for a part that binds as tight as an AND. -/
def Loose : List Frame → Prop
  | .or _ _ :: _ => True
  | stack => Bare stack

theorem Bare.loose : {stack : List Frame} → Bare stack → Loose stack
  | [], h => h
  | .paren :: _, h => h

def Fits : Phrase FieldTest → List Frame → Prop
  | .disjunction, stack => Bare stack
  | .disjuncts _, stack => Bare stack
  | .conjunction, stack => Loose stack
  | .conjuncts _, stack => Loose stack
  | .unary, _ => True
  | .primary, _ => True

/-- A word is written for a subtree, and the height on record is the height of its tree. -/
structure Written (p : Phrase FieldTest) (w : List Token) (x : Subtree) : Prop where
  derives : Derives filterScript p w x.tree
  height_eq : x.height = x.tree.height

inductive Spelled : List Frame → List Token → Prop
  | nil : Spelled [] []
  | not {stack u token} : Spelled stack u → token.kind = .not →
      Spelled (.not token.span.start :: stack) (u ++ [token])
  | and {stack u w token left} : Spelled stack u → Loose stack → Written .conjunction w left →
      token.kind = .and → Spelled (.and left token.span.start :: stack) (u ++ (w ++ [token]))
  | or {stack u w token left} : Spelled stack u → Bare stack → Written .disjunction w left →
      token.kind = .or → Spelled (.or left token.span.start :: stack) (u ++ (w ++ [token]))
  | paren {stack u token} : Spelled stack u → token.kind = .lparen →
      Spelled (.paren :: stack) (u ++ [token])

theorem mark?_of_kind {token : Token} {k : TokenKind} (h : token.kind = k) :
    filterScript.mark? token = k.mark? := by
  simp [filterScript, h]

theorem grow_ok {limits : Limits} {depth position : Nat} {tree : Filter} {height : Nat}
    {x : Subtree} (h : grow limits depth position tree height = .ok x) : x = ⟨tree, height⟩ := by
  unfold grow at h
  split at h
  · cases h
  · cases h; rfl

theorem close_suffix {limits : Limits} {beforeAnd : Bool} {depth : Nat} {stack : List Frame}
    {x : Subtree} {p : Pending} (h : close limits beforeAnd depth stack x = .ok p) :
    p.stack <:+ stack := by
  fun_induction close limits beforeAnd depth stack x with
  | case1 | case3 | case6 => cases h
  | case2 _ _ _ _ _ _ ih => exact (ih h).trans (List.suffix_cons _ _)
  | case4 _ _ _ _ _ _ _ ih => exact (ih h).trans (List.suffix_cons _ _)
  | case5 => cases h; exact List.suffix_refl _
  | case7 _ _ _ _ _ _ _ _ ih => exact (ih h).trans (List.suffix_cons _ _)
  | case8 => cases h; exact List.suffix_refl _

def closedPhrase (beforeAnd : Bool) : Phrase FieldTest :=
  if beforeAnd then .conjunction else .disjunction

inductive Operand (beforeAnd : Bool) : Phrase FieldTest → Prop
  | unary : Operand beforeAnd .unary
  | conjunction : Operand beforeAnd .conjunction
  | disjunction : beforeAnd = false → Operand beforeAnd .disjunction

theorem Operand.written_closed {beforeAnd : Bool} {p : Phrase FieldTest} {w : List Token}
    {x : Subtree} (hp : Operand beforeAnd p) (h : Written p w x) :
    Written (closedPhrase beforeAnd) w x := by
  refine ⟨?_, h.height_eq⟩
  cases hp with
  | unary =>
    cases beforeAnd with
    | false => exact h.derives.toConjunction.toDisjunction
    | true => exact h.derives.toConjunction
  | conjunction =>
    cases beforeAnd with
    | false => exact h.derives.toDisjunction
    | true => exact h.derives
  | disjunction hb => subst hb; exact h.derives

section Written

variable {u w : List Token} {token : Token} {l x : Subtree}

theorem Written.not (h : Written .unary w x) (hk : token.kind = .not) :
    Written .unary (token :: w) ⟨.not x.tree, x.height + 1⟩ :=
  ⟨.negation (mark?_of_kind hk) h.derives, congrArg (· + 1) h.height_eq⟩

theorem Written.and (hl : Written .conjunction u l) (hk : token.kind = .and)
    (h : Written .unary w x) :
    Written .conjunction (u ++ token :: w)
      ⟨.and l.tree x.tree, max l.height x.height + 1⟩ :=
  ⟨hl.derives.and (mark?_of_kind hk) h.derives,
    by simp only [Condition.height, hl.height_eq, h.height_eq]⟩

theorem Written.or (hl : Written .disjunction u l) (hk : token.kind = .or)
    (h : Written .conjunction w x) :
    Written .disjunction (u ++ token :: w) ⟨.or l.tree x.tree, max l.height x.height + 1⟩ :=
  ⟨hl.derives.or (mark?_of_kind hk) h.derives,
    by simp only [Condition.height, hl.height_eq, h.height_eq]⟩

end Written

/-- What `close` leaves on the stack and the operand that it makes are written as before. -/
theorem close_spelled {limits : Limits} {beforeAnd : Bool} {depth : Nat} {stack : List Frame}
    {x : Subtree} {c : Pending} {p : Phrase FieldTest} {u w : List Token}
    (hs : Spelled stack u) (hx : Written p w x) (hp : Operand beforeAnd p)
    (hf : Fits p stack) (h : close limits beforeAnd depth stack x = .ok c) :
    ∃ u' w', u ++ w = u' ++ w' ∧ Spelled c.stack u' ∧
      Written (closedPhrase beforeAnd) w' c.operand ∧ Fits (closedPhrase beforeAnd) c.stack := by
  induction hs generalizing depth x p w with
  | nil =>
    cases h
    exact ⟨[], w, rfl, .nil, hp.written_closed hx, by cases beforeAnd <;> trivial⟩
  | not hs ht ih =>
    cases hp with
    | unary =>
      simp only [close] at h
      split at h
      · cases h
      · next y hy =>
        obtain rfl := grow_ok hy
        obtain ⟨u', w', e, hc⟩ := ih (hx.not ht) .unary trivial h
        exact ⟨u', w', by simpa using e, hc⟩
    | conjunction => cases hf
    | disjunction => cases hf
  | and hs hfs hl ht ih =>
    cases hp with
    | unary =>
      simp only [close] at h
      split at h
      · cases h
      · next y hy =>
        obtain rfl := grow_ok hy
        obtain ⟨u', w', e, hc⟩ := ih (hl.and ht hx) .conjunction hfs h
        exact ⟨u', w', by simpa using e, hc⟩
    | conjunction => cases hf
    | disjunction => cases hf
  | @or stack u v token left hs hfs hl ht ih =>
    have hx' : Written .conjunction w x := by
      cases hp with
      | unary => exact ⟨hx.derives.toConjunction, hx.height_eq⟩
      | conjunction => exact hx
      | disjunction => cases hf
    cases beforeAnd with
    | true =>
      -- the OR goes on waiting: the AND takes its right operand first
      cases h
      exact ⟨_, w, rfl, .or hs hfs hl ht, hx', trivial⟩
    | false =>
      simp only [close] at h
      split at h
      · contradiction
      · split at h
        · cases h
        · next y hy =>
          obtain rfl := grow_ok hy
          obtain ⟨u', w', e, hc⟩ := ih (hl.or ht hx') (.disjunction rfl) hfs h
          exact ⟨u', w', by simpa using e, hc⟩
  | paren hs ht =>
    cases h
    exact ⟨_, w, rfl, .paren hs ht, hp.written_closed hx, by cases beforeAnd <;> trivial⟩

def Phase.Reads : Phase → List Token → Prop
  | .operand, w => w = []
  | .comparison field span, w =>
    ∃ name, w = [name] ∧ name.kind = .identifier field ∧ name.span = span
  | .literal field span op, w =>
    ∃ name comparison, w = [name, comparison] ∧ name.kind = .identifier field ∧
      name.span = span ∧ comparison.kind = .comparison op
  | .complete x, w => Written .unary w x

def State.Reads (s : State) (u : List Token) : Prop :=
  ∃ v w, u = v ++ w ∧ Spelled s.stack v ∧ s.phase.Reads w

theorem reads_start (depth : Nat) : State.Reads ⟨depth, [], .operand⟩ [] :=
  ⟨[], [], rfl, .nil, rfl⟩

theorem written_leaf {name comparison literal : Token} {field : String} {op : Comparison}
    {value : Literal} (hn : name.kind = .identifier field)
    (hc : comparison.kind = .comparison op) (hl : literal.kind.literal? = some value) :
    Written .unary [name, comparison, literal] ⟨.leaf ⟨field, op, value, name.span⟩, 1⟩ :=
  ⟨.unary (.test (.mk hn hc hl)), rfl⟩

theorem enter_shift {limits : Limits} {s s' : State} {token : Token} {frame : Frame}
    (h : enter limits s token frame = .shift s') :
    s' = ⟨s.depth + 1, frame :: s.stack, .operand⟩ := by
  unfold enter at h
  split at h
  · cases h
  · cases h; rfl

theorem reads_operator (beforeAnd : Bool) {limits : Limits} {s s' : State} {x : Subtree}
    {u : List Token} {token : Token} {frame : Subtree → Frame}
    (h : State.Reads s u) (hp : s.phase = .complete x)
    (hf : ∀ {stack v w} {left : Subtree}, Spelled stack v → Fits (closedPhrase beforeAnd) stack →
      Written (closedPhrase beforeAnd) w left →
      Spelled (frame left :: stack) (v ++ (w ++ [token])))
    (hs : operator limits s x beforeAnd frame = .shift s') : s'.Reads (u ++ [token]) := by
  obtain ⟨v, w, rfl, hv, hw⟩ := h
  rw [hp] at hw
  unfold operator at hs
  split at hs
  · cases hs
  · next c hc =>
    cases hs
    obtain ⟨v', w', e, hv', hw', hfit⟩ := close_spelled hv hw .unary trivial hc
    exact ⟨_, [], by simp [e], hf hv' hfit hw', rfl⟩

theorem reads_finishOperand {limits : Limits} {s s' : State} {x : Subtree} {u : List Token}
    {token : Token} (h : State.Reads s u) (hp : s.phase = .complete x)
    (hs : finishOperand limits s x token = .shift s') : s'.Reads (u ++ [token]) := by
  obtain ⟨v, w, rfl, hv, hw⟩ := h
  rw [hp] at hw
  unfold finishOperand at hs
  split at hs
  · cases hs
  · next c hc =>
    obtain ⟨v', w', e, hv', hw', -⟩ := close_spelled hv hw .unary trivial hc
    split at hs
    · next stack hstack hk =>
      cases hs
      rw [hstack] at hv'
      cases hv' with
      | @paren _ v'' open_ hv'' ho =>
        have hprimary := Derives.parentheses (mark?_of_kind ho) hw'.derives (mark?_of_kind hk)
        exact ⟨v'', _, by simp [e], hv'', .unary hprimary, hw'.height_eq⟩
    · cases hs
    · cases hs
    · cases hs

theorem reads_shift {limits : Limits} {s s' : State} {u : List Token} {token : Token}
    (h : s.Reads u) (hs : step limits s token = .shift s') : s'.Reads (u ++ [token]) := by
  unfold step at hs
  split at hs
  · next hp =>
    obtain ⟨v, w, rfl, hv, hw⟩ := h
    rw [hp] at hw
    obtain rfl := hw
    split at hs
    · next hk =>
      obtain rfl := enter_shift hs
      exact ⟨_, [], by simp, .not hv hk, rfl⟩
    · next hk =>
      obtain rfl := enter_shift hs
      exact ⟨_, [], by simp, .paren hv hk, rfl⟩
    · next hk =>
      cases hs
      exact ⟨v, [token], by simp, hv, token, rfl, hk, rfl⟩
    · cases hs
  · next field span hp =>
    obtain ⟨v, w, rfl, hv, hw⟩ := h
    rw [hp] at hw
    obtain ⟨name, rfl, hn, hsp⟩ := hw
    split at hs
    · next hk =>
      cases hs
      exact ⟨v, [name, token], by simp, hv, name, token, rfl, hn, hsp, hk⟩
    · cases hs
  · next field span op hp =>
    obtain ⟨v, w, rfl, hv, hw⟩ := h
    rw [hp] at hw
    obtain ⟨name, comparison, rfl, hn, rfl, hc⟩ := hw
    split at hs
    · next content hk =>
      cases hs
      have hl : token.kind.literal? = some (.string content) := by rw [hk]; rfl
      exact ⟨v, _, by simp, hv, written_leaf hn hc hl⟩
    · next hk =>
      split at hs
      · next hl =>
        cases hs
        rw [← TokenKind.literal?.eq_2, ← hk] at hl
        exact ⟨v, _, by simp, hv, written_leaf hn hc hl⟩
      · cases hs
    · cases hs
  · next x hp =>
    split at hs
    · next hk =>
      exact reads_operator true h hp (fun hv hf hw => .and hv hf hw hk) hs
    · next hk =>
      exact reads_operator false h hp (fun hv hf hw => .or hv hf hw hk) hs
    · exact reads_finishOperand h hp hs

theorem derives_of_closed {limits : Limits} {depth : Nat} {s : State} {x : Subtree}
    {c : Pending} {u : List Token} (h : State.Reads s u) (hp : s.phase = .complete x)
    (hc : close limits false depth s.stack x = .ok c)
    (hn : ∀ stack, c.stack ≠ .paren :: stack) :
    Derives filterScript .disjunction u c.operand.tree := by
  obtain ⟨v, w, rfl, hv, hw⟩ := h
  rw [hp] at hw
  obtain ⟨v', w', e, hv', hw', hf⟩ := close_spelled hv hw .unary trivial hc
  rw [e]
  revert hv' hf hn
  cases c.stack with
  | nil =>
    intro _ hv' _
    cases hv'
    exact hw'.derives
  | cons frame stack =>
    intro hn _ hf
    cases frame with
    | paren => exact absurd rfl (hn stack)
    | _ => cases hf

theorem accept_closed {limits : Limits} {s : State} {token : Token} {depth : Nat} {t : Filter}
    (hs : step limits s token = .accept depth t) :
    token.kind = .eof ∧ ∃ x c, s.phase = .complete x ∧
      close limits false s.depth s.stack x = .ok c ∧ (∀ stack, c.stack ≠ .paren :: stack) ∧
      c.operand.tree = t := by
  unfold step at hs
  split at hs
  · split at hs
    · unfold enter at hs; split at hs <;> cases hs
    · unfold enter at hs; split at hs <;> cases hs
    · cases hs
    · cases hs
  · split at hs <;> cases hs
  · split at hs
    · cases hs
    · split at hs <;> cases hs
    · cases hs
  · next x hp =>
    split at hs
    · unfold operator at hs; split at hs <;> cases hs
    · unfold operator at hs; split at hs <;> cases hs
    · unfold finishOperand at hs
      split at hs
      · cases hs
      · next c hc =>
        split at hs
        · cases hs
        · cases hs
        · next hk hn =>
          cases hs
          exact ⟨hk, x, c, hp, hc, hn, rfl⟩
        · cases hs

theorem atEnd_closed {limits : Limits} {finish depth : Nat} {s : State} {t : Filter}
    (hs : atEnd limits finish s = .ok (depth, t)) :
    ∃ x c, s.phase = .complete x ∧ close limits false s.depth s.stack x = .ok c ∧
      (∀ stack, c.stack ≠ .paren :: stack) ∧ c.operand.tree = t := by
  unfold atEnd at hs
  split at hs
  · next x hp =>
    split at hs
    · cases hs
    · next c hc =>
      split at hs
      · cases hs
      · next hn =>
        cases hs
        exact ⟨x, c, hp, hc, hn, rfl⟩
  · cases hs

theorem step_eof_ne_shift {limits : Limits} {s s' : State} {token : Token}
    (h : token.kind = .eof) : step limits s token ≠ .shift s' := by
  intro hs
  unfold step at hs
  simp only [h] at hs
  split at hs
  · cases hs
  · cases hs
  · cases hs
  · simp only [finishOperand, h] at hs
    split at hs
    · cases hs
    · split at hs
      · contradiction
      · cases hs
      · cases hs
      · cases hs

theorem derives_of_run {limits : Limits} {finish : Nat} {s : State} {u v closing : List Token}
    {t : Filter} (h : s.Reads u) (hv : ∀ token ∈ v, token.kind ≠ .eof)
    (hc : ∀ token ∈ closing, token.kind = .eof)
    (hr : (run limits finish s (v ++ closing)).answer = .ok (some t)) :
    Derives filterScript .disjunction (u ++ v) t := by
  induction v generalizing s u with
  | nil =>
    cases closing with
    | nil =>
      simp only [List.nil_append, run] at hr
      split at hr
      · next he =>
        cases hr
        obtain ⟨x, c, hp, hclose, hn, rfl⟩ := atEnd_closed he
        simpa using derives_of_closed h hp hclose hn
      · cases hr
    | cons token rest =>
      simp only [List.nil_append, run] at hr
      split at hr
      · next he => exact absurd he (step_eof_ne_shift (hc token (by simp)))
      · next he =>
        cases hr
        obtain ⟨-, x, c, hp, hclose, hn, rfl⟩ := accept_closed he
        simpa using derives_of_closed h hp hclose hn
      · cases hr
      · cases hr
  | cons token v ih =>
    simp only [List.cons_append, run] at hr
    split at hr
    · next he =>
      simpa using ih (reads_shift h he) (fun token ht => hv token (by simp [ht])) hr
    · next he => exact absurd (accept_closed he).1 (hv token (by simp))
    · cases hr
    · cases hr

end Parser

end FilterSql
