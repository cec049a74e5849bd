import FilterSql.Proofs.Parser.Soundness

namespace FilterSql.Parser

open Grammar

inductive Opening
  | not
  | paren
  deriving DecidableEq, Repr

/-- Where an operand ends, no NOT in front of it waits any longer. -/
def settle : List Opening → List Opening
  | .not :: openings => settle openings
  | openings => openings

@[simp] theorem settle_nil : settle [] = [] := rfl

@[simp] theorem settle_not (openings : List Opening) :
    settle (.not :: openings) = settle openings := rfl

@[simp] theorem settle_paren (openings : List Opening) :
    settle (.paren :: openings) = .paren :: openings := rfl

def openBehind (openings : List Opening) : TokenKind → List Opening
  | .not => .not :: openings
  | .lparen => .paren :: openings
  | .rparen => settle openings.tail
  | .string _ => settle openings
  | .number _ => settle openings
  | _ => openings

@[simp] theorem openBehind_identifier (openings : List Opening) (name : String) :
    openBehind openings (.identifier name) = openings := rfl

@[simp] theorem openBehind_comparison (openings : List Opening) (op : Comparison) :
    openBehind openings (.comparison op) = openings := rfl

def openAfter (openings : List Opening) : List Token → List Opening
  | [] => openings
  | token :: rest => openAfter (openBehind openings token.kind) rest

def nestingFrom (openings : List Opening) : List Token → Nat
  | [] => openings.length
  | token :: rest => max openings.length (nestingFrom (openBehind openings token.kind) rest)

def nesting (tokens : List Token) : Nat := nestingFrom [] tokens

theorem length_settle_le (openings : List Opening) :
    (settle openings).length ≤ openings.length := by
  fun_induction settle openings with
  | case1 openings ih => exact Nat.le_succ_of_le ih
  | case2 => exact Nat.le_refl _

theorem length_openBehind_le (openings : List Opening) (kind : TokenKind) :
    (openBehind openings kind).length ≤ openings.length + 1 := by
  have hsettle := length_settle_le openings
  have htail := length_settle_le openings.tail
  simp only [List.length_tail] at htail
  cases kind <;> simp only [openBehind, List.length_cons] <;> omega

theorem openAfter_append (openings : List Opening) (u v : List Token) :
    openAfter openings (u ++ v) = openAfter (openAfter openings u) v := by
  induction u generalizing openings with
  | nil => rfl
  | cons token u ih => exact ih _

theorem nestingFrom_append (openings : List Opening) (u v : List Token) :
    nestingFrom openings (u ++ v) =
      max (nestingFrom openings u) (nestingFrom (openAfter openings u) v) := by
  induction u generalizing openings with
  | nil =>
    have hstart : openings.length ≤ nestingFrom openings v := by
      cases v with
      | nil => exact Nat.le_refl _
      | cons => exact Nat.le_max_left _ _
    exact (Nat.max_eq_right hstart).symm
  | cons token u ih => simp only [List.cons_append, nestingFrom, openAfter, ih, Nat.max_assoc]

theorem nestingFrom_le (openings : List Opening) (u : List Token) :
    nestingFrom openings u ≤ openings.length + u.length := by
  induction u generalizing openings with
  | nil => exact Nat.le_refl _
  | cons token u ih =>
    have hrest := ih (openBehind openings token.kind)
    have hbehind := length_openBehind_le openings token.kind
    simp only [nestingFrom, List.length_cons]
    omega

theorem length_openAfter_le (openings : List Opening) (u : List Token) :
    (openAfter openings u).length ≤ nestingFrom openings u := by
  induction u generalizing openings with
  | nil => exact Nat.le_refl _
  | cons token u ih => exact Nat.le_trans (ih _) (Nat.le_max_right _ _)

/-- Whether a part of this kind may begin where this much is open: only a single operand may follow
a NOT. -/
def Begins : Phrase FieldTest → List Opening → Prop
  | .unary, _ => True
  | .primary, _ => True
  | _, openings => settle openings = openings

theorem openBehind_mark {token : Token} {m : Mark} (h : filterScript.mark? token = some m)
    (openings : List Opening) :
    openBehind openings token.kind =
      match m with
      | .and => openings
      | .or => openings
      | .not => .not :: openings
      | .lparen => .paren :: openings
      | .rparen => settle openings.tail := by
  change token.kind.mark? = some m at h
  cases hk : token.kind <;> rw [hk] at h <;> cases h <;> rfl

theorem openBehind_literal {kind : TokenKind} {value : Literal} (h : kind.literal? = some value)
    (openings : List Opening) : openBehind openings kind = settle openings := by
  cases kind <;> simp_all [TokenKind.literal?, openBehind]

/-- Behind a condition only those NOTs have gone that waited for it. -/
theorem openAfter_derives {p : Phrase FieldTest} {w : List Token} {t : Filter}
    (h : Derives filterScript p w t) (openings : List Opening) (hb : Begins p openings) :
    openAfter openings w = settle openings := by
  induction h generalizing openings with
  | disjunction _ _ ihu ihv => rw [openAfter_append, ihu _ hb, hb, ihv _ hb, hb]
  | noDisjunct => exact hb.symm
  | disjunct hm _ _ ihu ihv =>
    rw [openAfter_append, openAfter, openBehind_mark hm, ihu _ hb, hb, ihv _ hb, hb]
  | conjunction _ _ ihu ihv => rw [openAfter_append, ihu _ trivial, hb, ihv _ hb, hb]
  | noConjunct => exact hb.symm
  | conjunct hm _ _ ihu ihv =>
    rw [openAfter_append, openAfter, openBehind_mark hm, ihu _ trivial, hb, ihv _ hb, hb]
  | negation hm _ ih => rw [openAfter, openBehind_mark hm, ih _ trivial, settle_not]
  | unary _ ih => exact ih _ trivial
  | test ha =>
    cases ha with
    | mk hn hc hl => simp [openAfter, hn, hc, openBehind_literal hl]
  | parentheses hm _ he ih =>
    rw [List.cons_append, openAfter, openAfter_append, openBehind_mark hm, ih _ (settle_paren _),
      openAfter, openBehind_mark he]
    rfl

theorem nestingFrom_derives {p : Phrase FieldTest} {w : List Token} {t : Filter}
    (h : Derives filterScript p w t) (openings : List Opening) (hb : Begins p openings) :
    nestingFrom openings w = openings.length + nestingFrom [] w := by
  -- a phrase leaves the openings before it as they were, so both parts of a rule start from them
  induction h generalizing openings with
  | disjunction hu _ ihu ihv =>
    rw [nestingFrom_append, nestingFrom_append, openAfter_derives hu _ hb,
      openAfter_derives hu [] settle_nil, hb, settle_nil, ihu _ hb, ihv _ hb]
    omega
  | noDisjunct => rfl
  | disjunct hm hu _ ihu ihv =>
    simp only [List.cons_append, nestingFrom, openBehind_mark hm, nestingFrom_append]
    rw [openAfter_derives hu _ hb, openAfter_derives hu [] settle_nil, hb, settle_nil, ihu _ hb,
      ihv _ hb, List.length_nil]
    omega
  | conjunction hu _ ihu ihv =>
    rw [nestingFrom_append, nestingFrom_append, openAfter_derives hu _ trivial,
      openAfter_derives hu [] trivial, hb, settle_nil, ihu _ trivial, ihv _ hb]
    omega
  | noConjunct => rfl
  | conjunct hm hu _ ihu ihv =>
    simp only [List.cons_append, nestingFrom, openBehind_mark hm, nestingFrom_append]
    rw [openAfter_derives hu _ trivial, openAfter_derives hu [] trivial, hb, settle_nil,
      ihu _ trivial, ihv _ hb, List.length_nil]
    omega
  | negation hm _ ih =>
    simp only [nestingFrom, openBehind_mark hm]
    rw [ih _ trivial, ih [.not] trivial]
    simp only [List.length_cons, List.length_nil]
    omega
  | unary _ ih => exact ih _ trivial
  | test ha =>
    cases ha with
    | mk hn hc hl =>
      have hs := length_settle_le openings
      simp only [nestingFrom, hn, hc, openBehind_identifier, openBehind_comparison,
        openBehind_literal hl, settle_nil, List.length_nil]
      omega
  | parentheses hm hu he ih =>
    have hs := length_settle_le openings
    simp only [List.cons_append, nestingFrom, openBehind_mark hm, nestingFrom_append]
    rw [ih _ (settle_paren _), ih _ (settle_paren []), openAfter_derives hu _ (settle_paren _),
      openAfter_derives hu _ (settle_paren [])]
    simp only [openBehind_mark he, settle_paren, settle_nil, List.tail_cons, List.length_cons,
      List.length_nil]
    omega

theorem nesting_le_length (tokens : List Token) : nesting tokens ≤ tokens.length := by
  simpa [nesting] using nestingFrom_le [] tokens

section Nesting

variable {s e : Token} {u v : List Token} {p : Phrase FieldTest} {t : Filter}

theorem nesting_append (h : Derives filterScript p u t) (v : List Token) :
    nesting (u ++ v) = max (nesting u) (nesting v) := by
  have hb : Begins p [] := by cases p <;> trivial
  rw [nesting, nestingFrom_append, openAfter_derives h [] hb]
  rfl

theorem nesting_operator (hm : filterScript.mark? s = some .and ∨ filterScript.mark? s = some .or)
    (u : List Token) : nesting (s :: u) = nesting u := by
  rcases hm with hm | hm <;> simp [nesting, nestingFrom, openBehind_mark hm]

theorem nesting_negation (hm : filterScript.mark? s = some .not)
    (h : Derives filterScript .unary u t) : nesting (s :: u) = nesting u + 1 := by
  rw [nesting, nestingFrom, openBehind_mark hm, nestingFrom_derives h [.not] trivial, nesting]
  simp only [List.length_cons, List.length_nil]
  omega

theorem nesting_parentheses (hm : filterScript.mark? s = some .lparen)
    (h : Derives filterScript .disjunction u t) (he : filterScript.mark? e = some .rparen) :
    nesting (s :: u ++ [e]) = nesting u + 1 := by
  rw [List.cons_append, nesting, nestingFrom, openBehind_mark hm, nestingFrom_append,
    nestingFrom_derives h _ (settle_paren []), openAfter_derives h _ (settle_paren []), nesting]
  simp only [nestingFrom, openBehind_mark he, settle_paren, settle_nil, List.tail_cons,
    List.length_cons, List.length_nil]
  omega

end Nesting

end FilterSql.Parser
