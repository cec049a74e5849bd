import FilterSql.Condition.Basic

/-!
How conditions are written: tests are joined by AND and OR, negated by NOT and put in parentheses.
NOT binds tighter than AND, AND tighter than OR, and chains lean to the left. No word is written for
two conditions.
-/

namespace FilterSql.Grammar

inductive Mark
  | and
  | or
  | not
  | lparen
  | rparen
  deriving DecidableEq

/-- A way to write conditions, in which the end of a test is seen without looking ahead. -/
structure Script (σ α : Type) where
  mark? : σ → Option Mark
  IsTest : List σ → α → Prop
  test_head : ∀ {w : List σ} {a : α}, IsTest w a → ∃ s rest, w = s :: rest ∧ mark? s = none
  test_unique : ∀ {u v x y : List σ} {a b : α}, IsTest u a → IsTest v b → u ++ x = v ++ y →
    u = v ∧ a = b

/-- The parts of a condition; `disjuncts` and `conjuncts` follow a condition that they extend. -/
inductive Phrase (α : Type)
  | disjunction
  | disjuncts (left : Condition α)
  | conjunction
  | conjuncts (left : Condition α)
  | unary
  | primary

inductive Derives {σ α : Type} (S : Script σ α) : Phrase α → List σ → Condition α → Prop
  | disjunction {u v l t} : Derives S .conjunction u l → Derives S (.disjuncts l) v t →
      Derives S .disjunction (u ++ v) t
  | noDisjunct {l} : Derives S (.disjuncts l) [] l
  | disjunct {s u v l r t} : S.mark? s = some .or → Derives S .conjunction u r →
      Derives S (.disjuncts (.or l r)) v t → Derives S (.disjuncts l) (s :: u ++ v) t
  | conjunction {u v l t} : Derives S .unary u l → Derives S (.conjuncts l) v t →
      Derives S .conjunction (u ++ v) t
  | noConjunct {l} : Derives S (.conjuncts l) [] l
  | conjunct {s u v l r t} : S.mark? s = some .and → Derives S .unary u r →
      Derives S (.conjuncts (.and l r)) v t → Derives S (.conjuncts l) (s :: u ++ v) t
  | negation {s u t} : S.mark? s = some .not → Derives S .unary u t →
      Derives S .unary (s :: u) (.not t)
  | unary {u t} : Derives S .primary u t → Derives S .unary u t
  | test {u a} : S.IsTest u a → Derives S .primary u (.leaf a)
  | parentheses {s u e t} : S.mark? s = some .lparen → Derives S .disjunction u t →
      S.mark? e = some .rparen → Derives S .primary (s :: u ++ [e]) t

variable {σ α : Type} {S : Script σ α}

theorem Derives.conjuncts_snoc {s : σ} {u v : List σ} {l t r : Condition α}
    (h : Derives S (.conjuncts l) u t) (hs : S.mark? s = some .and) (hr : Derives S .unary v r) :
    Derives S (.conjuncts l) (u ++ s :: v) (.and t r) := by
  generalize hp : Phrase.conjuncts l = p at h
  induction h generalizing l with
  | noConjunct => cases hp; simpa using Derives.conjunct hs hr .noConjunct
  | conjunct hm hu _ _ ih => cases hp; simpa using Derives.conjunct hm hu (ih rfl)
  | _ => cases hp

theorem Derives.disjuncts_snoc {s : σ} {u v : List σ} {l t r : Condition α}
    (h : Derives S (.disjuncts l) u t) (hs : S.mark? s = some .or)
    (hr : Derives S .conjunction v r) :
    Derives S (.disjuncts l) (u ++ s :: v) (.or t r) := by
  generalize hp : Phrase.disjuncts l = p at h
  induction h generalizing l with
  | noDisjunct => cases hp; simpa using Derives.disjunct hs hr .noDisjunct
  | disjunct hm hu _ _ ih => cases hp; simpa using Derives.disjunct hm hu (ih rfl)
  | _ => cases hp

theorem Derives.and {s : σ} {u v : List σ} {l r : Condition α}
    (hl : Derives S .conjunction u l) (hs : S.mark? s = some .and) (hr : Derives S .unary v r) :
    Derives S .conjunction (u ++ s :: v) (.and l r) := by
  cases hl with
  | conjunction hu hv => simpa using Derives.conjunction hu (hv.conjuncts_snoc hs hr)

theorem Derives.or {s : σ} {u v : List σ} {l r : Condition α}
    (hl : Derives S .disjunction u l) (hs : S.mark? s = some .or)
    (hr : Derives S .conjunction v r) : Derives S .disjunction (u ++ s :: v) (.or l r) := by
  cases hl with
  | disjunction hu hv => simpa using Derives.disjunction hu (hv.disjuncts_snoc hs hr)

theorem Derives.toConjunction {u : List σ} {t : Condition α} (h : Derives S .unary u t) :
    Derives S .conjunction u t := by
  simpa using Derives.conjunction h .noConjunct

theorem Derives.toDisjunction {u : List σ} {t : Condition α} (h : Derives S .conjunction u t) :
    Derives S .disjunction u t := by
  simpa using Derives.disjunction h .noDisjunct

def Avoids (S : Script σ α) (m : Mark) (x : List σ) : Prop :=
  ∀ s ∈ x.head?, S.mark? s ≠ some m

@[simp] theorem avoids_nil (m : Mark) : Avoids S m [] := by
  simp [Avoids]

@[simp] theorem avoids_cons (m : Mark) (s : σ) (x : List σ) :
    Avoids S m (s :: x) ↔ S.mark? s ≠ some m := by
  simp [Avoids]

/-- What may stand behind a part for the part to end there. -/
def Ends (S : Script σ α) : Phrase α → List σ → Prop
  | .disjunction, x => Avoids S .and x ∧ Avoids S .or x
  | .disjuncts _, x => Avoids S .and x ∧ Avoids S .or x
  | .conjunction, x => Avoids S .and x
  | .conjuncts _, x => Avoids S .and x
  | .unary, _ => True
  | .primary, _ => True

theorem Derives.avoids_and {v x : List σ} {l t : Condition α}
    (h : Derives S (.disjuncts l) v t) (hx : Avoids S .and x) : Avoids S .and (v ++ x) := by
  cases h with
  | noDisjunct => exact hx
  | disjunct hm => simp [hm]

theorem Derives.primary_head {u : List σ} {t : Condition α} (h : Derives S .primary u t) :
    ∃ s rest, u = s :: rest ∧ S.mark? s ≠ some .not := by
  cases h with
  | test ha =>
    obtain ⟨s, rest, rfl, hs⟩ := S.test_head ha
    exact ⟨s, rest, rfl, by simp [hs]⟩
  | parentheses hm => exact ⟨_, _, rfl, by simp [hm]⟩

/-- Two derivations of one part along one text are the same, if the part ends behind both. -/
theorem Derives.unique {p : Phrase α} {u v x y : List σ} {t t' : Condition α}
    (h : Derives S p u t) (h' : Derives S p v t') (e : u ++ x = v ++ y)
    (hx : Ends S p x) (hy : Ends S p y) : u = v ∧ t = t' := by
  -- the first symbols of both derivations agree, so both end with the same rule; what follows the
  -- first part of a rule keeps that part from going on
  induction h generalizing v x y t' with
  | disjunction _ hv ihu ihv =>
    cases h' with
    | disjunction hu' hv' =>
      simp only [List.append_assoc] at e
      obtain ⟨rfl, rfl⟩ := ihu hu' e (hv.avoids_and hx.1) (hv'.avoids_and hy.1)
      obtain ⟨rfl, rfl⟩ := ihv hv' (List.append_cancel_left e) hx hy
      exact ⟨rfl, rfl⟩
  | noDisjunct =>
    cases h' with
    | noDisjunct => exact ⟨rfl, rfl⟩
    | disjunct hm => subst e; exact absurd hm (by simpa using hx.2)
  | disjunct hm _ hv ihu ihv =>
    cases h' with
    | noDisjunct => subst e; exact absurd hm (by simpa using hy.2)
    | disjunct _ hu' hv' =>
      simp only [List.cons_append, List.append_assoc, List.cons.injEq] at e
      obtain ⟨rfl, e⟩ := e
      obtain ⟨rfl, rfl⟩ := ihu hu' e (hv.avoids_and hx.1) (hv'.avoids_and hy.1)
      obtain ⟨rfl, rfl⟩ := ihv hv' (List.append_cancel_left e) hx hy
      exact ⟨rfl, rfl⟩
  | conjunction _ _ ihu ihv =>
    cases h' with
    | conjunction hu' hv' =>
      simp only [List.append_assoc] at e
      obtain ⟨rfl, rfl⟩ := ihu hu' e trivial trivial
      obtain ⟨rfl, rfl⟩ := ihv hv' (List.append_cancel_left e) hx hy
      exact ⟨rfl, rfl⟩
  | noConjunct =>
    cases h' with
    | noConjunct => exact ⟨rfl, rfl⟩
    | conjunct hm => subst e; exact absurd hm (by simpa [Ends] using hx)
  | conjunct hm _ _ ihu ihv =>
    cases h' with
    | noConjunct => subst e; exact absurd hm (by simpa [Ends] using hy)
    | conjunct _ hu' hv' =>
      simp only [List.cons_append, List.append_assoc, List.cons.injEq] at e
      obtain ⟨rfl, e⟩ := e
      obtain ⟨rfl, rfl⟩ := ihu hu' e trivial trivial
      obtain ⟨rfl, rfl⟩ := ihv hv' (List.append_cancel_left e) hx hy
      exact ⟨rfl, rfl⟩
  | negation hm _ ih =>
    cases h' with
    | negation _ hu' =>
      simp only [List.cons_append, List.cons.injEq] at e
      obtain ⟨rfl, e⟩ := e
      obtain ⟨rfl, rfl⟩ := ih hu' e trivial trivial
      exact ⟨rfl, rfl⟩
    | unary hu' =>
      obtain ⟨s, rest, rfl, hs⟩ := hu'.primary_head
      simp only [List.cons_append, List.cons.injEq] at e
      exact absurd hm (e.1 ▸ hs)
  | unary hu ih =>
    cases h' with
    | negation hm =>
      obtain ⟨s, rest, rfl, hs⟩ := hu.primary_head
      simp only [List.cons_append, List.cons.injEq] at e
      exact absurd hm (e.1 ▸ hs)
    | unary hu' => exact ih hu' e trivial trivial
  | test ha =>
    cases h' with
    | test ha' =>
      obtain ⟨rfl, rfl⟩ := S.test_unique ha ha' e
      exact ⟨rfl, rfl⟩
    | parentheses hm =>
      obtain ⟨s, rest, rfl, hs⟩ := S.test_head ha
      simp only [List.cons_append, List.cons.injEq] at e
      rw [← e.1, hs] at hm
      cases hm
  | parentheses hm _ he ih =>
    cases h' with
    | test ha' =>
      obtain ⟨s, rest, rfl, hs⟩ := S.test_head ha'
      simp only [List.cons_append, List.cons.injEq] at e
      rw [e.1, hs] at hm
      cases hm
    | parentheses _ hu' he' =>
      simp only [List.cons_append, List.append_assoc, List.nil_append, List.cons.injEq] at e
      obtain ⟨rfl, e⟩ := e
      obtain ⟨rfl, rfl⟩ := ih hu' e (by simp [Ends, he]) (by simp [Ends, he'])
      obtain ⟨rfl, -⟩ := List.cons.inj (List.append_cancel_left e)
      exact ⟨rfl, rfl⟩

theorem Derives.condition_unique {u : List σ} {t t' : Condition α}
    (h : Derives S .disjunction u t) (h' : Derives S .disjunction u t') : t = t' :=
  (h.unique (x := []) (y := []) h' rfl (by simp [Ends]) (by simp [Ends])).2

def Phrase.leftHeight : Phrase α → Nat
  | .disjuncts l => l.height
  | .conjuncts l => l.height
  | _ => 0

theorem Derives.leftHeight_le {p : Phrase α} {u : List σ} {t : Condition α}
    (h : Derives S p u t) : p.leftHeight ≤ t.height := by
  induction h with
  | disjunct _ _ _ _ ih => simp only [Phrase.leftHeight, Condition.height] at ih ⊢; omega
  | conjunct _ _ _ _ ih => simp only [Phrase.leftHeight, Condition.height] at ih ⊢; omega
  | _ => simp [Phrase.leftHeight]

theorem Derives.height_le {p : Phrase α} {u : List σ} {t : Condition α} (h : Derives S p u t) :
    t.height ≤ p.leftHeight + u.length := by
  induction h with
  | disjunction _ _ ihu ihv =>
    simp only [Phrase.leftHeight, List.length_append] at ihu ihv ⊢
    omega
  | noDisjunct => simp [Phrase.leftHeight]
  | disjunct _ _ _ ihu ihv =>
    simp only [Phrase.leftHeight, Condition.height, List.cons_append, List.length_cons,
      List.length_append] at ihu ihv ⊢
    omega
  | conjunction _ _ ihu ihv =>
    simp only [Phrase.leftHeight, List.length_append] at ihu ihv ⊢
    omega
  | noConjunct => simp [Phrase.leftHeight]
  | conjunct _ _ _ ihu ihv =>
    simp only [Phrase.leftHeight, Condition.height, List.cons_append, List.length_cons,
      List.length_append] at ihu ihv ⊢
    omega
  | negation _ _ ih =>
    simp only [Phrase.leftHeight, Condition.height, List.length_cons] at ih ⊢
    omega
  | unary _ ih => exact ih
  | test ha =>
    obtain ⟨s, rest, rfl, -⟩ := S.test_head ha
    simp only [Phrase.leftHeight, Condition.height, List.length_cons]
    omega
  | parentheses _ _ _ ih =>
    simp only [Phrase.leftHeight, List.cons_append, List.length_cons, List.length_append] at ih ⊢
    omega

theorem Derives.ne_nil {u : List σ} {t : Condition α} (h : Derives S .disjunction u t) :
    u ≠ [] := by
  rintro rfl
  have hh := h.height_le
  cases t <;> simp [Phrase.leftHeight, Condition.height] at hh

end FilterSql.Grammar
