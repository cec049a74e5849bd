import FilterSql.Proofs.Parser.Completeness
import FilterSql.Proofs.Token.Segmentation

/-!
The limits of the parser: they refuse what is deeper than they allow and change nothing else. A
parser that is held to limits goes through the states of one that is not, until it meets an operator
or a parenthesis that is too deep.
-/

namespace FilterSql.Parser

open Grammar

/-- What a limit can refuse in a text: a place that nests too deep, by the token that opens it, and
a condition that is too high, by one of its operators. -/
inductive Exceeds (limits : Limits) (tokens : List Token) : QueryError → Prop
  | depth {before after : List Token} {token : Token} :
      tokens = before ++ token :: after → token.kind = .not ∨ token.kind = .lparen →
      limits.depth < (openAfter [] (before ++ [token])).length →
      Exceeds limits tokens (.nestingTooDeep token.span.start limits.depth)
  | height {before u v after : List Token} {token : Token} {t : Filter} :
      tokens = before ++ (u ++ token :: v) ++ after →
      token.kind = .not ∨ token.kind = .and ∨ token.kind = .or →
      Derives filterScript .disjunction (u ++ token :: v) t → limits.height < t.height →
      Exceeds limits tokens (.nestingTooDeep token.span.start limits.height)

theorem Exceeds.append {limits : Limits} {tokens : List Token} {error : QueryError}
    (h : Exceeds limits tokens error) (rest : List Token) :
    Exceeds limits (tokens ++ rest) error := by
  cases h with
  | @depth before after token e hk hd =>
    exact .depth (by rw [e, List.append_assoc, List.cons_append]) hk hd
  | @height before u v after token t e hk ht hh =>
    exact .height (by rw [e, List.append_assoc _ after]) hk ht hh

theorem grow_of_lt {limits : Limits} {depth position : Nat} {tree : Filter} {height : Nat}
    (h : limits.height < height) :
    grow limits depth position tree height =
      .error ⟨.nestingTooDeep position limits.height, depth⟩ :=
  if_pos h

theorem Written.height_cases {limits free : Limits} {p : Phrase FieldTest} {u w : List Token}
    {token : Token} {x : Subtree} (h : Written p (u ++ token :: w) x) (hp : Operand false p)
    (hk : token.kind = .not ∨ token.kind = .and ∨ token.kind = .or) (before : List Token)
    (hlen : (before ++ (u ++ token :: w)).length ≤ free.height) :
    (x.height ≤ limits.height ∧ x.height ≤ free.height) ∨
      limits.height < x.height ∧ Exceeds limits (before ++ (u ++ token :: w))
        (.nestingTooDeep token.span.start limits.height) := by
  have hd : Derives filterScript .disjunction (u ++ token :: w) x.tree :=
    (hp.written_closed h).derives
  rcases Nat.lt_or_ge limits.height x.height with hlt | hle
  · exact .inr ⟨hlt, .height (List.append_nil _).symm hk hd (h.height_eq ▸ hlt)⟩
  · have hfree := hd.height_le
    simp only [Phrase.leftHeight] at hfree
    rw [List.length_append] at hlen
    exact .inl ⟨hle, by rw [h.height_eq]; omega⟩

theorem close_limits {limits free : Limits} {beforeAnd : Bool} {depth : Nat} {stack : List Frame}
    {x : Subtree} {p : Phrase FieldTest} {u w : List Token} (hs : Spelled stack u)
    (hx : Written p w x) (hp : Operand beforeAnd p) (hf : Fits p stack)
    (hlen : (u ++ w).length ≤ free.height) :
    close limits beforeAnd depth stack x = close free beforeAnd depth stack x ∨
      ∃ failure, close limits beforeAnd depth stack x = .error failure ∧
        Exceeds limits (u ++ w) failure.error := by
  -- no tree is higher than its tokens are many, so `free` refuses none of those built on the way
  induction hs generalizing depth x p w with
  | nil => exact .inl rfl
  | @not stack u token hs ht ih =>
    cases hp with
    | unary =>
      have hy := hx.not ht
      have e : u ++ [token] ++ w = u ++ token :: w := by simp
      rw [e] at hlen ⊢
      rcases hy.height_cases (u := []) .unary (.inl ht) u hlen with ⟨hle, hfree⟩ | ⟨hlt, hex⟩
      · rw [close_not beforeAnd hle, close_not beforeAnd hfree]
        exact ih hy .unary trivial hlen
      · exact .inr ⟨⟨_, depth - 1⟩, by simp only [close, grow_of_lt hlt], hex⟩
    | conjunction => cases hf
    | disjunction => cases hf
  | @and stack u v token left hs hfs hl ht ih =>
    cases hp with
    | unary =>
      have hy := hl.and ht hx
      have e : u ++ (v ++ [token]) ++ w = u ++ (v ++ token :: w) := by simp
      rw [e] at hlen ⊢
      rcases hy.height_cases .conjunction (.inr (.inl ht)) u hlen with ⟨hle, hfree⟩ | ⟨hlt, hex⟩
      · rw [close_and beforeAnd hle, close_and beforeAnd hfree]
        exact ih hy .conjunction hfs hlen
      · exact .inr ⟨⟨_, depth⟩, by simp only [close, grow_of_lt hlt], hex⟩
    | conjunction => cases hf
    | disjunction => cases hf
  | @or stack u v token left hs hfs hl ht ih =>
    have hx' : Written .conjunction w x := by
      cases hp with
      | unary => exact ⟨hx.derives.toConjunction, hx.height_eq⟩
      | conjunction => exact hx
      | disjunction => cases hf
    cases beforeAnd with
    | true => exact .inl rfl
    | false =>
      have hy := hl.or ht hx'
      have e : u ++ (v ++ [token]) ++ w = u ++ (v ++ token :: w) := by simp
      rw [e] at hlen ⊢
      rcases hy.height_cases (.disjunction rfl) (.inr (.inr ht)) u hlen with
        ⟨hle, hfree⟩ | ⟨hlt, hex⟩
      · rw [close_or hle, close_or hfree]
        exact ih hy (.disjunction rfl) hfs hlen
      · exact .inr ⟨⟨_, depth⟩, by simp only [close, grow_of_lt hlt]; rfl, hex⟩
  | paren => exact .inl rfl

def Frame.opening? : Frame → Option Opening
  | .not _ => some .not
  | .paren => some .paren
  | .and _ _ => none
  | .or _ _ => none

def openings (stack : List Frame) : List Opening := stack.filterMap Frame.opening?

theorem settle_openings {stack : List Frame} {u : List Token} (h : Spelled stack u)
    (hl : Loose stack) : settle (openings stack) = openings stack := by
  cases h with
  | nil => rfl
  | not => cases hl
  | and => cases hl
  | @or stack _ _ _ _ _ hb =>
    cases stack with
    | nil => rfl
    | cons frame _ =>
      cases frame with
      | paren => rfl
      | _ => cases hb
  | paren => rfl

theorem Spelled.openAfter_eq {stack : List Frame} {u : List Token} (h : Spelled stack u) :
    openAfter [] u = openings stack := by
  induction h with
  | nil => rfl
  | not _ hk ih => rw [openAfter_append, ih, openAfter, hk]; rfl
  | and hs hl hw hk ih =>
    have hsettled := settle_openings hs hl
    rw [openAfter_append, ih, openAfter_append, openAfter_derives hw.derives _ hsettled, hsettled,
      openAfter, hk]
    rfl
  | or hs hb hw hk ih =>
    have hsettled := settle_openings hs hb.loose
    rw [openAfter_append, ih, openAfter_append, openAfter_derives hw.derives _ hsettled, hsettled,
      openAfter, hk]
    rfl
  | paren _ hk ih => rw [openAfter_append, ih, openAfter, hk]; rfl

/-- A state that was reached within the limits: the depth on record is what the frames hold open,
and neither the text so far nor the operand at hand is too deep. -/
structure State.Keeps (limits : Limits) (s : State) (u : List Token) : Prop where
  depth_eq : s.depth = (openings s.stack).length
  nesting_le : nesting u ≤ limits.depth
  height_le : ∀ x, s.phase = .complete x → x.height ≤ limits.height

theorem keeps_start (limits : Limits) : State.Keeps limits ⟨0, [], .operand⟩ [] where
  depth_eq := rfl
  nesting_le := Nat.zero_le _
  height_le _ h := by cases h

theorem grow_ok_le {limits : Limits} {depth position : Nat} {tree : Filter} {height : Nat}
    {x : Subtree} (h : grow limits depth position tree height = .ok x) :
    x.height ≤ limits.height := by
  obtain rfl := grow_ok h
  unfold grow at h
  split at h
  · cases h
  · next hle => exact Nat.not_lt.1 hle

theorem close_keeps {limits : Limits} {beforeAnd : Bool} {depth : Nat} {stack : List Frame}
    {x : Subtree} {c : Pending} (h : close limits beforeAnd depth stack x = .ok c)
    (hd : depth = (openings stack).length) (hx : x.height ≤ limits.height) :
    c.depth = (openings c.stack).length ∧ c.operand.height ≤ limits.height := by
  fun_induction close limits beforeAnd depth stack x with
  | case1 => cases h
  | case2 _ _ _ _ _ hg ih => exact ih h (congrArg (· - 1) hd) (grow_ok_le hg)
  | case3 => cases h
  | case4 _ _ _ _ _ _ hg ih => exact ih h hd (grow_ok_le hg)
  | case5 => cases h; exact ⟨hd, hx⟩
  | case6 => cases h
  | case7 _ _ _ _ _ _ _ hg ih => exact ih h hd (grow_ok_le hg)
  | case8 => cases h; exact ⟨hd, hx⟩

theorem nesting_snoc_le {u : List Token} {token : Token} {n : Nat} (h : nesting u ≤ n)
    (ht : (openBehind (openAfter [] u) token.kind).length ≤ n) : nesting (u ++ [token]) ≤ n := by
  have hu := length_openAfter_le [] u
  simp only [nesting, nestingFrom_append, nestingFrom] at h hu ⊢
  omega

theorem nesting_snoc_of_ne {u : List Token} {token : Token} {n : Nat} (h : nesting u ≤ n)
    (hn : token.kind ≠ .not) (hl : token.kind ≠ .lparen) : nesting (u ++ [token]) ≤ n := by
  have hu := length_openAfter_le [] u
  have hs := length_settle_le (openAfter [] u)
  have ht := length_settle_le (openAfter [] u).tail
  rw [List.length_tail] at ht
  apply nesting_snoc_le h
  unfold nesting at h
  cases hk : token.kind <;> simp only [openBehind] <;> first | omega | contradiction

theorem keeps_enter {limits : Limits} {s s' : State} {u : List Token} {token : Token}
    {frame : Frame} {o : Opening} (hr : s.Reads u) (hk : s.Keeps limits u)
    (hp : s.phase = .operand) (ho : frame.opening? = some o)
    (ht : ∀ openings, openBehind openings token.kind = o :: openings)
    (hs : enter limits s token frame = .shift s') : s'.Keeps limits (u ++ [token]) := by
  obtain ⟨v, w, rfl, hv, hw⟩ := hr
  rw [hp] at hw
  obtain rfl := hw
  unfold enter at hs
  split at hs
  · cases hs
  · next hle =>
    cases hs
    refine ⟨?_, ?_, fun x h => by cases h⟩
    · simp [openings, ho, hk.depth_eq]
    · apply nesting_snoc_le hk.nesting_le
      rw [List.append_nil, hv.openAfter_eq, ht, List.length_cons, ← hk.depth_eq]
      omega

theorem keeps_operator {limits : Limits} {s s' : State} {u : List Token} {token : Token}
    {x : Subtree} {beforeAnd : Bool} {frame : Subtree → Frame} (hk : s.Keeps limits u)
    (hp : s.phase = .complete x) (hf : ∀ left, (frame left).opening? = none)
    (hn : token.kind ≠ .not) (hl : token.kind ≠ .lparen)
    (hs : operator limits s x beforeAnd frame = .shift s') : s'.Keeps limits (u ++ [token]) := by
  unfold operator at hs
  split at hs
  · cases hs
  · next c hc =>
    cases hs
    obtain ⟨hd, -⟩ := close_keeps hc hk.depth_eq (hk.height_le x hp)
    refine ⟨?_, nesting_snoc_of_ne hk.nesting_le hn hl, fun y h => by cases h⟩
    simpa [openings, hf] using hd

theorem keeps_finishOperand {limits : Limits} {s s' : State} {u : List Token} {token : Token}
    {x : Subtree} (hk : s.Keeps limits u) (hp : s.phase = .complete x)
    (hs : finishOperand limits s x token = .shift s') : s'.Keeps limits (u ++ [token]) := by
  unfold finishOperand at hs
  split at hs
  · cases hs
  · next c hc =>
    obtain ⟨hd, hh⟩ := close_keeps hc hk.depth_eq (hk.height_le x hp)
    split at hs
    · next stack hstack ht =>
      cases hs
      rw [hstack] at hd
      refine ⟨congrArg (· - 1) hd, nesting_snoc_of_ne hk.nesting_le ?_ ?_, fun y h => ?_⟩
      · simp [ht]
      · simp [ht]
      · cases h; exact hh
    · cases hs
    · cases hs
    · cases hs

theorem keeps_shift {limits : Limits} {s s' : State} {u : List Token} {token : Token}
    (h1 : 1 ≤ limits.height) (hr : s.Reads u) (hk : s.Keeps limits u)
    (hs : step limits s token = .shift s') : s'.Keeps limits (u ++ [token]) := by
  have hsnoc (hn : token.kind ≠ .not) (hl : token.kind ≠ .lparen) :
      nesting (u ++ [token]) ≤ limits.depth :=
    nesting_snoc_of_ne hk.nesting_le hn hl
  unfold step at hs
  split at hs
  · next hp =>
    split at hs
    · next ht => exact keeps_enter hr hk hp rfl (fun _ => by rw [ht]; rfl) hs
    · next ht => exact keeps_enter hr hk hp rfl (fun _ => by rw [ht]; rfl) hs
    · next ht => cases hs; exact ⟨hk.depth_eq, hsnoc (by simp [ht]) (by simp [ht]), nofun⟩
    · cases hs
  · split at hs
    · next ht => cases hs; exact ⟨hk.depth_eq, hsnoc (by simp [ht]) (by simp [ht]), nofun⟩
    · cases hs
  · split at hs
    · next ht =>
      cases hs
      exact ⟨hk.depth_eq, hsnoc (by simp [ht]) (by simp [ht]), fun x h => by cases h; exact h1⟩
    · next ht =>
      split at hs
      · cases hs
        exact ⟨hk.depth_eq, hsnoc (by simp [ht]) (by simp [ht]), fun x h => by cases h; exact h1⟩
      · cases hs
    · cases hs
  · next x hp =>
    split at hs
    · next ht => exact keeps_operator hk hp (fun _ => rfl) (by simp [ht]) (by simp [ht]) hs
    · next ht => exact keeps_operator hk hp (fun _ => rfl) (by simp [ht]) (by simp [ht]) hs
    · exact keeps_finishOperand hk hp hs

theorem height_le_of_closed {limits : Limits} {s : State} {u : List Token} {x : Subtree}
    {c : Pending} (hr : s.Reads u) (hk : s.Keeps limits u) (hp : s.phase = .complete x)
    (hc : close limits false s.depth s.stack x = .ok c) :
    c.operand.tree.height ≤ limits.height := by
  obtain ⟨v, w, rfl, hv, hw⟩ := hr
  rw [hp] at hw
  obtain ⟨_, _, -, -, hwritten, -⟩ := close_spelled hv hw .unary trivial hc
  obtain ⟨-, hh⟩ := close_keeps hc hk.depth_eq (hk.height_le x hp)
  exact hwritten.height_eq ▸ hh

theorem run_keeps {limits : Limits} {finish : Nat} {s : State} {u v closing : List Token}
    {t : Filter} (h1 : 1 ≤ limits.height) (hr : s.Reads u) (hk : s.Keeps limits u)
    (hv : ∀ token ∈ v, token.kind ≠ .eof) (hc : ∀ token ∈ closing, token.kind = .eof)
    (h : (run limits finish s (v ++ closing)).answer = .ok (some t)) :
    nesting (u ++ v) ≤ limits.depth ∧ t.height ≤ limits.height := by
  induction v generalizing s u with
  | nil =>
    rw [List.append_nil]
    refine ⟨hk.nesting_le, ?_⟩
    cases closing with
    | nil =>
      simp only [List.nil_append, run] at h
      split at h
      · next he =>
        cases h
        obtain ⟨x, c, hp, hclose, -, rfl⟩ := atEnd_closed he
        exact height_le_of_closed hr hk hp hclose
      · cases h
    | cons token rest =>
      simp only [List.nil_append, run] at h
      split at h
      · next he => exact absurd he (step_eof_ne_shift (hc token (by simp)))
      · next he =>
        cases h
        obtain ⟨-, x, c, hp, hclose, -, rfl⟩ := accept_closed he
        exact height_le_of_closed hr hk hp hclose
      · cases h
      · cases h
  | cons token v ih =>
    simp only [List.cons_append, run] at h
    split at h
    · next he =>
      simpa using ih (reads_shift hr he) (keeps_shift h1 hr hk he)
        (fun token ht => hv token (by simp [ht])) h
    · next he => exact absurd (accept_closed he).1 (hv token (by simp))
    · cases h
    · cases h

/-- Two limits of which a text of this length cannot reach either. -/
structure Ample (free : Limits) (length : Nat) : Prop where
  depth : length ≤ free.depth
  height : length ≤ free.height

theorem enter_limits {limits free : Limits} {s : State} {u : List Token} {token : Token}
    {frame : Frame} (hr : s.Reads u) (hk : s.Keeps limits u) (hp : s.phase = .operand)
    (ht : token.kind = .not ∨ token.kind = .lparen) (hf : Ample free (u ++ [token]).length) :
    enter limits s token frame = enter free s token frame ∨
      ∃ failure, enter limits s token frame = .overflow failure ∧
        Exceeds limits (u ++ [token]) failure.error := by
  obtain ⟨v, w, rfl, hv, hw⟩ := hr
  rw [hp] at hw
  obtain rfl := hw
  rw [List.append_nil] at hf ⊢
  have hopen : (openAfter [] v).length = s.depth := by rw [hv.openAfter_eq, hk.depth_eq]
  have hlength : s.depth ≤ v.length := by
    have hn := Nat.le_trans (length_openAfter_le [] v) (nesting_le_length v)
    omega
  have hfree := hf.depth
  rw [List.length_append, List.length_singleton] at hfree
  rcases Nat.lt_or_ge limits.depth (s.depth + 1) with hlt | hle
  · refine .inr ⟨⟨_, s.depth + 1⟩, if_pos hlt, .depth rfl ht ?_⟩
    rw [openAfter_append]
    rcases ht with ht | ht <;> simp [openAfter, openBehind, ht, hopen, hlt]
  · exact .inl ((if_neg (Nat.not_lt.2 hle)).trans (if_neg (by omega)).symm)

/-- A step under limits is the step without them, unless they are exceeded. -/
theorem step_limits {limits free : Limits} {s : State} {u : List Token} {token : Token}
    (hr : s.Reads u) (hk : s.Keeps limits u) (hf : Ample free (u ++ [token]).length) :
    step limits s token = step free s token ∨
      ∃ failure, (step limits s token = .refuse failure ∨ step limits s token = .overflow failure) ∧
        Exceeds limits (u ++ [token]) failure.error := by
  unfold step
  split
  · next hp =>
    split
    · next ht =>
      rcases enter_limits hr hk hp (.inl ht) hf with he | ⟨failure, he, hex⟩
      · exact .inl he
      · exact .inr ⟨failure, .inr he, hex⟩
    · next ht =>
      rcases enter_limits hr hk hp (.inr ht) hf with he | ⟨failure, he, hex⟩
      · exact .inl he
      · exact .inr ⟨failure, .inr he, hex⟩
    · exact .inl rfl
    · exact .inl rfl
  · exact .inl rfl
  · exact .inl rfl
  · next x hp =>
    obtain ⟨v, w, rfl, hv, hw⟩ := hr
    rw [hp] at hw
    have hlen : (v ++ w).length ≤ free.height := Nat.le_trans (by simp) hf.height
    have hclose (b : Bool) : close limits b s.depth s.stack x = close free b s.depth s.stack x ∨
        ∃ failure, close limits b s.depth s.stack x = .error failure ∧
          Exceeds limits (v ++ w) failure.error :=
      close_limits hv hw .unary trivial hlen
    split
    · rcases hclose true with he | ⟨failure, he, hex⟩
      · exact .inl (by simp only [operator, he])
      · exact .inr ⟨failure, .inl (by simp only [operator, he]), hex.append [token]⟩
    · rcases hclose false with he | ⟨failure, he, hex⟩
      · exact .inl (by simp only [operator, he])
      · exact .inr ⟨failure, .inl (by simp only [operator, he]), hex.append [token]⟩
    · rcases hclose false with he | ⟨failure, he, hex⟩
      · exact .inl (by simp only [finishOperand, he])
      · exact .inr ⟨failure, .inl (by simp only [finishOperand, he]), hex.append [token]⟩

theorem atEnd_limits {limits free : Limits} {finish : Nat} {s : State} {u : List Token}
    (hr : s.Reads u) (hf : Ample free u.length) :
    atEnd limits finish s = atEnd free finish s ∨
      ∃ failure, atEnd limits finish s = .error failure ∧ Exceeds limits u failure.error := by
  unfold atEnd
  split
  · next x hp =>
    obtain ⟨v, w, rfl, hv, hw⟩ := hr
    rw [hp] at hw
    rcases close_limits hv hw .unary trivial hf.height with he | ⟨failure, he, hex⟩
    · exact .inl (by rw [he])
    · exact .inr ⟨failure, by rw [he], hex⟩
  · exact .inl rfl

/-- A run under limits ends as the run without them, unless they are exceeded. -/
theorem run_limits {limits free : Limits} {finish : Nat} {s : State} {u v : List Token}
    (h1 : 1 ≤ limits.height) (hr : s.Reads u) (hk : s.Keeps limits u)
    (hf : Ample free (u ++ v).length) :
    (run limits finish s v).answer = (run free finish s v).answer ∨
      ∃ error, (run limits finish s v).answer = .error error ∧ Exceeds limits (u ++ v) error := by
  induction v generalizing s u with
  | nil =>
    rw [List.append_nil] at hf ⊢
    simp only [run]
    rcases atEnd_limits hr hf with he | ⟨failure, he, hex⟩
    · exact .inl (by rw [he])
    · exact .inr ⟨failure.error, by rw [he], hex⟩
  | cons token v ih =>
    have e : u ++ token :: v = u ++ [token] ++ v := by simp
    rw [e] at hf ⊢
    have hf' : Ample free (u ++ [token]).length :=
      ⟨Nat.le_trans (by simp) hf.depth, Nat.le_trans (by simp) hf.height⟩
    rcases step_limits hr hk hf' with he | ⟨failure, he | he, hex⟩
    · simp only [run, ← he]
      split
      · next hs => exact ih (reads_shift hr hs) (keeps_shift h1 hr hk hs) hf
      · exact .inl rfl
      · exact .inl rfl
      · exact .inl rfl
    · exact .inr ⟨failure.error, by simp only [run, he], hex.append v⟩
    · exact .inr ⟨failure.error, by simp only [run, he], hex.append v⟩

section Parse

variable {limits free : Limits} {words closing : List Token}
  (hw : ∀ token ∈ words, token.kind ≠ .eof) (hc : ∀ token ∈ closing, token.kind = .eof)
  (h1 : 1 ≤ limits.height)

include hw hc h1

theorem parse_limits (hf : Ample free (words ++ closing).length) :
    ((ofTokens (words ++ closing)).parse limits).answer =
        ((ofTokens (words ++ closing)).parse free).answer ∨
      ∃ error, ((ofTokens (words ++ closing)).parse limits).answer = .error error ∧
        Exceeds limits (words ++ closing) error := by
  cases words with
  | nil => exact .inl ((parse_closing hc).trans (parse_closing hc).symm)
  | cons token rest =>
    have ht := hw token (by simp)
    rw [List.cons_append] at hf ⊢
    rw [parse_cons ht, parse_cons ht]
    exact run_limits h1 (reads_start 0) (keeps_start limits) hf

theorem parse_eq_some_iff_keeps {t : Filter} :
    ((ofTokens (words ++ closing)).parse limits).answer = .ok (some t) ↔
      Derives filterScript .disjunction words t ∧ nesting words ≤ limits.depth ∧
        t.height ≤ limits.height := by
  refine ⟨fun h => ⟨derives_of_parse hw hc h, ?_⟩,
    fun ⟨h, hd, hh⟩ => parse_of_derives hw hc h hd hh⟩
  cases words with
  | nil =>
    rw [List.nil_append, parse_closing hc] at h
    cases h
  | cons token rest =>
    rw [List.cons_append, parse_cons (hw token (by simp)), ← List.cons_append] at h
    exact run_keeps h1 (reads_start 0) (keeps_start limits) hw hc h

end Parse

theorem nesting_snoc_eof (u : List Token) {token : Token} (h : token.kind = .eof) :
    nesting (u ++ [token]) = nesting u := by
  refine Nat.le_antisymm (nesting_snoc_of_ne (Nat.le_refl _) (by simp [h]) (by simp [h])) ?_
  simp only [nesting, nestingFrom_append]
  exact Nat.le_max_left _ _

/-- The limits are exact, and nothing but a limit that is exceeded changes an answer. -/
theorem parse_answer_limits (text : String) (tokens : List Token) (limits free : Limits)
    (h : tokenize text = .ok tokens) (h1 : 1 ≤ limits.height) (hf : Ample free tokens.length) :
    let answer (limits : Limits) := ((ofTokens tokens).parse limits).answer
    (answer limits = answer free ∨
      ∃ error, answer limits = .error error ∧ Exceeds limits tokens error) ∧
    (∀ t, answer free = .ok (some t) →
      (answer limits = answer free ↔
        nesting tokens ≤ limits.depth ∧ t.height ≤ limits.height)) ∧
    (∀ t, answer limits = .ok (some t) → t.height ≤ limits.height) ∧
    ∀ raised : Limits, limits.depth ≤ raised.depth → limits.height ≤ raised.height →
      ∀ found, answer limits = .ok found → answer raised = .ok found := by
  obtain ⟨words, last, rfl, hw, hlast⟩ := Lexer.exists_words_of_tokenize h
  have hc : ∀ token ∈ [last], token.kind = .eof := by simpa using hlast
  intro answer
  refine ⟨parse_limits hw hc h1 hf, fun t ht => ?_, fun t ht => ?_, fun raised hd hh found hx => ?_⟩
  · rw [nesting_snoc_eof words hlast, ht]
    refine (parse_eq_some_iff_keeps hw hc h1).trans ⟨And.right, fun hk => ⟨?_, hk⟩⟩
    exact derives_of_parse hw hc ht
  · exact ((parse_eq_some_iff_keeps hw hc h1).1 ht).2.2
  · cases found with
    | none => exact (parse_eq_none_iff hw hc).2 ((parse_eq_none_iff hw hc).1 hx)
    | some t =>
      obtain ⟨ht, hn, hle⟩ := (parse_eq_some_iff_keeps hw hc h1).1 hx
      exact parse_of_derives hw hc ht (Nat.le_trans hn hd) (Nat.le_trans hle hh)

theorem parse_answer_limits_not :
    let tokens : List Token :=
      [⟨.not, ⟨0, 3⟩⟩, ⟨.lparen, ⟨4, 5⟩⟩, ⟨.identifier "a", ⟨5, 6⟩⟩, ⟨.comparison .eq, ⟨6, 7⟩⟩,
        ⟨.number "1", ⟨7, 8⟩⟩, ⟨.or, ⟨9, 11⟩⟩, ⟨.identifier "b", ⟨12, 13⟩⟩,
        ⟨.comparison .eq, ⟨13, 14⟩⟩, ⟨.number "2", ⟨14, 15⟩⟩, ⟨.rparen, ⟨15, 16⟩⟩,
        ⟨.eof, ⟨16, 16⟩⟩]
    let answer (limits : Limits) := ((ofTokens tokens).parse limits).answer
    tokenize "NOT (a=1 OR b=2)" = .ok tokens ∧ Ample {} tokens.length ∧
      answer ⟨2, 3⟩ = answer {} ∧ answer ⟨1, 3⟩ ≠ answer {} ∧ answer ⟨2, 2⟩ ≠ answer {} := by
  intro tokens answer
  have h : tokenize "NOT (a=1 OR b=2)" = .ok tokens := by cbv
  have hf : Ample {} tokens.length := ⟨by decide, by decide⟩
  have ht : answer {} = .ok (some (.not (.or (.leaf ⟨"a", .eq, .int 1, ⟨5, 6⟩⟩)
    (.leaf ⟨"b", .eq, .int 2, ⟨12, 13⟩⟩)))) := rfl
  have hiff (limits : Limits) (h1 : 1 ≤ limits.height) :=
    (parse_answer_limits _ _ limits {} h h1 hf).2.1 _ ht
  exact ⟨h, hf, (hiff ⟨2, 3⟩ (by decide)).2 (by decide),
    fun he => absurd ((hiff ⟨1, 3⟩ (by decide)).1 he) (by decide),
    fun he => absurd ((hiff ⟨2, 2⟩ (by decide)).1 he) (by decide)⟩

end FilterSql.Parser
