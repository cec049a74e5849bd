import FilterSql.Proofs.Parser.Soundness
import FilterSql.Proofs.Token.Segmentation

namespace FilterSql

namespace Text

/-- A byte of the text at which a character begins, or its end. -/
def Meets (text : String) (position : Nat) : Prop :=
  position ≤ text.utf8ByteSize ∧ String.Pos.Raw.IsValid text ⟨position⟩

theorem meets_iff {cs : List Char} {position : Nat} :
    Meets (String.ofList cs) position ↔
      ∃ before after, cs = before ++ after ∧ position = width before := by
  constructor
  · rintro ⟨-, hvalid⟩
    obtain ⟨before, after, htext, hp⟩ := String.Pos.Raw.isValid_iff_exists_append.1 hvalid
    refine ⟨before.toList, after.toList, ?_, ?_⟩
    · rw [← String.toList_append, ← htext, String.toList_ofList]
    · rw [← utf8ByteSize_ofList, String.ofList_toList]
      exact congrArg String.Pos.Raw.byteIdx hp
  · rintro ⟨before, after, rfl, rfl⟩
    have hvalid : String.Pos.Raw.IsValid (String.ofList (before ++ after)) ⟨width before⟩ := by
      refine String.Pos.Raw.isValid_iff_exists_append.2
        ⟨String.ofList before, String.ofList after, String.ofList_append, ?_⟩
      rw [← utf8ByteSize_ofList]
      rfl
    exact ⟨hvalid.le_rawEndPos, hvalid⟩

theorem meets_zero (cs : List Char) : Meets (String.ofList cs) 0 :=
  meets_iff.2 ⟨[], cs, rfl, rfl⟩

theorem meets_utf8ByteSize (text : String) : Meets text text.utf8ByteSize := by
  rw [← String.ofList_toList (s := text), utf8ByteSize_ofList]
  exact meets_iff.2 ⟨text.toList, [], (List.append_nil _).symm, rfl⟩

theorem Meets.append {cs : List Char} {position : Nat} (h : Meets (String.ofList cs) position)
    (before : List Char) : Meets (String.ofList (before ++ cs)) (width before + position) := by
  obtain ⟨u, v, rfl, rfl⟩ := meets_iff.1 h
  exact meets_iff.2 ⟨before ++ u, v, (List.append_assoc ..).symm, (width_append ..).symm⟩

theorem Meets.cons {cs : List Char} {position : Nat} (h : Meets (String.ofList cs) position)
    (c : Char) : Meets (String.ofList (c :: cs)) (position + c.utf8Size) := by
  have hc := h.append [c]
  rwa [List.singleton_append, width_cons, width_nil, Nat.add_zero, Nat.add_comm] at hc

end Text

namespace QueryError

inductive InText : QueryError → Nat → Prop
  | lex (position : Nat) (fault : LexFault) : InText (.lex position fault) position
  | syntaxError (position : Nat) (expected : List Expectation) (found : TokenKind) :
      InText (.syntaxError position expected found) position
  | unexpectedEnd (position : Nat) : InText (.unexpectedEnd position) position
  | nestingTooDeep (position limit : Nat) : InText (.nestingTooDeep position limit) position

theorem inText_iff {error : QueryError} {position : Nat} :
    error.InText position ↔ error.position? = some position := by
  constructor
  · intro h
    cases h <;> rfl
  · intro h
    cases error with
    | lex | syntaxError | unexpectedEnd | nestingTooDeep =>
      cases h
      constructor
    | _ => cases h

theorem InText.unique {error : QueryError} {m n : Nat} (hm : error.InText m)
    (hn : error.InText n) : m = n := by
  cases hm <;> cases hn <;> rfl

theorem InText.isInternal_eq_false {error : QueryError} {position : Nat}
    (h : error.InText position) : error.isInternal = false := by
  cases h <;> rfl

def LiesAt (P : Nat → Prop) (error : QueryError) : Prop :=
  ∃ position, error.InText position ∧ P position

end QueryError

namespace Lexer

theorem meets_invalidEscape {cs : List Char} {offset : Nat} {d : Char}
    (h : stringBody cs = .error (.invalidEscape offset d)) :
    Text.Meets (String.ofList cs) offset := by
  fun_induction stringBody cs generalizing offset with
  | case1 => cases h
  | case2 => cases h
  | case3 => cases h
  | case4 => cases h
  | case5 c rest hc fault hf ih =>
    cases fault with
    | unterminated => cases h
    | invalidEscape n e =>
      cases h
      have hsize : c.utf8Size = 1 := by rcases hc with rfl | rfl <;> rfl
      have hb := ((ih hf).cons c).cons '\\'
      rwa [hsize] at hb
  | case6 => cases h; exact Text.meets_zero _
  | case7 => cases h
  | case8 c rest _ _ _ fault hf ih =>
    cases fault with
    | unterminated => cases h
    | invalidEscape n e =>
      cases h
      exact (ih hf).cons c

theorem meets_cut {c : Char} {rest : List Char} {fault : Fault}
    (h : cut c rest = .error fault) : Text.Meets (String.ofList (c :: rest)) fault.offset := by
  unfold cut at h
  split at h
  case h_9 => cases h; exact Text.meets_zero _
  case h_10 =>
    split at h
    · cases h
    · cases h; exact Text.meets_zero _
    · next hs =>
      cases h
      exact (meets_invalidEscape hs).cons '"'
  case h_11 =>
    split at h
    · dsimp only at h
      split at h
      · cases h
      · cases h; exact Text.meets_zero _
    · split at h
      · cases h
      · cases h; exact Text.meets_zero _
  all_goals cases h

theorem liesAt_scanFrom {position : Nat} {cs : List Char} {error : QueryError}
    (h : (scanFrom position cs).fault = some error) (before : List Char)
    (hp : position = Text.width before) :
    error.LiesAt (Text.Meets (String.ofList (before ++ cs))) := by
  fun_induction scanFrom position cs generalizing before with
  | case1 => cases h
  | case2 position cs start c rest hd fault hk =>
    cases h
    refine ⟨_, .lex .., ?_⟩
    have hb := (meets_cut hk).append (before ++ cs.takeWhile Text.isBlank)
    rw [List.append_assoc, ← hd, List.takeWhile_append_dropWhile, Text.width_append, ← hp] at hb
    exact hb
  | case3 position cs start c rest hd k hk stop following ih =>
    have hs := ih h (before ++ cs.takeWhile Text.isBlank ++ k.taken) (by
      simp only [stop, start, hp, Text.width_append])
    rwa [List.append_assoc, cut_append hk, ← hd, List.append_assoc,
      List.takeWhile_append_dropWhile] at hs

theorem meets_start {text : String} {tokens : List Token} (h : tokenize text = .ok tokens) :
    ∀ token ∈ tokens, Text.Meets text token.span.start := by
  obtain ⟨hf, rfl⟩ := tokenize_eq_ok_iff.1 h
  intro token ht
  rcases List.mem_append.1 ht with ht | ht
  · obtain ⟨before, slice, after, htext, hs, -⟩ := (segmentation_scan hf).stands token ht
    rw [← String.ofList_toList (s := text)]
    exact Text.meets_iff.2 ⟨before, slice ++ after, by rw [htext, List.append_assoc], by rw [hs]⟩
  · obtain rfl := List.mem_singleton.1 ht
    exact Text.meets_utf8ByteSize text

end Lexer

theorem liesAt_tokenize {text : String} {error : QueryError} (h : tokenize text = .error error) :
    error.LiesAt (Text.Meets text) := by
  simp only [tokenize] at h
  split at h
  · next hf =>
    cases h
    simpa using Lexer.liesAt_scanFrom hf [] rfl
  · cases h

namespace Parser

def Frame.position? : Frame → Option Nat
  | .not position => some position
  | .and _ position => some position
  | .or _ position => some position
  | .paren => none

/-- The operators that wait stand at positions that have the property. -/
def Placed (P : Nat → Prop) (stack : List Frame) : Prop :=
  ∀ frame ∈ stack, ∀ position ∈ frame.position?, P position

def Step.Placed (P : Nat → Prop) : Step → Prop
  | .shift s => Parser.Placed P s.stack
  | .accept _ _ => True
  | .refuse failure => failure.error.LiesAt P
  | .overflow failure => failure.error.LiesAt P

section Positions

variable {limits : Limits} {P : Nat → Prop}

theorem placed_cons {frame : Frame} {stack : List Frame} :
    Placed P (frame :: stack) ↔ (∀ position ∈ frame.position?, P position) ∧ Placed P stack :=
  List.forall_mem_cons

theorem liesAt_unexpected {token : Token} (expected : List Expectation) (h : P token.span.start) :
    (unexpected token expected).LiesAt P := by
  unfold unexpected
  split
  · exact ⟨_, .unexpectedEnd _, h⟩
  · exact ⟨_, .syntaxError .., h⟩

theorem liesAt_grow {depth position : Nat} {tree : Filter} {height : Nat} {failure : Failure}
    (hp : P position) (h : grow limits depth position tree height = .error failure) :
    failure.error.LiesAt P := by
  unfold grow at h
  split at h
  · cases h; exact ⟨position, .nestingTooDeep .., hp⟩
  · cases h

theorem Placed.suffix {stack rest : List Frame} (h : Placed P stack) (hs : rest <:+ stack) :
    Placed P rest :=
  fun frame hf => h frame (hs.mem hf)

theorem liesAt_close {beforeAnd : Bool} {depth : Nat} {stack : List Frame} {x : Subtree}
    {failure : Failure} (hs : Placed P stack)
    (h : close limits beforeAnd depth stack x = .error failure) : failure.error.LiesAt P := by
  fun_induction close limits beforeAnd depth stack x with
  | case1 _ _ _ _ _ hg => cases h; exact liesAt_grow ((placed_cons.1 hs).1 _ rfl) hg
  | case2 _ _ _ _ _ _ ih => exact ih (placed_cons.1 hs).2 h
  | case3 _ _ _ _ _ _ hg => cases h; exact liesAt_grow ((placed_cons.1 hs).1 _ rfl) hg
  | case4 _ _ _ _ _ _ _ ih => exact ih (placed_cons.1 hs).2 h
  | case5 => cases h
  | case6 _ _ _ _ _ _ _ hg => cases h; exact liesAt_grow ((placed_cons.1 hs).1 _ rfl) hg
  | case7 _ _ _ _ _ _ _ _ ih => exact ih (placed_cons.1 hs).2 h
  | case8 => cases h

theorem placed_enter {s : State} {token : Token} {frame : Frame} (hs : Placed P s.stack)
    (ht : P token.span.start) (hf : ∀ position ∈ frame.position?, P position) :
    (enter limits s token frame).Placed P := by
  unfold enter
  split
  · exact ⟨_, .nestingTooDeep .., ht⟩
  · exact placed_cons.2 ⟨hf, hs⟩

theorem placed_operator {s : State} {x : Subtree} {beforeAnd : Bool} {frame : Subtree → Frame}
    (hs : Placed P s.stack) (hf : ∀ left, ∀ position ∈ (frame left).position?, P position) :
    (operator limits s x beforeAnd frame).Placed P := by
  unfold operator
  split
  · next he => exact liesAt_close hs he
  · next he => exact placed_cons.2 ⟨hf _, hs.suffix (close_suffix he)⟩

theorem placed_finishOperand {s : State} {x : Subtree} {token : Token} (hs : Placed P s.stack)
    (ht : P token.span.start) : (finishOperand limits s x token).Placed P := by
  unfold finishOperand
  split
  · next he => exact liesAt_close hs he
  · next he =>
    have hp := hs.suffix (close_suffix he)
    split
    · next hstack _ => exact (placed_cons.1 (hstack ▸ hp)).2
    · exact liesAt_unexpected _ ht
    · trivial
    · exact ⟨_, .syntaxError .., ht⟩

theorem placed_step (limits : Limits) {s : State} {token : Token} (hs : Placed P s.stack)
    (ht : P token.span.start) : (step limits s token).Placed P := by
  unfold step
  split
  · split
    · exact placed_enter hs ht (by simpa [Frame.position?] using ht)
    · exact placed_enter hs ht (by simp [Frame.position?])
    · exact hs
    · exact liesAt_unexpected _ ht
  · split
    · exact hs
    · exact liesAt_unexpected _ ht
  · split
    · exact hs
    · split
      · exact hs
      · exact ⟨_, .lex .., ht⟩
    · exact liesAt_unexpected _ ht
  · split
    · exact placed_operator hs fun _ => by simpa [Frame.position?] using ht
    · exact placed_operator hs fun _ => by simpa [Frame.position?] using ht
    · exact placed_finishOperand hs ht

theorem liesAt_atEnd {finish : Nat} {s : State} {failure : Failure} (hs : Placed P s.stack)
    (hf : P finish) (h : atEnd limits finish s = .error failure) : failure.error.LiesAt P := by
  unfold atEnd at h
  split at h
  · split at h
    · next he =>
      cases h
      exact liesAt_close hs he
    · split at h
      · cases h; exact ⟨finish, .unexpectedEnd _, hf⟩
      · cases h
  · cases h; exact ⟨finish, .unexpectedEnd _, hf⟩

theorem liesAt_run {finish : Nat} {s : State} {tokens : List Token} {error : QueryError}
    (hs : Placed P s.stack) (ht : ∀ token ∈ tokens, P token.span.start) (hf : P finish)
    (h : (run limits finish s tokens).answer = .error error) : error.LiesAt P := by
  induction tokens generalizing s with
  | nil =>
    simp only [run] at h
    split at h
    · cases h
    · next he =>
      cases h
      exact liesAt_atEnd hs hf he
  | cons token rest ih =>
    obtain ⟨htoken, hrest⟩ := List.forall_mem_cons.1 ht
    have hstep := placed_step limits hs htoken
    simp only [run] at h
    split at h
    · next he => exact ih (by rwa [he] at hstep) hrest h
    · cases h
    · next he =>
      cases h
      rwa [he] at hstep
    · next he =>
      cases h
      rwa [he] at hstep

theorem liesAt_parse {p : Parser} {error : QueryError}
    (ht : ∀ token ∈ p.rest, P token.span.start) (hf : P p.finish)
    (h : (p.parse limits).answer = .error error) : error.LiesAt P := by
  unfold parse at h
  split at h
  · cases h
  · cases h
  · exact liesAt_run (by simp [Placed]) ht hf h

end Positions

end Parser

theorem liesAt_parseFilter {limits : Limits} {text : String} {error : QueryError}
    (h : parseFilter limits text = .error error) :
    error.LiesAt (Text.Meets text) := by
  unfold parseFilter at h
  cases ht : tokenize text with
  | error e =>
    rw [ht] at h
    cases h
    exact liesAt_tokenize ht
  | ok tokens =>
    rw [ht] at h
    refine Parser.liesAt_parse (Lexer.meets_start ht) ?_ h
    obtain ⟨hf, rfl⟩ := Lexer.tokenize_eq_ok_iff.1 ht
    simpa [Parser.ofTokens] using Text.meets_utf8ByteSize text

end FilterSql
