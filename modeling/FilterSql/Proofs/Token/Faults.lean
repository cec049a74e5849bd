import FilterSql.Proofs.Numeral
import FilterSql.Proofs.Token.Layout
import FilterSql.Token.Cursor

namespace FilterSql

namespace Lexer

inductive Broken : List Char → StringFault → Prop
  | ended : Broken [] .unterminated
  | backslash : Broken ['\\'] .unterminated
  | escape {d : Char} {after : List Char} : d ≠ '"' → d ≠ '\\' →
      Broken ('\\' :: d :: after) (.invalidEscape 0 d)

theorem StringFault.shift_shift (fault : StringFault) (m n : Nat) :
    (fault.shift m).shift n = fault.shift (n + m) := by
  cases fault with
  | unterminated => rfl
  | invalidEscape offset c => simp only [shift, Nat.add_assoc, Nat.add_comm m]

theorem width_escape {c : Char} (h : c = '"' ∨ c = '\\') (raw : List Char) :
    Text.width ('\\' :: c :: raw) = 2 + Text.width raw := by
  rcases h with rfl | rfl <;> exact (Nat.add_assoc 1 1 _).symm

theorem stringBody_broken {raw content rest : List Char} {fault : StringFault}
    (h : Quoted raw content) (hb : Broken rest fault) :
    stringBody (raw ++ rest) = .error (fault.shift (Text.width raw)) := by
  induction h with
  | nil =>
    cases hb with
    | ended => rfl
    | backslash => rfl
    | escape hq hs => simp [stringBody, StringFault.shift, hq, hs]
  | plain hq hs _ ih => simp [stringBody, hs, ih, StringFault.shift_shift]
  | escaped hc _ ih =>
    rw [width_escape hc]
    simp [stringBody, hc, ih, StringFault.shift_shift]

theorem stringBody_eq_error {cs : List Char} {fault : StringFault}
    (h : stringBody cs = .error fault) :
    ∃ raw content rest broken, cs = raw ++ rest ∧ Quoted raw content ∧ Broken rest broken ∧
      fault = broken.shift (Text.width raw) := by
  fun_induction stringBody cs generalizing fault with
  | case1 =>
    cases h
    exact ⟨[], [], [], _, rfl, .nil, .ended, rfl⟩
  | case2 => cases h
  | case3 =>
    cases h
    exact ⟨[], [], _, _, rfl, .nil, .backslash, rfl⟩
  | case4 => cases h
  | case5 c rest hc inner hi ih =>
    cases h
    obtain ⟨raw, content, after, broken, rfl, hq, hb, rfl⟩ := ih hi
    refine ⟨_, _, after, broken, rfl, .escaped hc hq, hb, ?_⟩
    rw [width_escape hc, StringFault.shift_shift]
  | case6 c rest hc =>
    cases h
    exact ⟨[], [], _, _, rfl, .nil, .escape (fun he => hc (.inl he)) fun he => hc (.inr he), rfl⟩
  | case7 => cases h
  | case8 c rest h₁ h₂ h₃ inner hi ih =>
    cases h
    obtain ⟨raw, content, after, broken, rfl, hq, hb, rfl⟩ := ih hi
    refine ⟨c :: raw, c :: content, after, broken, rfl, .plain h₁ ?_ hq, hb, ?_⟩
    · intro hc
      cases hr : raw ++ after with
      | nil => exact h₂ hc hr
      | cons d rest => exact h₃ d rest hc hr
    · simp [StringFault.shift_shift]

inductive Flaw
  | stray
  | numeral
  | unclosed
  | escape
  deriving DecidableEq, Repr

/-- What is wrong with the beginning of a text that does not begin with a token. -/
inductive Flawed : Flaw → List Char → Fault → Prop
  | stray {c : Char} {rest : List Char} : (∀ w kind, ¬Spells (c :: w) kind) →
      Flawed .stray (c :: rest) ⟨0, .unexpectedCharacter c⟩
  | bang {rest : List Char} : rest.head? ≠ some '=' → Flawed .stray ('!' :: rest) ⟨0, .loneBang⟩
  | numeral {w after : List Char} : IsNumeral w →
      ¬Continues w after (.number (String.ofList w)) → ¬Representable w →
      Flawed .numeral (w ++ after) ⟨0, .outOfRange (String.ofList w)⟩
  | unclosed {raw content rest : List Char} : Quoted raw content →
      rest = raw ∨ rest = raw ++ ['\\'] → Flawed .unclosed ('"' :: rest) ⟨0, .unterminatedString⟩
  | escape {raw content after : List Char} {d : Char} : Quoted raw content →
      d ≠ '"' → d ≠ '\\' →
      Flawed .escape ('"' :: raw ++ '\\' :: d :: after)
        ⟨Text.width ('"' :: raw), .invalidEscape d⟩

theorem continues_nil {w : List Char} {kind : TokenKind} : ¬Continues w [] kind := by
  cases kind with
  | comparison op => cases op <;> simp [Continues]
  | _ => simp [Continues]

theorem not_spells_of_cut {c : Char} (h : ∀ after, cut c after = .error ⟨0, .unexpectedCharacter c⟩)
    (w : List Char) (kind : TokenKind) : ¬Spells (c :: w) kind := by
  intro hs
  obtain hk | ⟨hk, -, -⟩ := cut_of_spells hs continues_nil
  · cases (h _).symm.trans hk
  · cases (h _).symm.trans hk

theorem exists_flawed_of_cut {c : Char} {rest : List Char} {fault : Fault}
    (h : cut c rest = .error fault) : ∃ flaw, Flawed flaw (c :: rest) fault := by
  unfold cut at h
  split at h
  case h_9 hne =>
    cases h
    refine ⟨.stray, .bang fun he => ?_⟩
    obtain ⟨after, rfl⟩ := List.head?_eq_some_iff.1 he
    exact hne after rfl
  case h_10 =>
    split at h
    · cases h
    · next hs =>
      cases h
      obtain ⟨raw, content, after, broken, rfl, hq, hb, hf⟩ := stringBody_eq_error hs
      cases hb with
      | ended => exact ⟨.unclosed, .unclosed hq (.inl (List.append_nil raw))⟩
      | backslash => exact ⟨.unclosed, .unclosed hq (.inr rfl)⟩
      | escape => cases hf
    · next offset d hs =>
      cases h
      obtain ⟨raw, content, after, broken, rfl, hq, hb, hf⟩ := stringBody_eq_error hs
      cases hb with
      | ended => cases hf
      | backslash => cases hf
      | @escape d after hd hd' =>
        simp only [StringFault.shift, StringFault.invalidEscape.injEq, Nat.zero_add] at hf
        obtain ⟨rfl, rfl⟩ := hf
        have hflawed : Flawed .escape ('"' :: raw ++ '\\' :: d :: after) _ := .escape hq hd hd'
        rw [Text.width_cons, Nat.add_comm] at hflawed
        exact ⟨.escape, hflawed⟩
  case h_11 =>
    split at h
    · next hd =>
      dsimp only at h
      split at h
      · cases h
      · next hr =>
        cases h
        obtain ⟨after, happ, hn, hc⟩ := numeral_spec hd rest (String.ofList (numeral (c :: rest)))
        have hf := Flawed.numeral hn hc fun hv => hr ((inRange_iff hn).2 hv)
        rw [← happ] at hf
        exact ⟨.numeral, hf⟩
    · split at h
      · cases h
      · cases h
        refine ⟨.stray, .stray (not_spells_of_cut fun after => ?_)⟩
        unfold cut
        split <;> simp_all
  all_goals cases h

theorem exists_taken_eq_cons {c : Char} {rest : List Char} {k : Cut} (h : cut c rest = .ok k) :
    ∃ w, k.taken = c :: w ∧ rest = w ++ k.rest := by
  obtain ⟨d, w, hw⟩ := List.exists_cons_of_ne_nil (cut_taken_ne_nil h)
  have happ := cut_append h
  rw [hw, List.cons_append] at happ
  obtain ⟨rfl, hrest⟩ := List.cons.inj happ
  exact ⟨w, hw, hrest.symm⟩

theorem cut_stray {c : Char} (h : ∀ w kind, ¬Spells (c :: w) kind) (rest : List Char) :
    cut c rest = .error ⟨0, .unexpectedCharacter c⟩ := by
  cases hk : cut c rest with
  | ok k =>
    obtain ⟨w, hw, -⟩ := exists_taken_eq_cons hk
    exact absurd (hw ▸ (cut_spells hk).1) (h w k.kind)
  | error fault =>
    -- any other flaw stands where a token could
    obtain ⟨flaw, hf⟩ := exists_flawed_of_cut hk
    generalize hs : c :: rest = text at hf
    cases hf with
    | stray =>
      cases hs
      rfl
    | bang =>
      cases hs
      exact absurd (.comparison .ne) (h ['='] _)
    | numeral hn =>
      cases hn with
      | whole hd hds =>
        cases hs
        exact absurd (.number (.whole hd hds)) (h _ _)
      | point hd hds he hes =>
        cases hs
        exact absurd (.number (.point hd hds he hes)) (h _ _)
    | unclosed | escape =>
      cases hs
      exact absurd (.string .nil) (h ['"'] _)

theorem cut_of_flawed {flaw : Flaw} {c : Char} {rest : List Char} {fault : Fault}
    (h : Flawed flaw (c :: rest) fault) : cut c rest = .error fault := by
  generalize hs : c :: rest = text at h
  cases h with
  | stray h =>
    cases hs
    exact cut_stray h rest
  | bang h =>
    cases hs
    cases rest with
    | nil => rfl
    | cons d rest =>
      have hd : d ≠ '=' := by simpa using h
      simp [cut, hd]
  | @numeral w after hn hc hv =>
    have hd : c.isDigit = true := by cases hn <;> cases hs <;> assumption
    have hr : inRange w = false := by rw [Bool.eq_false_iff, ne_eq, inRange_iff hn]; exact hv
    have hw : numeral (c :: rest) = w := hs ▸ numeral_append hn hc
    rw [cut_digit hd, hw, if_neg (by simp [hr])]
  | @unclosed raw content body hq hr =>
    cases hs
    have hb : stringBody rest = .error .unterminated := by
      obtain rfl | rfl := hr
      · have hended := stringBody_broken hq .ended
        rwa [List.append_nil] at hended
      · exact stringBody_broken hq .backslash
    simp [cut, hb]
  | @escape raw content after d hq hd hd' =>
    cases hs
    have hbroken : Broken ('\\' :: d :: after) _ := .escape hd hd'
    have hb := stringBody_broken hq hbroken
    simp [cut, hb, StringFault.shift, Nat.add_comm, Char.utf8Size]

def flaw? : LexFault → Option Flaw
  | .loneBang | .unexpectedCharacter _ => some .stray
  | .outOfRange _ => some .numeral
  | .unterminatedString => some .unclosed
  | .invalidEscape _ => some .escape
  | .invalidNumber _ => none

theorem Flawed.flaw?_eq {flaw : Flaw} {text : List Char} {fault : Fault}
    (h : Flawed flaw text fault) : flaw? fault.cause = some flaw := by
  cases h <;> rfl

theorem Flawed.unique {flaw flaw' : Flaw} {c : Char} {rest : List Char} {fault fault' : Fault}
    (h : Flawed flaw (c :: rest) fault) (h' : Flawed flaw' (c :: rest) fault') :
    flaw' = flaw ∧ fault' = fault := by
  obtain rfl : fault' = fault := by
    have heq := (cut_of_flawed h').symm.trans (cut_of_flawed h)
    exact Except.error.inj heq
  exact ⟨Option.some.inj (h'.flaw?_eq.symm.trans h.flaw?_eq), rfl⟩

theorem Continues.append {w p : List Char} {kind : TokenKind} (h : Continues w p kind)
    (q : List Char) : Continues w (p ++ q) kind := by
  have hhead {c : Char} (hc : c ∈ p.head?) : c ∈ (p ++ q).head? := by
    obtain ⟨r, rfl⟩ := List.head?_eq_some_iff.1 hc
    rfl
  cases kind with
  | and | or | not | identifier =>
    obtain ⟨c, hc, hn⟩ := h
    exact ⟨c, hhead hc, hn⟩
  | number numeral =>
    obtain ⟨d, hd, hn⟩ | ⟨hp, d, rest, rfl, hd⟩ := h
    · exact .inl ⟨d, hhead hd, hn⟩
    · exact .inr ⟨hp, d, rest ++ q, rfl, hd⟩
  | comparison op =>
    cases op with
    | lt | gt => exact hhead h
    | _ => exact h
  | _ => exact h

theorem cut_truncated {c : Char} {w before after : List Char} {kind : TokenKind}
    (h : cut c (w ++ (before ++ after)) = .ok ⟨kind, c :: w, before ++ after⟩) :
    cut c (w ++ before) = .ok ⟨kind, c :: w, before⟩ := by
  obtain ⟨hs, hends⟩ := cut_spells h
  obtain hk | ⟨-, hkind, hrange⟩ := cut_of_spells hs fun hc => hends (hc.append after)
  · exact hk
  · rw [inRange_of_cut h hkind] at hrange
    cases hrange

theorem exists_flawed_of_scanFrom {position : Nat} {cs : List Char} {error : QueryError}
    (h : (scanFrom position cs).fault = some error) :
    ∃ before c rest flaw fault, cs = before ++ c :: rest ∧ Text.isBlank c = false ∧
      scanFrom position before = ⟨(scanFrom position cs).tokens, none⟩ ∧
      error = .lex (position + Text.width before + fault.offset) fault.cause ∧
      Flawed flaw (c :: rest) fault := by
  fun_induction scanFrom position cs with
  | case1 => cases h
  | case2 position cs start c rest hd fault hk =>
    cases h
    obtain ⟨flaw, hf⟩ := exists_flawed_of_cut hk
    refine ⟨cs.takeWhile Text.isBlank, c, rest, flaw, fault, ?_, ?_, ?_, rfl, hf⟩
    · rw [← hd, List.takeWhile_append_dropWhile]
    · exact head?_dropWhile cs c (by simp [hd])
    · exact scanFrom_blanks (List.all_eq_true.1 List.all_takeWhile) position
  | case3 position cs start c rest hd k hk stop following ih =>
    obtain ⟨before, d, after, flaw, fault, hrest, hblank, hscan, herror, hf⟩ := ih h
    obtain ⟨w, hw, hwrest⟩ := exists_taken_eq_cons hk
    obtain ⟨kind, taken, krest⟩ := k
    subst hw hrest hwrest
    have hblanks : ∀ b ∈ cs.takeWhile Text.isBlank, Text.isBlank b = true :=
      List.all_eq_true.1 List.all_takeWhile
    have hc : Text.isBlank c = false := head?_dropWhile cs c (by simp [hd])
    -- the token before the fault is cut alike where the text ends in front of the fault
    refine ⟨cs.takeWhile Text.isBlank ++ c :: (w ++ before), d, after, flaw, fault, ?_, hblank,
      ?_, ?_, hf⟩
    · rw [List.append_assoc, List.cons_append, List.append_assoc, ← hd,
        List.takeWhile_append_dropWhile]
    · rw [scanFrom_cut hblanks hc (cut_truncated hk)]
      simp only [stop, start] at hscan
      simp only [hscan]
      rfl
    · rw [herror]
      simp only [stop, start, Text.width_append, Text.width_cons, Nat.add_assoc]

def Scan.items (scanned : Scan) : List (Except QueryError Token) :=
  scanned.tokens.map .ok ++ (scanned.fault.map .error).toList

theorem Cursor.answers_failed (position : Nat) (cs : List Char) (n : Nat) :
    answers ⟨position, cs, true⟩ n = List.replicate n none := by
  induction n with
  | zero => rfl
  | succ n ih => exact congrArg (none :: ·) ih

theorem Cursor.answers_nil (position n : Nat) :
    answers ⟨position, [], false⟩ n = List.replicate n none := by
  induction n generalizing position with
  | zero => rfl
  | succ n ih => exact congrArg (none :: ·) (ih _)

theorem Cursor.answers_eq (position : Nat) (cs : List Char) (n : Nat) :
    answers ⟨position, cs, false⟩ (n + (scanFrom position cs).items.length) =
      (scanFrom position cs).items.map some ++ List.replicate n none := by
  fun_induction scanFrom position cs with
  | case1 position cs hd =>
    cases n with
    | zero => rfl
    | succ n => simp [Scan.items, answers, next, hd, answers_nil, List.replicate_succ]
  | case2 position cs start c rest hd fault hk =>
    simp [Scan.items, answers, next, hd, hk, answers_failed, start]
  | case3 position cs start c rest hd k hk stop following ih =>
    have hnext : next ⟨position, cs, false⟩ =
        (some (.ok ⟨k.kind, ⟨start, stop⟩⟩), ⟨stop, k.rest, false⟩) := by
      simp [next, hd, hk, start, stop]
    change answers _ (n + following.items.length + 1) = _ :: (following.items.map some ++ _)
    rw [answers, hnext, ih]

theorem tokenize_eq_error_iff {text : String} {error : QueryError} :
    tokenize text = .error error ↔ (scan text).fault = some error := by
  simp only [tokenize]
  split
  · next h => simp [h]
  · next h => simp [h]

/-- The text is good up to `rest`, where the error has its cause. -/
structure FirstFlaw (text : String) (error : QueryError) (before rest : List Char)
    (tokens : List Token) (flaw : Flaw) (fault : Fault) : Prop where
  text_eq : text.toList = before ++ rest
  head : ∃ c ∈ rest.head?, Text.isBlank c = false
  before_eq : tokenize (String.ofList before) =
    .ok (tokens ++ [⟨.eof, ⟨Text.width before, Text.width before⟩⟩])
  kind_ne_eof : ∀ token ∈ tokens, token.kind ≠ .eof
  answers_eq : ∀ n, (Cursor.ofText text).answers (n + (tokens.length + 1)) =
    tokens.map (fun token => some (.ok token)) ++ some (.error error) :: List.replicate n none
  error_eq : error = .lex (Text.width before + fault.offset) fault.cause
  flawed : Flawed flaw rest fault
  unique : ∀ flaw' fault', Flawed flaw' rest fault' → flaw' = flaw ∧ fault' = fault

end Lexer

open Lexer in
/-- A text that has no tokens has a first flaw. The tokens up to there are those of the text before
it, a cursor answers with them, with the error and then with nothing, and the flaw is of one kind
and at one place. -/
theorem tokenize_error_flawed (text : String) (error : QueryError)
    (h : tokenize text = .error error) :
    ∃ before rest tokens flaw fault, FirstFlaw text error before rest tokens flaw fault := by
  have hfault : (scanFrom 0 text.toList).fault = some error := tokenize_eq_error_iff.1 h
  obtain ⟨before, c, rest, flaw, fault, htext, hblank, hscan, herror, hf⟩ :=
    exists_flawed_of_scanFrom hfault
  generalize ht : (scanFrom 0 text.toList).tokens = tokens at hscan
  have hbefore : scan (String.ofList before) = ⟨tokens, none⟩ := by
    rw [scan, String.toList_ofList, hscan]
  refine ⟨before, c :: rest, tokens, flaw, fault, htext, ⟨c, rfl, hblank⟩, ?_, fun token hmem => ?_,
    fun n => ?_, ?_, hf, fun flaw' fault' hf' => hf.unique hf'⟩
  · rw [tokenize_eq_ok_iff, hbefore, Text.utf8ByteSize_ofList]
    exact ⟨rfl, rfl⟩
  · have hstands := (segmentation_scan (congrArg Scan.fault hbefore)).stands token
    rw [hbefore] at hstands
    exact (hstands hmem).kind_ne_eof
  · have hanswers := Cursor.answers_eq 0 text.toList n
    simpa [Cursor.ofText, Scan.items, ht, hfault, Function.comp_def] using hanswers
  · rw [herror, Nat.zero_add]

open Lexer in
theorem tokenize_error_flawed_escape :
    let text := "a < \"\\\"é\\n\" !"
    let error : QueryError := .lex 9 (.invalidEscape 'n')
    tokenize text = .error error ∧
      ∃ before rest tokens fault, FirstFlaw text error before rest tokens .escape fault := by
  intro text error
  have h : tokenize text = .error error := by cbv
  obtain ⟨before, rest, tokens, flaw, fault, hfirst⟩ := tokenize_error_flawed text error h
  obtain ⟨-, hcause⟩ := QueryError.lex.inj hfirst.error_eq
  have hflaw := hfirst.flawed.flaw?_eq
  rw [← hcause] at hflaw
  obtain rfl := Option.some.inj hflaw
  exact ⟨h, before, rest, tokens, fault, hfirst⟩

end FilterSql
