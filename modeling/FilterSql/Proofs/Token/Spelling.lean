import FilterSql.Token.Lexer
import Mathlib

namespace FilterSql

namespace Text

theorem toNat_of_isAlpha {c : Char} (h : c.isAlpha = true) :
    65 ≤ c.toNat ∧ c.toNat ≤ 90 ∨ 97 ≤ c.toNat ∧ c.toNat ≤ 122 := by
  simpa [Char.isAlpha, Char.isUpper, Char.isLower, UInt32.le_iff_toNat_le] using h

theorem toNat_of_isDigit {c : Char} (h : c.isDigit = true) : 48 ≤ c.toNat ∧ c.toNat ≤ 57 := by
  simpa [Char.isDigit, UInt32.le_iff_toNat_le] using h

theorem toNat_of_isNameStart {c : Char} (h : isNameStart c = true) :
    65 ≤ c.toNat ∧ c.toNat ≤ 90 ∨ c.toNat = 95 ∨ 97 ≤ c.toNat ∧ c.toNat ≤ 122 := by
  simp only [isNameStart, Bool.or_eq_true, beq_iff_eq] at h
  rcases h with h | rfl
  · have := toNat_of_isAlpha h
    omega
  · decide

theorem isDigit_of_isNameStart {c : Char} (h : isNameStart c = true) : c.isDigit = false := by
  rw [← Bool.not_eq_true]
  intro hd
  have h₁ := toNat_of_isNameStart h
  have h₂ := toNat_of_isDigit hd
  omega

theorem isBlank_eq_false {c : Char} (h : 33 ≤ c.toNat ∧ c.toNat ≤ 126) : isBlank c = false := by
  simp only [isBlank, Bool.or_eq_false_iff, Bool.and_eq_false_iff, decide_eq_false_iff_not,
    beq_eq_false_iff_ne]
  omega

theorem isAlpha_of_toLower {c : Char} (h : c.toLower.isAlpha = true) : c.isAlpha = true := by
  unfold Char.toLower at h
  split at h
  · next hc =>
    have hu : c.isUpper = true := decide_eq_true hc
    simp [Char.isAlpha, hu]
  · exact h

theorem isAlpha_of_isWord {lower : String} {w : List Char} (h : isWord lower w = true)
    (hl : lower.toList.all Char.isAlpha = true) : ∀ c ∈ w, c.isAlpha = true := by
  intro c hc
  rw [isWord, beq_iff_eq] at h
  rw [← h, List.all_map, List.all_eq_true] at hl
  exact isAlpha_of_toLower (hl c hc)

end Text

namespace Lexer

/-- The content of a string by what stands between its quotes. -/
inductive Quoted : List Char → List Char → Prop
  | nil : Quoted [] []
  | plain {c : Char} {raw content : List Char} : c ≠ '"' → c ≠ '\\' → Quoted raw content →
      Quoted (c :: raw) (c :: content)
  | escaped {c : Char} {raw content : List Char} : c = '"' ∨ c = '\\' → Quoted raw content →
      Quoted ('\\' :: c :: raw) (c :: content)

inductive IsNumeral : List Char → Prop
  | whole {d : Char} {ds : List Char} : d.isDigit = true → (∀ e ∈ ds, e.isDigit = true) →
      IsNumeral (d :: ds)
  | point {d e : Char} {ds es : List Char} : d.isDigit = true → (∀ f ∈ ds, f.isDigit = true) →
      e.isDigit = true → (∀ f ∈ es, f.isDigit = true) → IsNumeral (d :: ds ++ '.' :: e :: es)

inductive IsName : List Char → Prop
  | mk {c : Char} {cs : List Char} : Text.isNameStart c = true →
      (∀ d ∈ cs, Text.isNameRest d = true) → IsName (c :: cs)

/-- The kind of the token that a text is. -/
inductive Spells : List Char → TokenKind → Prop
  | and {w : List Char} : Text.isWord "and" w = true → Spells w .and
  | or {w : List Char} : Text.isWord "or" w = true → Spells w .or
  | not {w : List Char} : Text.isWord "not" w = true → Spells w .not
  | identifier {w : List Char} : IsName w →
      (∀ keyword ∈ ["and", "or", "not"], Text.isWord keyword w = false) →
      Spells w (.identifier (String.ofList w))
  | number {w : List Char} : IsNumeral w → Spells w (.number (String.ofList w))
  | string {raw content : List Char} : Quoted raw content →
      Spells ('"' :: raw ++ ['"']) (.string (String.ofList content))
  | comparison (op : Comparison) : Spells op.symbol.toList (.comparison op)
  | lparen : Spells ['('] .lparen
  | rparen : Spells [')'] .rparen

/-- Whether a token that covers `w` would be longer with what follows it. -/
def Continues (w after : List Char) : TokenKind → Prop
  | .and | .or | .not | .identifier _ => ∃ c ∈ after.head?, Text.isNameRest c = true
  | .number _ => (∃ d ∈ after.head?, d.isDigit = true) ∨
      '.' ∉ w ∧ ∃ d rest, after = '.' :: d :: rest ∧ d.isDigit = true
  | .comparison .lt | .comparison .gt => after.head? = some '='
  | _ => False

theorem isName_of_isWord {lower : String} {w : List Char} (h : Text.isWord lower w = true)
    (hl : lower.toList.all Char.isAlpha = true) (hn : lower.toList ≠ []) : IsName w := by
  have ha := Text.isAlpha_of_isWord h hl
  cases w with
  | nil => exact absurd (beq_iff_eq.1 h).symm hn
  | cons c cs =>
    refine .mk ?_ fun d hd => ?_
    · simp [Text.isNameStart, ha c (by simp)]
    · simp [Text.isNameRest, Char.isAlphanum, ha d (by simp [hd])]

theorem IsName.spells {w : List Char} (h : IsName w) : Spells w (wordKind w) := by
  unfold wordKind
  split
  · next ha => exact .and ha
  · next ha =>
    split
    · next ho => exact .or ho
    · next ho =>
      split
      · next hn => exact .not hn
      · next hn => exact .identifier h (by simp_all)

theorem takeWhile_eq {p : Char → Bool} {w after : List Char} (hw : ∀ c ∈ w, p c = true)
    (ha : ∀ c ∈ after.head?, p c = false) : (w ++ after).takeWhile p = w := by
  rw [List.takeWhile_append_of_pos hw]
  cases after with
  | nil => simp
  | cons c after => simp [ha c (by simp)]

theorem dropWhile_eq {p : Char → Bool} {w after : List Char} (hw : ∀ c ∈ w, p c = true)
    (ha : ∀ c ∈ after.head?, p c = false) : (w ++ after).dropWhile p = after := by
  rw [List.dropWhile_append_of_pos hw]
  cases after with
  | nil => rfl
  | cons c after => simp [ha c (by simp)]

theorem head?_dropWhile {p : Char → Bool} (cs : List Char) :
    ∀ c ∈ (cs.dropWhile p).head?, p c = false := by
  intro c hc
  have h := List.head?_dropWhile_not p cs
  rw [Option.mem_def.1 hc] at h
  simpa using h

theorem cut_name {c : Char} (h : Text.isNameStart c = true) (rest : List Char) :
    cut c rest = .ok ⟨wordKind (c :: rest.takeWhile Text.isNameRest),
      c :: rest.takeWhile Text.isNameRest, rest.dropWhile Text.isNameRest⟩ := by
  unfold cut
  split
  case h_11 => simp [h, Text.isDigit_of_isNameStart h]
  all_goals exact absurd h (by decide)

theorem cut_digit {c : Char} (h : c.isDigit = true) (rest : List Char) :
    cut c rest =
      if inRange (numeral (c :: rest)) then
        .ok ⟨.number (String.ofList (numeral (c :: rest))), numeral (c :: rest),
          (c :: rest).drop (numeral (c :: rest)).length⟩
      else .error ⟨0, .outOfRange (String.ofList (numeral (c :: rest)))⟩ := by
  unfold cut
  split
  case h_11 => simp [h]
  all_goals exact absurd h (by decide)

theorem isWord_eq_false {keyword : String} {w : List Char} (h : Text.isWord keyword w = true)
    (other : String) (hne : keyword ≠ other) : Text.isWord other w = false := by
  rw [Text.isWord, beq_iff_eq] at h
  rw [Text.isWord, h, beq_eq_false_iff_ne, ne_eq, String.toList_inj]
  exact hne

theorem cut_isName {c : Char} {w after : List Char} (h : IsName (c :: w))
    (ha : ¬∃ d ∈ after.head?, Text.isNameRest d = true) :
    cut c (w ++ after) = .ok ⟨wordKind (c :: w), c :: w, after⟩ := by
  have ha : ∀ d ∈ after.head?, Text.isNameRest d = false := by simpa using ha
  cases h with
  | mk hc hw => rw [cut_name hc, takeWhile_eq hw ha, dropWhile_eq hw ha]

theorem numeral_append {w after : List Char} {text : String} (h : IsNumeral w)
    (ha : ¬Continues w after (.number text)) : numeral (w ++ after) = w := by
  obtain ⟨hdigit, hpoint⟩ := not_or.1 ha
  have hdigit : ∀ d ∈ after.head?, d.isDigit = false := by simpa using hdigit
  cases h with
  | @whole d ds hd hds =>
    have hw : ∀ e ∈ d :: ds, e.isDigit = true := List.forall_mem_cons.2 ⟨hd, hds⟩
    have hp : '.' ∉ d :: ds := fun h => absurd (hw _ h) (by decide)
    unfold numeral
    rw [takeWhile_eq hw hdigit, dropWhile_eq hw hdigit]
    split
    · next e rest _ => rw [if_neg fun he => hpoint ⟨hp, e, rest, rfl, he⟩]
    · rfl
  | @point d e ds es hd hds he hes =>
    have hw : ∀ f ∈ d :: ds, f.isDigit = true := List.forall_mem_cons.2 ⟨hd, hds⟩
    have hq : ∀ f ∈ e :: es, f.isDigit = true := List.forall_mem_cons.2 ⟨he, hes⟩
    have hstop : ∀ f ∈ ('.' :: (e :: es ++ after)).head?, f.isDigit = false := by simp
    have happ : d :: ds ++ '.' :: e :: es ++ after = d :: ds ++ '.' :: (e :: es ++ after) := by simp
    unfold numeral
    rw [happ, takeWhile_eq hw hstop, dropWhile_eq hw hstop]
    have hrest := takeWhile_eq hq hdigit
    rw [List.cons_append] at hrest
    simp [he, hrest]

theorem numeral_spec {c : Char} (h : c.isDigit = true) (rest : List Char) (text : String) :
    ∃ after, c :: rest = numeral (c :: rest) ++ after ∧ IsNumeral (numeral (c :: rest)) ∧
      ¬Continues (numeral (c :: rest)) after (.number text) := by
  have hw : (c :: rest).takeWhile Char.isDigit = c :: rest.takeWhile Char.isDigit := by simp [h]
  have hds : ∀ e ∈ rest.takeWhile Char.isDigit, e.isDigit = true :=
    List.all_eq_true.1 List.all_takeWhile
  have happ : c :: rest =
      c :: rest.takeWhile Char.isDigit ++ (c :: rest).dropWhile Char.isDigit := by
    rw [← hw, List.takeWhile_append_dropWhile]
  have hstop := head?_dropWhile (p := Char.isDigit) (c :: rest)
  unfold numeral
  rw [hw]
  split
  · next d r hd =>
    rw [hd] at happ
    split
    · next hdd =>
      refine ⟨r.dropWhile Char.isDigit, ?_, ?_, ?_⟩
      · conv => lhs; rw [happ]
        simp [hdd]
      · simp only [hdd, List.takeWhile_cons_of_pos]
        exact .point h hds hdd (List.all_eq_true.1 List.all_takeWhile)
      · rintro (⟨f, hf, hfd⟩ | ⟨hp, -⟩)
        · simp [head?_dropWhile _ _ hf] at hfd
        · simp at hp
    · next hdd =>
      refine ⟨'.' :: d :: r, happ, .whole h hds, ?_⟩
      rintro (⟨f, hf, hfd⟩ | ⟨-, e, s, he, hed⟩)
      · simp at hf
        subst hf
        exact absurd hfd (by decide)
      · cases he
        exact hdd hed
  · next hne =>
    refine ⟨_, happ, .whole h hds, ?_⟩
    rintro (⟨f, hf, hfd⟩ | ⟨-, e, s, he, -⟩)
    · simp [hstop f hf] at hfd
    · exact hne e s he

theorem stringBody_quoted {raw content : List Char} (h : Quoted raw content) (after : List Char) :
    stringBody (raw ++ '"' :: after) = .ok ⟨raw ++ ['"'], content, after⟩ := by
  induction h with
  | nil => rfl
  | plain hq hb _ ih => simp [stringBody, hb, ih, StringBody.push]
  | escaped hc _ ih => simp [stringBody, hc, ih, StringBody.push]

theorem quoted_of_stringBody {cs : List Char} {body : StringBody} (h : stringBody cs = .ok body) :
    ∃ raw, body.raw = raw ++ ['"'] ∧ Quoted raw body.content := by
  fun_induction stringBody cs generalizing body with
  | case1 => simp at h
  | case2 => cases h; exact ⟨[], rfl, .nil⟩
  | case3 => simp at h
  | case4 c rest hc inner hi ih =>
    cases h
    obtain ⟨raw, hraw, hq⟩ := ih hi
    exact ⟨'\\' :: c :: raw, by simp [StringBody.push, hraw], .escaped hc hq⟩
  | case5 => simp at h
  | case6 => simp at h
  | case7 c rest h₁ h₂ h₃ inner hi ih =>
    cases h
    obtain ⟨raw, hraw, hq⟩ := ih hi
    refine ⟨c :: raw, by simp [StringBody.push, hraw], .plain ?_ ?_ hq⟩
    · exact h₁
    · intro hc
      cases rest with
      | nil => exact h₂ hc rfl
      | cons d rest => exact h₃ d rest hc rfl
  | case8 => simp at h

theorem cut_lt {after : List Char} (h : after.head? ≠ some '=') :
    cut '<' after = .ok ⟨.comparison .lt, ['<'], after⟩ := by
  cases after with
  | nil => rfl
  | cons d after =>
    have hd : d ≠ '=' := by simpa using h
    simp [cut, hd]

theorem cut_gt {after : List Char} (h : after.head? ≠ some '=') :
    cut '>' after = .ok ⟨.comparison .gt, ['>'], after⟩ := by
  cases after with
  | nil => rfl
  | cons d after =>
    have hd : d ≠ '=' := by simpa using h
    simp [cut, hd]

theorem wordKind_ends {w after : List Char} (h : ∀ c ∈ after.head?, Text.isNameRest c = false) :
    ¬Continues w after (wordKind w) := by
  have hne : ¬∃ c ∈ after.head?, Text.isNameRest c = true := by simpa using h
  unfold wordKind
  split
  · exact hne
  · split
    · exact hne
    · split <;> exact hne

theorem cut_spells {c : Char} {rest : List Char} {k : Cut} (h : cut c rest = .ok k) :
    Spells k.taken k.kind ∧ ¬Continues k.taken k.rest k.kind := by
  unfold cut at h
  split at h
  · cases h; exact ⟨.comparison .eq, id⟩
  · cases h; exact ⟨.lparen, id⟩
  · cases h; exact ⟨.rparen, id⟩
  · cases h; exact ⟨.comparison .le, id⟩
  · next hne =>
    cases h
    refine ⟨.comparison .lt, fun he => ?_⟩
    obtain ⟨after, rfl⟩ := List.head?_eq_some_iff.1 he
    exact hne after rfl
  · cases h; exact ⟨.comparison .ge, id⟩
  · next hne =>
    cases h
    refine ⟨.comparison .gt, fun he => ?_⟩
    obtain ⟨after, rfl⟩ := List.head?_eq_some_iff.1 he
    exact hne after rfl
  · cases h; exact ⟨.comparison .ne, id⟩
  · cases h
  · split at h
    · next body hb =>
      cases h
      obtain ⟨raw, hraw, hq⟩ := quoted_of_stringBody hb
      rw [hraw]
      exact ⟨.string hq, id⟩
    · cases h
    · cases h
  · split at h
    · next hd =>
      dsimp only at h
      split at h
      · cases h
        obtain ⟨after, happ, hn, hc⟩ := numeral_spec hd rest (String.ofList (numeral (c :: rest)))
        have hrest := congrArg (List.drop (numeral (c :: rest)).length) happ
        rw [List.drop_left] at hrest
        exact ⟨.number hn, hrest ▸ hc⟩
      · cases h
    · split at h
      · next hc =>
        cases h
        have hw := IsName.mk hc (List.all_eq_true.1 (List.all_takeWhile (l := rest)))
        exact ⟨hw.spells, wordKind_ends (head?_dropWhile rest)⟩
      · cases h

theorem cut_of_spells {c : Char} {w after : List Char} {kind : TokenKind}
    (h : Spells (c :: w) kind) (ha : ¬Continues (c :: w) after kind) :
    cut c (w ++ after) = .ok ⟨kind, c :: w, after⟩ ∨
      cut c (w ++ after) = .error ⟨0, .outOfRange (String.ofList (c :: w))⟩ ∧
        kind = .number (String.ofList (c :: w)) ∧ inRange (c :: w) = false := by
  generalize hs : c :: w = slice at h ha
  cases h with
  | and hw =>
    subst hs
    left
    rw [cut_isName (isName_of_isWord hw (by decide) (by decide)) ha]
    simp [wordKind, hw]
  | or hw =>
    subst hs
    left
    rw [cut_isName (isName_of_isWord hw (by decide) (by decide)) ha]
    simp [wordKind, hw, isWord_eq_false hw "and" (by decide)]
  | not hw =>
    subst hs
    left
    rw [cut_isName (isName_of_isWord hw (by decide) (by decide)) ha]
    simp [wordKind, hw, isWord_eq_false hw "and" (by decide),
      isWord_eq_false hw "or" (by decide)]
  | identifier hw hk =>
    subst hs
    left
    rw [cut_isName hw ha]
    simp_all [wordKind]
  | number hn =>
    subst hs
    have hd : c.isDigit = true := by cases hn <;> assumption
    have he : numeral (c :: (w ++ after)) = c :: w := numeral_append hn ha
    rw [cut_digit hd, he]
    split
    · left
      simp
    · next hr => exact .inr ⟨rfl, rfl, by simpa using hr⟩
  | @string raw content hq =>
    cases hs
    left
    simp [cut, stringBody_quoted hq]
  | comparison op =>
    left
    cases op with
    | eq | ne | le | ge =>
      cases hs
      rfl
    | lt =>
      cases hs
      exact cut_lt ha
    | gt =>
      cases hs
      exact cut_gt ha
  | lparen => cases hs; exact .inl rfl
  | rparen => cases hs; exact .inl rfl

theorem Spells.kind_ne_eof {w : List Char} {kind : TokenKind} (h : Spells w kind) :
    kind ≠ .eof := by
  cases h <;> simp

theorem IsName.not_blank {w : List Char} (h : IsName w) :
    ∃ c rest, w = c :: rest ∧ Text.isBlank c = false := by
  cases h with
  | @mk c cs hc _ =>
    have := Text.toNat_of_isNameStart hc
    exact ⟨c, cs, rfl, Text.isBlank_eq_false (by omega)⟩

theorem Spells.not_blank {w : List Char} {kind : TokenKind} (h : Spells w kind) :
    ∃ c rest, w = c :: rest ∧ Text.isBlank c = false := by
  cases h with
  | and hw | or hw | not hw => exact (isName_of_isWord hw (by decide) (by decide)).not_blank
  | identifier hw _ => exact hw.not_blank
  | number hn =>
    cases hn with
    | @whole d ds hd _ | @point d _ ds _ hd _ _ _ =>
      have := Text.toNat_of_isDigit hd
      exact ⟨d, _, rfl, Text.isBlank_eq_false (by omega)⟩
  | string | lparen | rparen => exact ⟨_, _, rfl, by decide⟩
  | comparison op => cases op <;> exact ⟨_, _, rfl, by decide⟩

end Lexer

end FilterSql
