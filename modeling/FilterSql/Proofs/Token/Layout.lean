import FilterSql.Proofs.Token.Segmentation

/-!
The layout of a text: the blanks before, between and behind its tokens, and the case of its
keywords. Two texts that differ in layout only have tokens of the same kinds, as long as no blanks
are closed up that keep two tokens apart.
-/

namespace FilterSql

namespace Text

theorem append_inj_of_width {first second rest after : List Char}
    (h : first ++ rest = second ++ after) (hw : width first = width second) :
    first = second ∧ rest = after := by
  obtain ⟨between, rfl, rfl⟩ := append_of_width_le h (Nat.le_of_eq hw)
  cases between with
  | nil => exact ⟨(List.append_nil _).symm, rfl⟩
  | cons c between =>
    have := width_pos (List.cons_ne_nil c between)
    rw [width_append] at hw
    omega

theorem isBlank_class {c : Char} (h : isBlank c = true) :
    isNameRest c = false ∧ c.isDigit = false ∧ c ≠ '=' ∧ c ≠ '.' := by
  have hout : ¬(33 ≤ c.toNat ∧ c.toNat ≤ 126) := fun hc => by simp [isBlank_eq_false hc] at h
  have hdigit : c.isDigit = false := by
    rw [Bool.eq_false_iff]
    intro hd
    have := toNat_of_isDigit hd
    omega
  have halpha : c.isAlpha = false := by
    rw [Bool.eq_false_iff]
    intro ha
    have := toNat_of_isAlpha ha
    omega
  have hne {d : Char} (hd : 33 ≤ d.toNat ∧ d.toNat ≤ 126) : c ≠ d := fun he => hout (he ▸ hd)
  refine ⟨?_, hdigit, hne (by decide), hne (by decide)⟩
  simp [isNameRest, Char.isAlphanum, halpha, hdigit, hne (d := '_') (by decide)]

end Text

def TokenKind.isKeyword : TokenKind → Bool
  | .and | .or | .not => true
  | _ => false

namespace Lexer

def SameWord (kind : TokenKind) (slice slice' : List Char) : Prop :=
  slice' = slice ∨ kind.isKeyword = true ∧ slice'.map Char.toLower = slice.map Char.toLower

/-- Two texts with the same tokens between other blanks. The tokens are those of the first text,
whose first byte is at the position. Behind a token (`inner`) the second text has blanks where the
first has them. -/
inductive Relaid : Bool → Nat → List Token → List Char → List Char → Prop
  | done {inner : Bool} {position : Nat} {cs cs' : List Char} :
      (∀ c ∈ cs, Text.isBlank c = true) → (∀ c ∈ cs', Text.isBlank c = true) →
      Relaid inner position [] cs cs'
  | token {inner : Bool} {position : Nat} {after after' : List Char} {kind : TokenKind}
      {tokens : List Token} (blanks blanks' slice slice' : List Char) :
      (∀ c ∈ blanks, Text.isBlank c = true) → (∀ c ∈ blanks', Text.isBlank c = true) →
      (inner = true → blanks ≠ [] → blanks' ≠ []) → SameWord kind slice slice' →
      Relaid true (position + Text.width blanks + Text.width slice) tokens after after' →
      Relaid inner position
        (⟨kind, ⟨position + Text.width blanks,
          position + Text.width blanks + Text.width slice⟩⟩ :: tokens)
        (blanks ++ slice ++ after) (blanks' ++ slice' ++ after')

def Relayout (words : List Token) (text text' : String) : Prop :=
  Relaid false 0 words text.toList text'.toList

theorem SameWord.spells {kind : TokenKind} {slice slice' : List Char}
    (h : SameWord kind slice slice') (hs : Spells slice kind) : Spells slice' kind := by
  obtain rfl | ⟨hk, hw⟩ := h
  · exact hs
  · cases hs with
    | and h => exact .and (by rwa [Text.isWord, hw])
    | or h => exact .or (by rwa [Text.isWord, hw])
    | not h => exact .not (by rwa [Text.isWord, hw])
    | _ => cases hk

theorem isAlpha_of_keyword {kind : TokenKind} {w : List Char} (hs : Spells w kind)
    (hk : kind.isKeyword = true) : ∀ c ∈ w, c.isAlpha = true := by
  cases hs with
  | and h | or h | not h => exact Text.isAlpha_of_isWord h (by decide)
  | _ => cases hk

theorem Spells.head_ne_point {kind : TokenKind} {c : Char} {w : List Char}
    (h : Spells (c :: w) kind) : c ≠ '.' := by
  rintro rfl
  generalize hs : '.' :: w = slice at h
  cases h with
  | and h | or h | not h =>
    subst hs
    exact absurd (Text.isAlpha_of_isWord h (by decide) '.' (by simp)) (by decide)
  | identifier h =>
    subst hs
    cases h with
    | mk hc => exact absurd hc (by decide)
  | number h =>
    subst hs
    cases h with
    | whole hd => exact absurd hd (by decide)
    | point hd => exact absurd hd (by decide)
  | comparison op => cases op <;> cases hs
  | _ => cases hs

def Alike (c c' : Char) : Prop :=
  c' ≠ '.' ∧ (c' = c ∨ c.isAlpha = true ∧ c'.isAlpha = true)

theorem SameWord.alike {kind : TokenKind} {c c' : Char} {w w' : List Char}
    (h : SameWord kind (c :: w) (c' :: w')) (hs : Spells (c :: w) kind) : Alike c c' := by
  have hs' : Spells (c' :: w') kind := h.spells hs
  refine ⟨hs'.head_ne_point, ?_⟩
  obtain heq | ⟨hk, -⟩ := h
  · exact .inl (List.cons.inj heq).1
  · have halpha {d : Char} {v : List Char} (hd : Spells (d :: v) kind) : d.isAlpha = true :=
      isAlpha_of_keyword hd hk d List.mem_cons_self
    exact .inr ⟨halpha hs, halpha hs'⟩

def Follows (after after' : List Char) : Prop :=
  ∀ c' ∈ after'.head?, Text.isBlank c' = true ∨ ∃ c ∈ after.head?, Alike c c'

section Ends

variable {after after' : List Char} (hf : Follows after after')

include hf

theorem Follows.head {p : Char → Bool} (hb : ∀ c, Text.isBlank c = true → p c = false)
    (ha : ∀ c c', c.isAlpha = true → c'.isAlpha = true → p c' = true → p c = true)
    (h : ∃ c' ∈ after'.head?, p c' = true) : ∃ c ∈ after.head?, p c = true := by
  obtain ⟨c', hc', hp⟩ := h
  obtain hblank | ⟨c, hc, -, rfl | ⟨hc₁, hc₂⟩⟩ := hf c' hc'
  · simp [hb c' hblank] at hp
  · exact ⟨c', hc, hp⟩
  · exact ⟨c, hc, ha c c' hc₁ hc₂ hp⟩

theorem Follows.ends {kind : TokenKind} {slice slice' : List Char}
    (hw : SameWord kind slice slice') (h : ¬Continues slice after kind) :
    ¬Continues slice' after' kind := by
  have hname (hc : ∃ c' ∈ after'.head?, Text.isNameRest c' = true) :
      ∃ c ∈ after.head?, Text.isNameRest c = true :=
    hf.head (fun c hc => (Text.isBlank_class hc).1)
      (fun c _ hc _ _ => by simp [Text.isNameRest, Char.isAlphanum, hc]) hc
  have hequals (hc : after'.head? = some '=') : after.head? = some '=' := by
    obtain ⟨c, hc, he⟩ := hf.head (p := (· == '='))
      (fun c hc => by simpa using (Text.isBlank_class hc).2.2.1)
      (fun c c' _ hc' he => by
        obtain rfl := beq_iff_eq.1 he
        exact absurd hc' (by decide))
      ⟨'=', hc, rfl⟩
    rwa [beq_iff_eq.1 he] at hc
  cases kind with
  | and | or | not | identifier => exact fun hc => h (hname hc)
  | number numeral =>
    obtain rfl : slice' = slice := hw.resolve_right fun hk => by cases hk.1
    rintro (hdigit | ⟨hpoint, d, rest, rfl, hd⟩)
    · refine h (.inl (hf.head (fun c hc => (Text.isBlank_class hc).2.1) ?_ hdigit))
      intro c c' _ hc' hd
      have := Text.toNat_of_isAlpha hc'
      have := Text.toNat_of_isDigit hd
      omega
    · obtain hblank | ⟨c, -, hne, -⟩ := hf '.' rfl
      · exact absurd hblank (by decide)
      · exact hne rfl
  | comparison op =>
    cases op with
    | lt | gt => exact fun hc => h (hequals hc)
    | _ => exact id
  | _ => exact id

end Ends

theorem inRange_of_cut {c : Char} {rest : List Char} {k : Cut} {numeral : String}
    (h : cut c rest = .ok k) (hk : k.kind = .number numeral) : inRange k.taken = true := by
  have happ := cut_append h
  have hs := (cut_spells h).1
  rw [hk] at hs
  have hc : c.isDigit = true := by
    generalize k.taken = w at happ hs
    cases hs with
    | number hn => cases hn <;> cases happ <;> assumption
  rw [cut_digit hc] at h
  split at h
  · next hr =>
    cases h
    exact hr
  · cases h

theorem cut_sameWord {c : Char} {rest slice' after' : List Char} {k : Cut}
    (hk : cut c rest = .ok k) (hw : SameWord k.kind k.taken slice')
    (hf : Follows k.rest after') :
    ∃ c' w', slice' = c' :: w' ∧ Text.isBlank c' = false ∧
      cut c' (w' ++ after') = .ok ⟨k.kind, slice', after'⟩ := by
  obtain ⟨hs, hends⟩ := cut_spells hk
  have hs' := hw.spells hs
  obtain ⟨c', w', rfl, hblank⟩ := hs'.not_blank
  refine ⟨c', w', rfl, hblank, ?_⟩
  obtain h | ⟨-, hkind, hrange⟩ := cut_of_spells hs' (hf.ends hw hends)
  · exact h
  · -- a numeral is the same in both texts, and has a value in the first
    have heq : c' :: w' = k.taken :=
      hw.resolve_right fun h => by simp [hkind, TokenKind.isKeyword] at h
    rw [heq, inRange_of_cut hk hkind] at hrange
    cases hrange

theorem exists_cut_of_scanFrom {position : Nat} {cs : List Char} {token : Token}
    {tokens : List Token} (h : scanFrom position cs = ⟨token :: tokens, none⟩) :
    ∃ blanks c rest k, cs = blanks ++ c :: rest ∧ cut c rest = .ok k ∧
      token = ⟨k.kind, ⟨position + Text.width blanks,
        position + Text.width blanks + Text.width k.taken⟩⟩ ∧
      scanFrom token.span.stop k.rest = ⟨tokens, none⟩ := by
  rw [scanFrom] at h
  split at h
  · cases h
  · next c rest hd =>
    split at h
    · cases h
    · next k hk =>
      injection h with htokens hfault
      obtain ⟨rfl, rfl⟩ := List.cons.inj htokens
      refine ⟨cs.takeWhile Text.isBlank, c, rest, k, ?_, hk, rfl, ?_⟩
      · rw [← hd, List.takeWhile_append_dropWhile]
      · rw [← hfault]

/-- Scanning the second text gives tokens of the same kinds. Whether a token ends is told by what
follows it, so this is carried along. -/
theorem Relaid.scanFrom_kinds {inner : Bool} {position : Nat} {tokens : List Token}
    {cs cs' : List Char} (h : Relaid inner position tokens cs cs')
    (hs : scanFrom position cs = ⟨tokens, none⟩) :
    (∀ position', (scanFrom position' cs').fault = none ∧
      (scanFrom position' cs').tokens.map Token.kind = tokens.map Token.kind) ∧
      (inner = true → Follows cs cs') := by
  induction h with
  | done hb hb' =>
    refine ⟨fun position' => ?_, fun _ c hc => .inl (hb' c (List.mem_of_mem_head? hc))⟩
    rw [scanFrom_blanks hb']
    exact ⟨rfl, rfl⟩
  | @token inner position after after' kind tokens blanks blanks' slice slice' hb hb' hgap hw _
      ih =>
    obtain ⟨blanks₀, c, rest, k, hcs, hk, htoken, hrest⟩ := exists_cut_of_scanFrom hs
    simp only [Token.mk.injEq, Span.mk.injEq] at htoken
    obtain ⟨rfl, hstart, hstop⟩ := htoken
    rw [List.append_assoc] at hcs
    obtain ⟨rfl, htail⟩ := Text.append_inj_of_width hcs (by omega)
    obtain ⟨rfl, rfl⟩ := Text.append_inj_of_width (htail.trans (cut_append hk).symm) (by omega)
    obtain ⟨hscan, hfollows⟩ := ih hrest
    obtain ⟨c', w', rfl, hblank, hcut⟩ := cut_sameWord hk hw (hfollows rfl)
    refine ⟨fun position' => ?_, ?_⟩
    · rw [List.append_assoc, List.cons_append, scanFrom_cut hb' hblank hcut]
      exact ⟨(hscan _).1, congrArg (k.kind :: ·) (hscan _).2⟩
    · rintro rfl d hd
      cases blanks' with
      | cons b _ =>
        obtain rfl : b = d := by simpa using hd
        exact .inl (hb' b List.mem_cons_self)
      | nil =>
        -- blanks between two tokens may change and come in, but not go
        obtain rfl : blanks = [] := by_contra fun hne => hgap rfl hne rfl
        obtain rfl : c' = d := by simpa using hd
        obtain ⟨hspells, -⟩ := cut_spells hk
        obtain ⟨e, w, hslice, -⟩ := hspells.not_blank
        rw [hslice] at hw hspells ⊢
        exact .inr ⟨e, rfl, hw.alike hspells⟩

end Lexer

open Lexer in
theorem tokenize_relayout {text text' : String} {words : List Token} {last : Token}
    (h : tokenize text = .ok (words ++ [last])) (hr : Relayout words text text') :
    ∃ tokens, tokenize text' = .ok tokens ∧
      tokens.map Token.kind = (words ++ [last]).map Token.kind := by
  obtain ⟨hf, heq⟩ := tokenize_eq_ok_iff.1 h
  obtain ⟨rfl, hlast⟩ := List.append_inj' heq rfl
  obtain rfl := (List.cons.inj hlast).1
  have hscan : scanFrom 0 text.toList = ⟨(scan text).tokens, none⟩ := by
    rw [← hf]
    rfl
  obtain ⟨hf', hkinds⟩ := (hr.scanFrom_kinds hscan).1 0
  refine ⟨_, tokenize_eq_ok_iff.2 ⟨hf', rfl⟩, ?_⟩
  rw [List.map_append, List.map_append, ← hkinds]
  rfl

end FilterSql
