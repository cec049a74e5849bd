import FilterSql.Proofs.Token.Spelling

namespace FilterSql

namespace Text

theorem width_pos {cs : List Char} (h : cs ≠ []) : 0 < width cs := by
  cases cs with
  | nil => exact absurd rfl h
  | cons c cs =>
    have := c.utf8Size_pos
    rw [width_cons]
    omega

theorem utf8ByteSize_ofList (cs : List Char) : (String.ofList cs).utf8ByteSize = width cs := by
  induction cs with
  | nil => simp
  | cons c cs ih => simp [String.ofList_cons, ih]

theorem append_of_width_le {first second rest after : List Char}
    (h : first ++ rest = second ++ after) (hw : width first ≤ width second) :
    ∃ between, second = first ++ between ∧ rest = between ++ after := by
  obtain ⟨between, hs, hr⟩ | ⟨between, hf, ha⟩ := List.append_eq_append_iff.1 h
  · exact ⟨between, hs, hr⟩
  · cases between with
    | nil => exact ⟨[], by simpa using hf.symm, by simpa using ha.symm⟩
    | cons c between =>
      have := width_pos (List.cons_ne_nil c between)
      rw [hf, width_append] at hw
      omega

end Text

def Span.Covers (span : Span) (position : Nat) : Prop :=
  span.start ≤ position ∧ position < span.stop

namespace Lexer

/-- The token covers a text that spells it and that nothing behind it would make longer. -/
def Stands (text : List Char) (token : Token) : Prop :=
  ∃ before slice after, text = before ++ slice ++ after ∧
    token.span = ⟨Text.width before, Text.width (before ++ slice)⟩ ∧
    Spells slice token.kind ∧ ¬Continues slice after token.kind

structure Segmentation (text : List Char) (tokens : List Token) : Prop where
  stands : ∀ token ∈ tokens, Stands text token
  ordered : tokens.Pairwise fun first second => first.span.stop ≤ second.span.start
  blank : ∀ before c after, text = before ++ c :: after →
    (∀ token ∈ tokens, ¬token.span.Covers (Text.width before)) → Text.isBlank c = true

/-- The same by recursion on the tokens, for a text whose first byte is at the position. -/
inductive Segments : Nat → List Char → List Token → Prop
  | done {position : Nat} {cs : List Char} : (∀ c ∈ cs, Text.isBlank c = true) →
      Segments position cs []
  | token {position : Nat} {blanks slice after : List Char} {kind : TokenKind}
      {tokens : List Token} : (∀ c ∈ blanks, Text.isBlank c = true) → Spells slice kind →
      ¬Continues slice after kind →
      Segments (position + Text.width blanks + Text.width slice) after tokens →
      Segments position (blanks ++ slice ++ after)
        (⟨kind, ⟨position + Text.width blanks,
          position + Text.width blanks + Text.width slice⟩⟩ :: tokens)

theorem Stands.span_lt {text : List Char} {token : Token} (h : Stands text token) :
    token.span.start < token.span.stop := by
  obtain ⟨before, slice, after, -, hs, hk, -⟩ := h
  obtain ⟨c, rest, rfl, -⟩ := hk.not_blank
  have := Text.width_pos (List.cons_ne_nil c rest)
  simp only [hs, Text.width_append]
  omega

theorem Stands.stop_le {text : List Char} {token : Token} (h : Stands text token) :
    token.span.stop ≤ Text.width text := by
  obtain ⟨before, slice, after, rfl, hs, -, -⟩ := h
  simp [hs]

theorem Stands.kind_ne_eof {text : List Char} {token : Token} (h : Stands text token) :
    token.kind ≠ .eof := by
  obtain ⟨_, _, _, -, -, hk, -⟩ := h
  exact hk.kind_ne_eof

theorem scanFrom_blanks {cs : List Char} (h : ∀ c ∈ cs, Text.isBlank c = true) (position : Nat) :
    scanFrom position cs = ⟨[], none⟩ := by
  have hd : cs.dropWhile Text.isBlank = [] := List.dropWhile_eq_nil_iff.2 h
  rw [scanFrom]
  split
  · rfl
  · next hc =>
    rw [hd] at hc
    cases hc

theorem scanFrom_cut {blanks rest : List Char} {c : Char} {k : Cut}
    (hb : ∀ c ∈ blanks, Text.isBlank c = true) (hc : Text.isBlank c = false)
    (hk : cut c rest = .ok k) (position : Nat) :
    scanFrom position (blanks ++ c :: rest) =
      let start := position + Text.width blanks
      let stop := start + Text.width k.taken
      let following := scanFrom stop k.rest
      ⟨⟨k.kind, ⟨start, stop⟩⟩ :: following.tokens, following.fault⟩ := by
  have hstop : ∀ d ∈ (c :: rest).head?, Text.isBlank d = false := by simpa using hc
  have hd := dropWhile_eq hb hstop
  have ht := takeWhile_eq hb hstop
  rw [scanFrom]
  split
  · next h =>
    rw [hd] at h
    cases h
  · next h =>
    cases hd.symm.trans h
    split
    · next h' => cases hk.symm.trans h'
    · next h' =>
      cases hk.symm.trans h'
      rw [ht]

theorem scanFrom_fault {blanks rest : List Char} {c : Char} {fault : Fault}
    (hb : ∀ c ∈ blanks, Text.isBlank c = true) (hc : Text.isBlank c = false)
    (hk : cut c rest = .error fault) (position : Nat) :
    (scanFrom position (blanks ++ c :: rest)).fault ≠ none := by
  have hstop : ∀ d ∈ (c :: rest).head?, Text.isBlank d = false := by simpa using hc
  have hd := dropWhile_eq hb hstop
  rw [scanFrom]
  split
  · next h =>
    rw [hd] at h
    cases h
  · next h =>
    cases hd.symm.trans h
    split
    · simp
    · next h' => cases hk.symm.trans h'

theorem segments_scanFrom {position : Nat} {cs : List Char}
    (h : (scanFrom position cs).fault = none) :
    Segments position cs (scanFrom position cs).tokens := by
  fun_induction scanFrom position cs with
  | case1 _ _ hd => exact .done (List.dropWhile_eq_nil_iff.1 hd)
  | case2 => cases h
  | case3 position cs _ c rest hd k hk _ _ ih =>
    obtain ⟨hs, hc⟩ := cut_spells hk
    have happ : cs = cs.takeWhile Text.isBlank ++ k.taken ++ k.rest := by
      rw [List.append_assoc, cut_append hk, ← hd, List.takeWhile_append_dropWhile]
    have hr := Segments.token (List.all_eq_true.1 List.all_takeWhile) hs hc (ih h)
    rwa [← happ] at hr

theorem Segments.eq_scanFrom {position : Nat} {cs : List Char} {tokens : List Token}
    (h : Segments position cs tokens) (hf : (scanFrom position cs).fault = none) :
    tokens = (scanFrom position cs).tokens := by
  induction h with
  | done hb => rw [scanFrom_blanks hb]
  | @token position blanks slice after kind tokens hb hs hc _ ih =>
    obtain ⟨c, w, rfl, hblank⟩ := hs.not_blank
    rw [List.append_assoc, List.cons_append] at hf ⊢
    obtain hk | ⟨hk, -, -⟩ := cut_of_spells hs hc
    · rw [scanFrom_cut hb hblank hk] at hf ⊢
      simp only [ih hf]
    · exact absurd hf (scanFrom_fault hb hblank hk position)

structure SegmentedBehind (before cs : List Char) (tokens : List Token) : Prop where
  stands : ∀ token ∈ tokens, Stands (before ++ cs) token
  behind : ∀ token ∈ tokens, Text.width before ≤ token.span.start
  ordered : tokens.Pairwise fun first second => first.span.stop ≤ second.span.start
  blank : ∀ u c after, cs = u ++ c :: after →
    (∀ token ∈ tokens, ¬token.span.Covers (Text.width (before ++ u))) → Text.isBlank c = true

theorem segmentedBehind_nil_iff {cs : List Char} {tokens : List Token} :
    SegmentedBehind [] cs tokens ↔ Segmentation cs tokens :=
  ⟨fun h => ⟨h.stands, h.ordered, h.blank⟩, fun h => ⟨h.stands, by simp, h.ordered, h.blank⟩⟩

theorem Segments.segmentedBehind {position : Nat} {cs : List Char} {tokens : List Token}
    (h : Segments position cs tokens) (before : List Char) (hp : position = Text.width before) :
    SegmentedBehind before cs tokens := by
  induction h generalizing before with
  | done hb => exact ⟨by simp, by simp, .nil, fun u c after hs _ => hb c (by simp [hs])⟩
  | @token position blanks slice after kind tokens hb hs hc _ ih =>
    subst hp
    have hstop : Text.width before + Text.width blanks + Text.width slice =
        Text.width (before ++ blanks ++ slice) := by simp [Nat.add_assoc]
    have hi := ih (before ++ blanks ++ slice) hstop
    refine ⟨?_, ?_, ?_, ?_⟩
    · refine List.forall_mem_cons.2 ⟨⟨before ++ blanks, slice, after, by simp, ?_, hs, hc⟩, ?_⟩
      · rw [← hstop, Text.width_append]
      · simpa using hi.stands
    · refine List.forall_mem_cons.2 ⟨by simp, fun token ht => ?_⟩
      have := hi.behind token ht
      omega
    · refine List.pairwise_cons.2 ⟨fun token ht => ?_, hi.ordered⟩
      exact hstop ▸ hi.behind token ht
    · intro u c rest htext hu
      obtain ⟨hhead, hu⟩ := List.forall_mem_cons.1 hu
      -- the character stands among the blanks, in the token or behind it
      by_cases hblanks : Text.width u < Text.width blanks
      · obtain ⟨between, rfl, hrest⟩ := Text.append_of_width_le
          (htext.symm.trans (List.append_assoc ..)) (Nat.le_of_lt hblanks)
        cases between with
        | nil => simp at hblanks
        | cons d between =>
          cases hrest
          exact hb c (by simp)
      · have hslice : Text.width (blanks ++ slice) ≤ Text.width u := by
          simp only [Span.Covers, Text.width_append] at hhead ⊢
          omega
        obtain ⟨between, rfl, hrest⟩ := Text.append_of_width_le htext hslice
        exact hi.blank between c rest hrest (by simpa using hu)

theorem SegmentedBehind.segments {before cs : List Char} {tokens : List Token}
    (h : SegmentedBehind before cs tokens) : Segments (Text.width before) cs tokens := by
  induction tokens generalizing before cs with
  | nil =>
    refine .done fun c hc => ?_
    obtain ⟨u, after, rfl⟩ := List.append_of_mem hc
    exact h.blank u c after rfl (by simp)
  | cons token tokens ih =>
    obtain ⟨kind, span⟩ := token
    obtain ⟨ordered, hordered⟩ := List.pairwise_cons.1 h.ordered
    obtain ⟨hstands, hstands'⟩ := List.forall_mem_cons.1 h.stands
    have hbehind := h.behind _ List.mem_cons_self
    have hspan := hstands.span_lt
    obtain ⟨w, slice, after, htext, rfl, hs, hc⟩ := hstands
    obtain ⟨blanks, rfl, rfl⟩ := Text.append_of_width_le
      (htext.trans (List.append_assoc ..)) hbehind
    have hb : ∀ c ∈ blanks, Text.isBlank c = true := by
      intro c hc
      obtain ⟨u, v, rfl⟩ := List.append_of_mem hc
      refine h.blank u c (v ++ (slice ++ after)) (by simp) (List.forall_mem_cons.2 ⟨?_, ?_⟩)
      · have := c.utf8Size_pos
        simp only [Span.Covers, Text.width_append, Text.width_cons]
        omega
      · intro token ht
        have hpos := c.utf8Size_pos
        have hstop := ordered token ht
        simp only [Span.Covers, Text.width_append, Text.width_cons] at hstop ⊢
        omega
    have htail : SegmentedBehind (before ++ blanks ++ slice) after tokens := by
      refine ⟨?_, ordered, hordered, fun u c rest hrest hu => ?_⟩
      · simpa using hstands'
      · refine h.blank (blanks ++ slice ++ u) c rest (by simp [hrest])
          (List.forall_mem_cons.2 ⟨?_, by simpa using hu⟩)
        simp only [Span.Covers, Text.width_append]
        omega
    have htail := ih htail
    simp only [Text.width_append] at htail ⊢
    rw [← List.append_assoc]
    exact .token hb hs hc htail

theorem segmentation_iff_segments {text : List Char} {tokens : List Token} :
    Segmentation text tokens ↔ Segments 0 text tokens :=
  segmentedBehind_nil_iff.symm.trans ⟨fun h => h.segments, fun h => h.segmentedBehind [] rfl⟩

theorem tokenize_eq_ok_iff {text : String} {tokens : List Token} :
    tokenize text = .ok tokens ↔ (scan text).fault = none ∧
      tokens = (scan text).tokens ++ [⟨.eof, ⟨text.utf8ByteSize, text.utf8ByteSize⟩⟩] := by
  simp only [tokenize]
  split
  · next h => simp [h]
  · next h => simp [h, eq_comm]

theorem segmentation_scan {text : String} (h : (scan text).fault = none) :
    Segmentation text.toList (scan text).tokens :=
  segmentation_iff_segments.2 (segments_scanFrom h)

theorem exists_words_of_tokenize {text : String} {tokens : List Token}
    (h : tokenize text = .ok tokens) :
    ∃ words last, tokens = words ++ [last] ∧ (∀ token ∈ words, token.kind ≠ .eof) ∧
      last.kind = .eof := by
  obtain ⟨hf, rfl⟩ := tokenize_eq_ok_iff.1 h
  exact ⟨_, _, rfl, fun token ht => ((segmentation_scan hf).stands token ht).kind_ne_eof, rfl⟩

/-- The tokens of a text are the one way of cutting it into tokens that are as long as they can be
with nothing but blanks around them, closed by the token for the end. -/
theorem tokenize_eq_segmentation (text : String) (tokens : List Token)
    (h : tokenize text = .ok tokens) :
    ∃ words, tokens = words ++ [⟨.eof, ⟨text.utf8ByteSize, text.utf8ByteSize⟩⟩] ∧
      Segmentation text.toList words ∧
      (∀ token ∈ words, token.kind ≠ .eof ∧ token.span.start < token.span.stop ∧
        token.span.stop ≤ text.utf8ByteSize) ∧
      ∀ others, Segmentation text.toList others → others = words := by
  obtain ⟨hf, rfl⟩ := tokenize_eq_ok_iff.1 h
  have hs := segmentation_scan hf
  refine ⟨_, rfl, hs, fun token ht => ?_, fun others ho => ?_⟩
  · have hstands := hs.stands token ht
    refine ⟨hstands.kind_ne_eof, hstands.span_lt, ?_⟩
    rw [← String.ofList_toList (s := text), Text.utf8ByteSize_ofList]
    exact hstands.stop_le
  · exact (segmentation_iff_segments.1 ho).eq_scanFrom hf

theorem tokenize_eq_segmentation_escape :
    let text := " Not(a<=\"b\\\"\")"
    let words : List Token :=
      [⟨.not, ⟨1, 4⟩⟩, ⟨.lparen, ⟨4, 5⟩⟩, ⟨.identifier "a", ⟨5, 6⟩⟩, ⟨.comparison .le, ⟨6, 8⟩⟩,
        ⟨.string "b\"", ⟨8, 13⟩⟩, ⟨.rparen, ⟨13, 14⟩⟩]
    tokenize text = .ok (words ++ [⟨.eof, ⟨14, 14⟩⟩]) ∧ Segmentation text.toList words ∧
      ∀ others, Segmentation text.toList others → others = words := by
  intro text words
  have h : tokenize text = .ok (words ++ [⟨.eof, ⟨14, 14⟩⟩]) := by cbv
  obtain ⟨found, hw, hs, -, ho⟩ := tokenize_eq_segmentation _ _ h
  obtain rfl : words = found := List.append_cancel_right hw
  exact ⟨h, hs, ho⟩

end Lexer

end FilterSql
