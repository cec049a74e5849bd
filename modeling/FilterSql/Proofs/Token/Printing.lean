import FilterSql.Proofs.Numeral
import FilterSql.Proofs.Token.Layout

namespace FilterSql

namespace Lexer

def escape : List Char → List Char
  | [] => []
  | c :: content => if c = '"' ∨ c = '\\' then '\\' :: c :: escape content else c :: escape content

theorem quoted_escape (content : List Char) : Quoted (escape content) content := by
  induction content with
  | nil => exact .nil
  | cons c content ih =>
    rw [escape]
    split
    · next h => exact .escaped h ih
    · next h => exact .plain (fun hc => h (.inl hc)) (fun hc => h (.inr hc)) ih

end Lexer

namespace TokenKind

open Lexer

def written : TokenKind → List Char
  | .and => ['A', 'N', 'D']
  | .or => ['O', 'R']
  | .not => ['N', 'O', 'T']
  | .identifier name => name.toList
  | .string content => '"' :: escape content.toList ++ ['"']
  | .number numeral => numeral.toList
  | .lparen => ['(']
  | .rparen => [')']
  | .comparison op => op.symbol.toList
  | .eof => []

def Writable : TokenKind → Prop
  | .identifier name => IsName name.toList ∧
      ∀ keyword ∈ ["and", "or", "not"], Text.isWord keyword name.toList = false
  | .number numeral => IsNumeral numeral.toList ∧ Representable numeral.toList
  | .eof => False
  | _ => True

theorem spells_written {kind : TokenKind} (h : kind.Writable) : Spells kind.written kind := by
  cases kind with
  | and => exact .and (by decide)
  | or => exact .or (by decide)
  | not => exact .not (by decide)
  | identifier name => simpa [written] using Spells.identifier h.1 h.2
  | string content => simpa [written] using Spells.string (quoted_escape content.toList)
  | number numeral => simpa [written] using Spells.number h.1
  | lparen => exact .lparen
  | rparen => exact .rparen
  | comparison op => exact .comparison op
  | eof => exact h.elim

end TokenKind

namespace Lexer

/-- A token in its written form, keywords in any case, with the blanks behind it. -/
structure Word where
  kind : TokenKind
  slice : List Char
  blanks : List Char
  writable : kind.Writable
  same : SameWord kind kind.written slice
  blank : ∀ c ∈ blanks, Text.isBlank c = true

def Word.of (kind : TokenKind) (blanks : List Char) (writable : kind.Writable)
    (blank : ∀ c ∈ blanks, Text.isBlank c = true) : Word :=
  ⟨kind, kind.written, blanks, writable, .inl rfl, blank⟩

def Separated (words : List Word) : Prop := ∀ word ∈ words.dropLast, word.blanks ≠ []

def spread (words : List Word) : List Char :=
  words.flatMap fun word => word.slice ++ word.blanks

theorem Separated.tail {word : Word} {words : List Word} (h : Separated (word :: words)) :
    Separated words := by
  cases words with
  | nil => simp [Separated]
  | cons next words =>
    intro other ho
    exact h other (List.mem_cons_of_mem word ho)

theorem Separated.head {word : Word} {words : List Word} (h : Separated (word :: words)) :
    ∀ c ∈ (word.blanks ++ spread words).head?, Text.isBlank c = true := by
  intro c hc
  cases hb : word.blanks with
  | cons b blanks =>
    rw [hb, List.cons_append, List.head?_cons, Option.mem_some] at hc
    exact word.blank c (by simp [hb, hc])
  | nil =>
    cases words with
    | nil => simp [hb, spread] at hc
    | cons next words => exact absurd hb (h word List.mem_cons_self)

/-- No token that is longer than one character goes on behind it. -/
def Stops (after : List Char) : Prop :=
  ∀ c ∈ after.head?, Text.isNameRest c = false ∧ c.isDigit = false ∧ c ≠ '=' ∧ c ≠ '.'

theorem stops_of_blank {after : List Char} (h : ∀ c ∈ after.head?, Text.isBlank c = true) :
    Stops after := fun c hc => Text.isBlank_class (h c hc)

theorem Stops.not_continues {w after : List Char} {kind : TokenKind} (h : Stops after) :
    ¬Continues w after kind := by
  have hhead {p : Char → Bool} (hp : ∀ c ∈ after.head?, p c = false) :
      ¬∃ c ∈ after.head?, p c = true := by
    rintro ⟨c, hc, hpc⟩
    rw [hp c hc] at hpc
    cases hpc
  have hequals : after.head? ≠ some '=' := fun he => (h _ he).2.2.1 rfl
  cases kind with
  | and | or | not | identifier => exact hhead fun c hc => (h c hc).1
  | number numeral =>
    rintro (hd | ⟨-, d, rest, rfl, -⟩)
    · exact hhead (fun c hc => (h c hc).2.1) hd
    · exact (h '.' rfl).2.2.2 rfl
  | comparison op =>
    cases op with
    | lt | gt => exact hequals
    | _ => exact id
  | _ => exact id

theorem Word.cut_eq (word : Word) {after : List Char} (h : ¬Continues word.slice after word.kind) :
    ∃ c w, word.slice = c :: w ∧ Text.isBlank c = false ∧
      cut c (w ++ after) = .ok ⟨word.kind, word.slice, after⟩ := by
  have hs := word.same.spells (TokenKind.spells_written word.writable)
  obtain ⟨c, w, hw, hblank⟩ := hs.not_blank
  refine ⟨c, w, hw, hblank, ?_⟩
  rw [hw] at hs h ⊢
  obtain hk | ⟨-, hkind, hrange⟩ := cut_of_spells hs h
  · exact hk
  · have hvalue := word.writable
    rw [hkind, TokenKind.Writable, String.toList_ofList] at hvalue
    rw [(inRange_iff hvalue.1).2 hvalue.2] at hrange
    cases hrange

def ReadsAs (cs : List Char) (kinds : List TokenKind) : Prop :=
  ∀ position, (scanFrom position cs).fault = none ∧
    (scanFrom position cs).tokens.map Token.kind = kinds

theorem readsAs_blanks {blanks : List Char} (hb : ∀ c ∈ blanks, Text.isBlank c = true) :
    ReadsAs blanks [] := by
  intro position
  rw [scanFrom_blanks hb]
  exact ⟨rfl, rfl⟩

theorem ReadsAs.word {blanks after : List Char} {kinds : List TokenKind} (h : ReadsAs after kinds)
    (word : Word) (hc : ¬Continues word.slice after word.kind)
    (hb : ∀ c ∈ blanks, Text.isBlank c = true) :
    ReadsAs (blanks ++ (word.slice ++ after)) (word.kind :: kinds) := by
  intro position
  obtain ⟨c, w, hw, hblank, hcut⟩ := word.cut_eq hc
  obtain ⟨hfault, hkinds⟩ := h (position + Text.width blanks + Text.width word.slice)
  rw [hw, List.cons_append, scanFrom_cut hb hblank hcut]
  exact ⟨hfault, congrArg (word.kind :: ·) hkinds⟩

theorem scanFrom_spread {words : List Word} (hsep : Separated words) {blanks : List Char}
    (hb : ∀ c ∈ blanks, Text.isBlank c = true) :
    ReadsAs (blanks ++ spread words) (words.map Word.kind) := by
  induction words generalizing blanks with
  | nil =>
    rw [spread, List.flatMap_nil, List.append_nil]
    exact readsAs_blanks hb
  | cons word words ih =>
    rw [spread, List.flatMap_cons, List.append_assoc word.slice]
    exact (ih hsep.tail word.blank).word word (stops_of_blank hsep.head).not_continues hb

end Lexer

open Lexer in
/-- Tokens that are written with blanks between them are read again. -/
theorem tokenize_spread (blanks : List Char) (words : List Word)
    (hb : ∀ c ∈ blanks, Text.isBlank c = true) (hsep : Separated words) :
    ∃ tokens, tokenize (String.ofList (blanks ++ spread words)) = .ok tokens ∧
      tokens.map Token.kind = words.map Word.kind ++ [.eof] := by
  obtain ⟨hfault, hkinds⟩ := scanFrom_spread hsep hb 0
  rw [← String.toList_ofList (l := blanks ++ spread words)] at hfault hkinds
  refine ⟨_, tokenize_eq_ok_iff.2 ⟨hfault, rfl⟩, ?_⟩
  rw [List.map_append, scan, hkinds]
  rfl

open Lexer in
theorem tokenize_spread_limits :
    let string := Word.of (.string "\\\"é") [' '] trivial (List.all_eq_true.1 rfl)
    let keyword : Word :=
      ⟨.and, ['a', 'N', 'd'], ['\u3000'], trivial, .inr ⟨rfl, rfl⟩, List.all_eq_true.1 rfl⟩
    ∃ h : (TokenKind.number "9223372036854775807").Writable,
      let words := [string, keyword,
        .of (.number "9223372036854775807") [] h (List.forall_mem_nil _)]
      Separated words ∧
        String.ofList ([' '] ++ spread words) = " \"\\\\\\\"é\" aNd\u30009223372036854775807" ∧
        ∃ tokens, tokenize (String.ofList ([' '] ++ spread words)) = .ok tokens ∧
          tokens.map Token.kind =
            [.string "\\\"é", .and, .number "9223372036854775807", .eof] := by
  intro string keyword
  have hlist : "9223372036854775807".toList = '9' :: "223372036854775807".toList := by simp
  have hn : IsNumeral "9223372036854775807".toList := hlist ▸ .whole (by decide) (by simp)
  refine ⟨⟨hn, (inRange_iff hn).1 (by cbv)⟩, ?_⟩
  intro words
  have hsep : Separated words := by
    intro word hw
    rcases List.mem_cons.1 hw with rfl | hw
    · exact List.cons_ne_nil _ _
    · obtain rfl := List.mem_singleton.1 hw
      exact List.cons_ne_nil _ _
  exact ⟨hsep, by cbv, tokenize_spread _ words (List.all_eq_true.1 rfl) hsep⟩

end FilterSql
