import FilterSql.Proofs.Sql.Lexeme
import FilterSql.Sql.Select

namespace FilterSql.Sql

namespace Spelling

/-- A backend quotes a name as it stands in the statements that are written for it. -/
theorem identifier_ofBackend (b : Backend) (name : String) :
    (ofBackend b).identifier name = b.quoteIdentifier name := by
  have hmark : (ofBackend b).mark = b.quoteMark := by cases b <;> rfl
  rw [identifier, hmark, Text.replaceEach_eq_flatMap]
  rfl

theorem placeholder_ofBackend (b : Backend) (index : Nat) :
    (ofBackend b).placeholder index = b.placeholder index := by
  cases b <;> rfl

end Spelling

section Units

variable {b : Backend} {rest : List Char}

theorem scanFrom_identifier (name acc : List Char) :
    scanFrom b (.identifier acc)
        (name.flatMap (fun c => if c = b.quoteMark then [b.quoteMark, b.quoteMark] else [c]) ++
          b.quoteMark :: rest) =
      scanFrom b (.identifierMark (acc ++ name)) rest := by
  induction name generalizing acc with
  | nil => simp [scanFrom, Mode.extend?]
  | cons c name ih =>
    by_cases hc : c = b.quoteMark
    · subst hc
      simpa [scanFrom, Mode.extend?] using ih (acc ++ [b.quoteMark])
    · simpa [scanFrom, Mode.extend?, hc] using ih (acc ++ [c])

theorem scan_quoteIdentifier (name : String) (hr : Breaks rest) :
    scan b ((b.quoteIdentifier name).toList ++ rest) = .identifier name :: scan b rest := by
  have hopen : Mode.first b b.quoteMark = .identifier [] := by simp [Mode.first]
  have hleave : ∀ c ∈ rest.head?, (Mode.identifierMark name.toList).extend? b c = none :=
    fun c hc => extend?_break rfl (hr c hc)
  calc
    scan b ((b.quoteIdentifier name).toList ++ rest)
      = scanFrom b (.identifierMark ([] ++ name.toList)) rest := by
        rw [← scanFrom_identifier, ← hopen]
        simp [scan, scanFrom, Mode.extend?, Mode.finish, Backend.quoteIdentifier, quoteWith]
    _ = .identifier name :: scan b rest := by
        rw [List.nil_append, scanFrom_leave hleave]
        simp [Mode.finish]

theorem scanFrom_run {p : Char → Prop} {f : List Char → Mode}
    (hf : ∀ acc c, p c → (f acc).extend? b c = some (f (acc ++ [c]))) (cs acc : List Char)
    (hc : ∀ c ∈ cs, p c) : scanFrom b (f acc) (cs ++ rest) = scanFrom b (f (acc ++ cs)) rest := by
  induction cs generalizing acc with
  | nil => simp
  | cons c cs ih =>
    rw [List.cons_append, scanFrom_extend (hf acc c (hc c (by simp))),
      ih (acc ++ [c]) fun d h => hc d (by simp [h]), List.append_assoc, List.singleton_append]

theorem isDigit_of_mem_toString {n : Nat} {c : Char} (h : c ∈ (toString n).toList) :
    c.isDigit = true := by
  simp only [Nat.toString_eq_repr, Nat.toList_repr] at h
  exact Nat.isDigit_of_mem_toDigits (by decide) (by decide) h

theorem scan_placeholder (index : Nat) (hr : Breaks rest) :
    scan b ((b.placeholder index).toList ++ rest) =
      .placeholder (b.placeholder index) :: scan b rest := by
  have hleave (text : List Char) :
      scanFrom b (.placeholder text) rest = .placeholder (String.ofList text) :: scan b rest :=
    scanFrom_leave fun c hc => extend?_break rfl (hr c hc)
  cases b with
  | postgres =>
    calc
      scan .postgres ((Backend.postgres.placeholder index).toList ++ rest)
        = scanFrom .postgres (.placeholder ['$']) ((toString index).toList ++ rest) := by
          simp only [Backend.placeholder, String.toList_append, List.append_assoc]
          rfl
      _ = scanFrom .postgres (.placeholder (['$'] ++ (toString index).toList)) rest :=
          scanFrom_run (fun acc c hc => by simp [Mode.extend?, hc]) _ _
            fun c hc => isDigit_of_mem_toString hc
      _ = .placeholder (Backend.postgres.placeholder index) :: scan .postgres rest := by
          rw [hleave, String.ofList_append, String.ofList_toList]
          rfl
  | mysql =>
    calc
      scan .mysql ("?".toList ++ rest) = scanFrom .mysql (.placeholder ['?']) rest := rfl
      _ = .placeholder "?" :: scan .mysql rest := hleave ['?']
  | sqlite =>
    calc
      scan .sqlite ("?".toList ++ rest) = scanFrom .sqlite (.placeholder ['?']) rest := rfl
      _ = .placeholder "?" :: scan .sqlite rest := hleave ['?']

theorem first_digit {c : Char} (hc : c.isDigit = true) : Mode.first b c = .number [c] := by
  have hq : c ≠ b.quoteMark := by rintro rfl; cases b <;> cases hc
  have ha : c ≠ '\x27' := by rintro rfl; cases hc
  have hp : c ≠ placeholderSign b := by rintro rfl; cases b <;> cases hc
  simp [Mode.first, hq, ha, hp, hc]

theorem scan_number (n : Nat) (hr : Breaks rest) :
    scan b ((toString n).toList ++ rest) = .number (toString n) :: scan b rest := by
  obtain ⟨d, digits, hn⟩ : ∃ d digits, (toString n).toList = d :: digits := by
    simp only [Nat.toString_eq_repr, Nat.toList_repr]
    exact List.exists_cons_of_ne_nil Nat.toDigits_ne_nil
  have hd : ∀ c ∈ d :: digits, c.isDigit = true := fun c hc =>
    isDigit_of_mem_toString (hn ▸ hc)
  calc
    scan b ((toString n).toList ++ rest)
      = scanFrom b (.number [d]) (digits ++ rest) := by
        rw [hn, ← first_digit (hd d (by simp))]
        rfl
    _ = scanFrom b (.number ([d] ++ digits)) rest :=
        scanFrom_run (fun acc c hc => by simp [Mode.extend?, hc]) _ _
          fun c hc => hd c (by simp [hc])
    _ = .number (toString n) :: scan b rest := by
        rw [scanFrom_leave fun c hc => extend?_break rfl (hr c hc), List.singleton_append, ← hn]
        simp only [Mode.finish, String.ofList_toList, List.singleton_append]

def unescape (d : Char) : Char :=
  if d = '0' then '\x00'
  else if d = 'b' then '\x08'
  else if d = 't' then '\t'
  else if d = 'z' then '\x1a'
  else if d = 'n' then '\n'
  else if d = 'r' then '\r'
  else d

theorem escapeCharacter_cases (c : Char) :
    (∃ d, Backend.escapeCharacter c = ['\\', d] ∧ unescape d = c) ∨
      (Backend.escapeCharacter c = [c] ∧ c ≠ '\\' ∧ c ≠ '\x27') := by
  by_cases h : c ∈ ['\\', '"', '\x27', '\x00', '\x08', '\t', '\x1a', '\n', '\r']
  · simp only [List.mem_cons, List.not_mem_nil, or_false] at h
    rcases h with rfl | rfl | rfl | rfl | rfl | rfl | rfl | rfl | rfl
    all_goals exact .inl ⟨_, rfl, rfl⟩
  · simp only [List.mem_cons, List.not_mem_nil, or_false, not_or] at h
    exact .inr ⟨by simp only [Backend.escapeCharacter, h, if_false], h.1, h.2.2.1⟩

theorem scanFrom_escaped (cs acc : List Char) :
    scanFrom b (.constant true acc) (cs.flatMap Backend.escapeCharacter ++ '\x27' :: rest) =
      scanFrom b (.constantMark true (acc ++ cs.flatMap Backend.escapeCharacter)) rest := by
  induction cs generalizing acc with
  | nil => simp [scanFrom, Mode.extend?]
  | cons c cs ih =>
    rcases escapeCharacter_cases c with ⟨d, hd, -⟩ | ⟨hd, hb, ha⟩
    · simpa [hd, scanFrom, Mode.extend?] using ih (acc ++ ['\\', d])
    · simpa [hd, ha, hb, scanFrom, Mode.extend?] using ih (acc ++ [c])

theorem scanFrom_doubled (cs acc : List Char) :
    scanFrom b (.constant false acc)
        (cs.flatMap (fun c => if c = '\x27' then ['\x27', '\x27'] else [c]) ++ '\x27' :: rest) =
      scanFrom b (.constantMark false
        (acc ++ cs.flatMap fun c => if c = '\x27' then ['\x27', '\x27'] else [c])) rest := by
  induction cs generalizing acc with
  | nil => simp [scanFrom, Mode.extend?]
  | cons c cs ih =>
    by_cases hc : c = '\x27'
    · subst hc
      simpa [scanFrom, Mode.extend?] using ih (acc ++ ['\x27', '\x27'])
    · simpa [scanFrom, Mode.extend?, hc] using ih (acc ++ [c])

theorem ne_apostrophe_of_unescaped {cs : List Char}
    (h : '\\' ∉ cs.flatMap Backend.escapeCharacter) :
    ∀ c ∈ cs.flatMap Backend.escapeCharacter, c ≠ '\x27' := by
  intro c hc
  obtain ⟨d, hd, hc⟩ := List.mem_flatMap.1 hc
  rcases escapeCharacter_cases d with ⟨e, he, -⟩ | ⟨he, -, ha⟩
  · exact absurd (List.mem_flatMap.2 ⟨d, hd, by simp [he]⟩) h
  · rw [he, List.mem_singleton] at hc
    exact hc ▸ ha

def rawConstant : Backend → String → List Char
  | .sqlite, s => s.toList.flatMap fun c => if c = '\x27' then ['\x27', '\x27'] else [c]
  | _, s => s.toList.flatMap Backend.escapeCharacter

theorem scan_stringConstant (s : String) (hr : Breaks rest) :
    scan b ((b.stringConstant s).toList ++ rest) =
      .constant (String.ofList (rawConstant b s)) :: scan b rest := by
  have hleave (escapes : Bool) (raw : List Char) :
      scanFrom b (.constantMark escapes raw) rest = .constant (String.ofList raw) :: scan b rest :=
    scanFrom_leave fun c hc => extend?_break rfl (hr c hc)
  cases b with
  | postgres =>
    simp only [Backend.stringConstant]
    split
    -- behind E a backslash escapes, elsewhere it does not, and there is none
    · calc
        scan .postgres (("E" ++ Backend.escapedConstant s).toList ++ rest)
          = scanFrom .postgres (.constant true [])
              (s.toList.flatMap Backend.escapeCharacter ++ '\x27' :: rest) := by
            simp only [Backend.escapedConstant, String.toList_append, String.toList_ofList,
              List.append_assoc, List.cons_append, List.nil_append]
            rfl
        _ = _ := by rw [scanFrom_escaped, hleave]; rfl
    · next h =>
      calc
        scan .postgres ((Backend.escapedConstant s).toList ++ rest)
          = scanFrom .postgres (.constant false [])
              (s.toList.flatMap Backend.escapeCharacter ++ '\x27' :: rest) := by
            simp only [Backend.escapedConstant, String.toList_ofList, List.append_assoc,
              List.cons_append, List.nil_append]
            rfl
        _ = scanFrom .postgres (.constant false ([] ++ s.toList.flatMap Backend.escapeCharacter))
              ('\x27' :: rest) :=
            scanFrom_run (fun acc c hc => by simp [Mode.extend?, hc]) _ _
              (ne_apostrophe_of_unescaped h)
        _ = scanFrom .postgres (.constantMark false (rawConstant .postgres s)) rest := rfl
        _ = _ := hleave _ _
  | mysql =>
    calc
      scan .mysql ((Backend.escapedConstant s).toList ++ rest)
        = scanFrom .mysql (.constant true [])
            (s.toList.flatMap Backend.escapeCharacter ++ '\x27' :: rest) := by
          simp only [Backend.escapedConstant, String.toList_ofList, List.append_assoc,
            List.cons_append, List.nil_append]
          rfl
      _ = _ := by rw [scanFrom_escaped, hleave]; rfl
  | sqlite =>
    calc
      scan .sqlite ((quoteWith '\x27' s).toList ++ rest)
        = scanFrom .sqlite (.constant false [])
            (s.toList.flatMap (fun c => if c = '\x27' then ['\x27', '\x27'] else [c]) ++
              '\x27' :: rest) := by
          simp only [quoteWith, String.toList_ofList, List.append_assoc, List.cons_append,
            List.nil_append]
          rfl
      _ = _ := by rw [scanFrom_doubled, hleave]; rfl

end Units

def Piece.lexemes (b : Backend) (index : Nat) : Piece → List Lexeme
  | .word text => scan b text.toList
  | .identifier name => [.identifier name]
  | .constant s => [.constant (String.ofList (rawConstant b s))]
  | .number n => [.number (toString n)]
  | .bound _ => [.placeholder (b.placeholder index)]

/-- The units of pieces whose first placeholder has the number `index`. -/
def lexemesFrom (b : Backend) (index : Nat) : List Piece → List Lexeme
  | [] => []
  | piece :: rest => piece.lexemes b index ++ lexemesFrom b (piece.next index) rest

theorem lexemesFrom_word (b : Backend) (index : Nat) (text : String) (ps : List Piece) :
    lexemesFrom b index (.word text :: ps) = scan b text.toList ++ lexemesFrom b index ps := rfl

@[simp] theorem next_eq (index : Nat) (piece : Piece) :
    piece.next index = index + (params [piece]).length := by
  cases piece <;> rfl

theorem params_cons (piece : Piece) (ps : List Piece) :
    params (piece :: ps) = params [piece] ++ params ps :=
  params_append [piece] ps

theorem lexemesFrom_append (b : Backend) (index : Nat) (ps qs : List Piece) :
    lexemesFrom b index (ps ++ qs) =
      lexemesFrom b index ps ++ lexemesFrom b (index + (params ps).length) qs := by
  induction ps generalizing index with
  | nil => rfl
  | cons p ps ih =>
    simp only [List.cons_append, lexemesFrom, ih, next_eq, List.append_assoc, Nat.add_assoc]
    rw [params_cons p ps, List.length_append]

theorem spellFrom_append (b : Backend) (index : Nat) (ps qs : List Piece) :
    spellFrom b index (ps ++ qs) =
      spellFrom b index ps ++ spellFrom b (index + (params ps).length) qs := by
  induction ps generalizing index with
  | nil => simp [spellFrom, params]
  | cons p ps ih =>
    simp only [List.cons_append, spellFrom, ih, next_eq, String.append_assoc, Nat.add_assoc]
    rw [params_cons p ps, List.length_append]

/-- The text of the pieces is read piece by piece, if what follows ends the last unit. -/
def Readable (ps : List Piece) : Prop :=
  ∀ (b : Backend) (index : Nat) (rest : List Char), Breaks rest →
    scan b ((spellFrom b index ps).toList ++ rest) = lexemesFrom b index ps ++ scan b rest

def Begins : List Piece → Prop
  | [] => True
  | .word text :: _ => text.toList.head?.any isBreak = true
  | _ => False

theorem Begins.breaks {ps : List Piece} (h : Begins ps) (b : Backend) (index : Nat)
    {rest : List Char} (hr : Breaks rest) : Breaks ((spellFrom b index ps).toList ++ rest) := by
  match ps, h with
  | [], _ => simpa [spellFrom] using hr
  | .word text :: ps, h =>
    simp only [spellFrom, Piece.spell, String.toList_append, List.append_assoc]
    simp only [Begins] at h
    cases ht : text.toList with
    | nil => simp [ht] at h
    | cons c cs => simpa [Breaks, ht] using h

theorem Readable.scan_eq {ps : List Piece} (h : Readable ps) (b : Backend) (index : Nat) :
    scan b (spellFrom b index ps).toList = lexemesFrom b index ps := by
  have hnil := h b index [] breaks_nil
  rwa [List.append_nil, show scan b [] = [] from rfl, List.append_nil] at hnil

theorem readable_nil : Readable [] := by
  intro b index rest _
  simp [spellFrom, lexemesFrom]

theorem Readable.append {ps qs : List Piece} (hp : Readable ps) (hq : Readable qs)
    (hb : Begins qs) : Readable (ps ++ qs) := by
  intro b index rest hr
  rw [spellFrom_append, lexemesFrom_append, String.toList_append, List.append_assoc,
    hp b index _ (hb.breaks b _ hr), hq b _ rest hr, List.append_assoc]

theorem readable_singleton {piece : Piece}
    (h : ∀ (b : Backend) (index : Nat) (rest : List Char), Breaks rest →
      scan b ((piece.spell b index).toList ++ rest) = piece.lexemes b index ++ scan b rest) :
    Readable [piece] := by
  intro b index rest hr
  simpa [spellFrom, lexemesFrom] using h b index rest hr

theorem readable_identifier (name : String) : Readable [.identifier name] :=
  readable_singleton fun b _ _ hr => by
    rw [Piece.spell, Spelling.identifier_ofBackend]
    exact scan_quoteIdentifier name hr

theorem readable_constant (s : String) : Readable [.constant s] :=
  readable_singleton fun _ _ _ hr => scan_stringConstant s hr

theorem readable_number (n : Nat) : Readable [.number n] :=
  readable_singleton fun _ _ _ hr => scan_number n hr

theorem readable_bound (value : Value) : Readable [.bound value] :=
  readable_singleton fun b index _ hr => by
    rw [Piece.spell, Spelling.placeholder_ofBackend]
    exact scan_placeholder index hr

theorem readable_word {text : String} (h : text.toList.any isQuote = false) :
    Readable [.word text] :=
  readable_singleton fun _ _ _ hr => scanFrom_append rfl (by simpa [Piece.spell] using h) hr

/-- A word that ends with a break may stand before anything. -/
def Closes (text : String) : Prop :=
  text.toList.any isQuote = false ∧ text.toList.getLast?.any isBreak = true

theorem Readable.cons_word {text : String} {ps : List Piece} (h : Closes text)
    (hp : Readable ps) : Readable (.word text :: ps) := by
  intro b index rest hr
  obtain ⟨hq, hl⟩ := h
  obtain ⟨c, hc, hbreak⟩ := (Option.any_eq_true _ _).1 hl
  obtain ⟨cs, hcs⟩ := List.getLast?_eq_some_iff.1 hc
  have hquote : ∀ d ∈ cs, isQuote d = false := by
    rw [hcs, List.any_append, Bool.or_eq_false_iff] at hq
    simpa using hq.1
  calc
    scan b ((spellFrom b index (.word text :: ps)).toList ++ rest)
      = scan b (cs ++ c :: ((spellFrom b index ps).toList ++ rest)) := by
        simp [spellFrom, Piece.spell, Piece.next, hcs]
    _ = scan b text.toList ++ scan b ((spellFrom b index ps).toList ++ rest) := by
        rw [scan_append_of_break hquote hbreak, ← hcs]
    _ = lexemesFrom b index (.word text :: ps) ++ scan b rest := by
        rw [hp b index rest hr, ← List.append_assoc]
        rfl

end FilterSql.Sql
