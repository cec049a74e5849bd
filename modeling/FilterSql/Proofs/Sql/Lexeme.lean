import FilterSql.Sql.Piece

namespace FilterSql.Sql

/-- A unit of SQL text; a constant as it stands between its marks. -/
inductive Lexeme
  | word (text : String)
  | number (digits : String)
  | identifier (name : String)
  | constant (raw : String)
  | placeholder (text : String)
  | comparison (op : Comparison)
  | symbol (c : Char)
  | unclosed
  deriving DecidableEq, Repr

/-- What is read of the unit at hand. A mark inside a name or a constant may end it. -/
inductive Mode
  | between
  | word (text : List Char)
  | number (digits : List Char)
  | placeholder (text : List Char)
  | comparison (op : Comparison)
  | symbol (c : Char)
  | identifier (name : List Char)
  | identifierMark (name : List Char)
  | constant (escapes : Bool) (raw : List Char)
  | constantEscape (raw : List Char)
  | constantMark (escapes : Bool) (raw : List Char)
  deriving DecidableEq, Repr

def placeholderSign : Backend → Char
  | .postgres => '$'
  | .mysql => '?'
  | .sqlite => '?'

namespace Mode

def first (b : Backend) (c : Char) : Mode :=
  if c = b.quoteMark then identifier []
  else if c = '\x27' then constant (b == .mysql) []
  else if c = placeholderSign b then placeholder [c]
  else if c.isDigit then number [c]
  else if Text.isNameStart c then word [c]
  else if c = '=' then comparison .eq
  else if c = '<' then comparison .lt
  else if c = '>' then comparison .gt
  else if c.isWhitespace then between
  else symbol c

def extend? (b : Backend) (c : Char) : Mode → Option Mode
  | between => none
  | word text =>
    if Text.isNameRest c then some (word (text ++ [c]))
    else if b = .postgres ∧ text = ['E'] ∧ c = '\x27' then some (constant true [])
    else none
  | number digits => if c.isDigit then some (number (digits ++ [c])) else none
  | placeholder text => if c.isDigit then some (placeholder (text ++ [c])) else none
  | comparison .lt =>
    if c = '=' then some (comparison .le) else if c = '>' then some (comparison .ne) else none
  | comparison .gt => if c = '=' then some (comparison .ge) else none
  | comparison _ => none
  | symbol _ => none
  | identifier name =>
    some (if c = b.quoteMark then identifierMark name else identifier (name ++ [c]))
  | identifierMark name => if c = b.quoteMark then some (identifier (name ++ [c])) else none
  | constant escapes raw =>
    some (
      if c = '\x27' then constantMark escapes raw
      else if escapes ∧ c = '\\' then constantEscape raw
      else constant escapes (raw ++ [c]))
  | constantEscape raw => some (constant true (raw ++ ['\\', c]))
  | constantMark escapes raw => if c = '\x27' then some (constant escapes (raw ++ [c, c])) else none

def finish : Mode → List Lexeme
  | between => []
  | word text => [.word (String.ofList text)]
  | number digits => [.number (String.ofList digits)]
  | placeholder text => [.placeholder (String.ofList text)]
  | comparison op => [.comparison op]
  | symbol c => [.symbol c]
  | identifierMark name => [.identifier (String.ofList name)]
  | constantMark _ raw => [.constant (String.ofList raw)]
  | identifier _ => [.unclosed]
  | constant _ _ => [.unclosed]
  | constantEscape _ => [.unclosed]

end Mode

def scanFrom (b : Backend) : Mode → List Char → List Lexeme
  | m, [] => m.finish
  | m, c :: cs =>
    match m.extend? b c with
    | some m => scanFrom b m cs
    | none => m.finish ++ scanFrom b (Mode.first b c) cs

def scan (b : Backend) (sql : List Char) : List Lexeme := scanFrom b .between sql

theorem scanFrom_extend {b : Backend} {m m' : Mode} {c : Char} {cs : List Char}
    (h : m.extend? b c = some m') : scanFrom b m (c :: cs) = scanFrom b m' cs := by
  simp only [scanFrom, h]

theorem scanFrom_leave {b : Backend} {m : Mode} {cs : List Char}
    (h : ∀ c ∈ cs.head?, m.extend? b c = none) : scanFrom b m cs = m.finish ++ scan b cs := by
  cases cs with
  | nil => simp [scanFrom, scan, Mode.finish]
  | cons c cs =>
    have hc : m.extend? b c = none := h c rfl
    simp only [scan, scanFrom, hc]
    rfl

/-- The characters that end every unit before them and are units, or blanks, of their own. -/
def isBreak (c : Char) : Bool := c ∈ [' ', '(', ')', ',', '.', '*']

def isQuote (c : Char) : Bool := c ∈ ['"', '\x60', '\x27']

def Breaks (cs : List Char) : Prop := ∀ c ∈ cs.head?, isBreak c = true

theorem breaks_nil : Breaks [] := by simp [Breaks]

def Mode.isSettled : Mode → Bool
  | .identifier _ => false
  | .constant _ _ => false
  | .constantEscape _ => false
  | _ => true

theorem ne_quoteMark {b : Backend} {c : Char} (h : isQuote c = false) : c ≠ b.quoteMark := by
  rintro rfl
  cases b <;> cases h

theorem ne_apostrophe {c : Char} (h : isQuote c = false) : c ≠ '\x27' := by
  rintro rfl
  cases h

theorem isBreak_cases {c : Char} (h : isBreak c = true) :
    c = ' ' ∨ c = '(' ∨ c = ')' ∨ c = ',' ∨ c = '.' ∨ c = '*' := by
  simpa [isBreak] using h

theorem isBreak_class {c : Char} (h : isBreak c = true) :
    isQuote c = false ∧ c.isDigit = false ∧ Text.isNameRest c = false ∧ c ≠ '=' ∧ c ≠ '>' := by
  rcases isBreak_cases h with rfl | rfl | rfl | rfl | rfl | rfl <;> decide

theorem extend?_break {b : Backend} {m : Mode} {c : Char} (hm : m.isSettled = true)
    (hc : isBreak c = true) : m.extend? b c = none := by
  obtain ⟨hq, hd, hn, he, hg⟩ := isBreak_class hc
  cases m with
  | between => rfl
  | word text => simp [Mode.extend?, hn, ne_apostrophe hq]
  | number digits => simp [Mode.extend?, hd]
  | placeholder text => simp [Mode.extend?, hd]
  | comparison op => cases op <;> simp [Mode.extend?, he, hg]
  | symbol _ => rfl
  | identifierMark name => simp [Mode.extend?, ne_quoteMark hq]
  | constantMark escapes raw => simp [Mode.extend?, ne_apostrophe hq]
  | identifier _ => cases hm
  | constant _ _ => cases hm
  | constantEscape _ => cases hm

theorem first_break {b : Backend} {c : Char} (hc : isBreak c = true) :
    Mode.first b c = .between ∨ Mode.first b c = .symbol c := by
  rcases isBreak_cases hc with rfl | rfl | rfl | rfl | rfl | rfl <;> cases b <;> decide

theorem first_isSettled {b : Backend} {c : Char} (hc : isQuote c = false) :
    (Mode.first b c).isSettled = true := by
  unfold Mode.first
  rw [if_neg (ne_quoteMark hc), if_neg (ne_apostrophe hc)]
  repeat' split
  all_goals rfl

theorem extend?_isSettled {b : Backend} {m m' : Mode} {c : Char} (hm : m.isSettled = true)
    (hc : isQuote c = false) (h : m.extend? b c = some m') : m'.isSettled = true := by
  cases m with
  | between => cases h
  | word text =>
    simp only [Mode.extend?, ne_apostrophe hc, and_false, if_false] at h
    split at h <;> cases h
    rfl
  | number digits =>
    simp only [Mode.extend?] at h
    split at h <;> cases h
    rfl
  | placeholder text =>
    simp only [Mode.extend?] at h
    split at h <;> cases h
    rfl
  | comparison op =>
    cases op with
    | lt =>
      simp only [Mode.extend?] at h
      split at h
      · cases h; rfl
      · split at h <;> cases h
        rfl
    | gt =>
      simp only [Mode.extend?] at h
      split at h <;> cases h
      rfl
    | _ => cases h
  | symbol _ => cases h
  | identifierMark name => simp [Mode.extend?, ne_quoteMark hc] at h
  | constantMark escapes raw => simp [Mode.extend?, ne_apostrophe hc] at h
  | identifier _ => cases hm
  | constant _ _ => cases hm
  | constantEscape _ => cases hm

theorem scanFrom_append {b : Backend} {m : Mode} {cs rest : List Char}
    (hm : m.isSettled = true) (hc : ∀ c ∈ cs, isQuote c = false) (hr : Breaks rest) :
    scanFrom b m (cs ++ rest) = scanFrom b m cs ++ scan b rest := by
  induction cs generalizing m with
  | nil => exact scanFrom_leave fun c h => extend?_break hm (hr c h)
  | cons c cs ih =>
    have hq := hc c (by simp)
    have hcs : ∀ c ∈ cs, isQuote c = false := fun d hd => hc d (by simp [hd])
    simp only [List.cons_append, scanFrom]
    split
    · next h => exact ih (extend?_isSettled hm hq h) hcs
    · rw [ih (first_isSettled hq) hcs, List.append_assoc]

theorem scan_break_cons {b : Backend} {c : Char} {rest : List Char} (hc : isBreak c = true) :
    scan b (c :: rest) = scan b [c] ++ scan b rest := by
  have hf : ∀ d, (Mode.first b c).extend? b d = none := by
    intro d
    rcases first_break (b := b) hc with h | h <;> rw [h] <;> rfl
  have hl (cs : List Char) : scan b (c :: cs) = (Mode.first b c).finish ++ scan b cs :=
    scanFrom_leave fun d _ => hf d
  rw [hl rest, hl []]
  simp [scan, scanFrom, Mode.finish]

/-- Text that closes its last unit itself is read apart from whatever follows it. -/
theorem scan_append_of_break {b : Backend} {cs rest : List Char} {c : Char}
    (hcs : ∀ d ∈ cs, isQuote d = false) (hc : isBreak c = true) :
    scan b (cs ++ c :: rest) = scan b (cs ++ [c]) ++ scan b rest := by
  have hb (ds : List Char) : Breaks (c :: ds) := by simpa [Breaks] using hc
  have hs (ds : List Char) : scan b (cs ++ c :: ds) = scan b cs ++ scan b (c :: ds) :=
    scanFrom_append rfl hcs (hb ds)
  rw [hs rest, hs [], scan_break_cons hc, List.append_assoc]

end FilterSql.Sql
