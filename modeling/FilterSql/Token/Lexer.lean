import FilterSql.Error

namespace FilterSql

namespace Lexer

structure Cut where
  kind : TokenKind
  taken : List Char
  rest : List Char

structure Fault where
  offset : Nat
  cause : LexFault
  deriving DecidableEq, Repr

/-- A string from behind its opening quote: the text up to and with the closing quote, the content
it stands for, and what follows. -/
structure StringBody where
  raw : List Char
  content : List Char
  rest : List Char

inductive StringFault
  | unterminated
  | invalidEscape (offset : Nat) (c : Char)
  deriving DecidableEq, Repr

def StringBody.push (raw : List Char) (c : Char) (body : StringBody) : StringBody :=
  ⟨raw ++ body.raw, c :: body.content, body.rest⟩

def StringFault.shift (n : Nat) : StringFault → StringFault
  | .unterminated => .unterminated
  | .invalidEscape offset c => .invalidEscape (offset + n) c

def stringBody : List Char → Except StringFault StringBody
  | [] => .error .unterminated
  | '"' :: rest => .ok ⟨['"'], [], rest⟩
  | ['\\'] => .error .unterminated
  | '\\' :: c :: rest =>
    if c = '"' ∨ c = '\\' then
      match stringBody rest with
      | .ok body => .ok (body.push ['\\', c] c)
      | .error fault => .error (fault.shift 2)
    else .error (.invalidEscape 0 c)
  | c :: rest =>
    match stringBody rest with
    | .ok body => .ok (body.push [c] c)
    | .error fault => .error (fault.shift c.utf8Size)

theorem StringBody.append_rest {cs : List Char} {body : StringBody}
    (h : stringBody cs = .ok body) : body.raw ++ body.rest = cs := by
  fun_induction stringBody cs generalizing body with
  | case1 => simp at h
  | case2 => cases h; rfl
  | case3 => simp at h
  | case4 c rest hc inner hi ih => cases h; simp [push, ih hi]
  | case5 => simp at h
  | case6 => simp at h
  | case7 c rest _ _ _ inner hi ih => cases h; simp [push, ih hi]
  | case8 => simp at h

/-- The numeral at the head of a text: digits, and a point with digits if a digit follows the
point. -/
def numeral (cs : List Char) : List Char :=
  let whole := cs.takeWhile Char.isDigit
  match cs.dropWhile Char.isDigit with
  | '.' :: d :: rest =>
    if d.isDigit then whole ++ '.' :: (d :: rest).takeWhile Char.isDigit else whole
  | _ => whole

theorem numeral_isPrefix (cs : List Char) : numeral cs <+: cs := by
  have h : cs = cs.takeWhile Char.isDigit ++ cs.dropWhile Char.isDigit :=
    List.takeWhile_append_dropWhile.symm
  unfold numeral
  split
  · next d rest hd =>
    split
    · conv => rhs; rw [h, hd]
      exact (List.prefix_append_right_inj _).2 (List.cons_prefix_cons.2
        ⟨rfl, List.takeWhile_prefix _⟩)
    · exact List.takeWhile_prefix _
  · exact List.takeWhile_prefix _

theorem numeral_ne_nil {c : Char} (rest : List Char) (h : c.isDigit = true) :
    numeral (c :: rest) ≠ [] := by
  unfold numeral
  split
  · split <;> simp [h]
  · simp [h]

/-- Whether a numeral has a value: an integer of 64 bits, or a finite number if it has a point. -/
def inRange (numeral : List Char) : Bool :=
  if '.' ∈ numeral then (Binary64.read? numeral).isSome
  else (Text.readInt64 numeral).isOk

def wordKind (word : List Char) : TokenKind :=
  if Text.isWord "and" word then .and
  else if Text.isWord "or" word then .or
  else if Text.isWord "not" word then .not
  else .identifier (String.ofList word)

def cut (c : Char) (rest : List Char) : Except Fault Cut :=
  match c, rest with
  | '=', rest => .ok ⟨.comparison .eq, ['='], rest⟩
  | '(', rest => .ok ⟨.lparen, ['('], rest⟩
  | ')', rest => .ok ⟨.rparen, [')'], rest⟩
  | '<', '=' :: rest => .ok ⟨.comparison .le, ['<', '='], rest⟩
  | '<', rest => .ok ⟨.comparison .lt, ['<'], rest⟩
  | '>', '=' :: rest => .ok ⟨.comparison .ge, ['>', '='], rest⟩
  | '>', rest => .ok ⟨.comparison .gt, ['>'], rest⟩
  | '!', '=' :: rest => .ok ⟨.comparison .ne, ['!', '='], rest⟩
  | '!', _ => .error ⟨0, .loneBang⟩
  | '"', rest =>
    match stringBody rest with
    | .ok body => .ok ⟨.string (String.ofList body.content), '"' :: body.raw, body.rest⟩
    | .error .unterminated => .error ⟨0, .unterminatedString⟩
    | .error (.invalidEscape offset d) => .error ⟨offset + 1, .invalidEscape d⟩
  | c, rest =>
    if c.isDigit then
      let text := numeral (c :: rest)
      if inRange text then
        .ok ⟨.number (String.ofList text), text, (c :: rest).drop text.length⟩
      else .error ⟨0, .outOfRange (String.ofList text)⟩
    else if Text.isNameStart c then
      let word := c :: rest.takeWhile Text.isNameRest
      .ok ⟨wordKind word, word, rest.dropWhile Text.isNameRest⟩
    else .error ⟨0, .unexpectedCharacter c⟩

theorem cut_append {c : Char} {rest : List Char} {k : Cut} (h : cut c rest = .ok k) :
    k.taken ++ k.rest = c :: rest := by
  unfold cut at h
  split at h
  · cases h; rfl
  · cases h; rfl
  · cases h; rfl
  · cases h; rfl
  · cases h; rfl
  · cases h; rfl
  · cases h; rfl
  · cases h; rfl
  · cases h
  · split at h
    · next body hb => cases h; simp [StringBody.append_rest hb]
    · cases h
    · cases h
  · split at h
    · dsimp only at h
      split at h
      · cases h
        exact List.prefix_iff_eq_append.1 (numeral_isPrefix _)
      · cases h
    · split at h
      · cases h; simp
      · cases h

theorem cut_taken_ne_nil {c : Char} {rest : List Char} {k : Cut} (h : cut c rest = .ok k) :
    k.taken ≠ [] := by
  unfold cut at h
  split at h
  · cases h; simp
  · cases h; simp
  · cases h; simp
  · cases h; simp
  · cases h; simp
  · cases h; simp
  · cases h; simp
  · cases h; simp
  · cases h
  · split at h
    · cases h; simp
    · cases h
    · cases h
  · split at h
    · next hd =>
      dsimp only at h
      split at h
      · cases h; exact numeral_ne_nil _ hd
      · cases h
    · split at h
      · cases h; simp
      · cases h

theorem cut_rest_length {c : Char} {rest : List Char} {k : Cut} (h : cut c rest = .ok k) :
    k.rest.length ≤ rest.length := by
  have ha := congrArg List.length (cut_append h)
  have hn := List.length_pos_iff.2 (cut_taken_ne_nil h)
  simp at ha
  omega

structure Scan where
  tokens : List Token
  fault : Option QueryError
  deriving DecidableEq, Repr

def scanFrom (position : Nat) (cs : List Char) : Scan :=
  let start := position + Text.width (cs.takeWhile Text.isBlank)
  match _h : cs.dropWhile Text.isBlank with
  | [] => ⟨[], none⟩
  | c :: rest =>
    match _hk : cut c rest with
    | .error fault => ⟨[], some (.lex (start + fault.offset) fault.cause)⟩
    | .ok k =>
      let stop := start + Text.width k.taken
      let following := scanFrom stop k.rest
      ⟨⟨k.kind, ⟨start, stop⟩⟩ :: following.tokens, following.fault⟩
termination_by cs.length
decreasing_by
  have h₁ := cut_rest_length _hk
  have h₂ := (List.dropWhile_suffix Text.isBlank (l := cs)).length_le
  rw [_h] at h₂
  simp at h₂
  omega

def scan (text : String) : Scan := scanFrom 0 text.toList

end Lexer

def tokenize (text : String) : Except QueryError (List Token) :=
  let scanned := Lexer.scan text
  match scanned.fault with
  | some error => .error error
  | none =>
    let size := text.utf8ByteSize
    .ok (scanned.tokens ++ [⟨.eof, ⟨size, size⟩⟩])

end FilterSql
