import FilterSql.Text.Numeral

namespace FilterSql.Json

inductive Token
  | lbrace
  | rbrace
  | lbracket
  | rbracket
  | colon
  | comma
  | null
  | bool (b : Bool)
  | number (numeral : String)
  | string (text : Option String)
  deriving DecidableEq, Repr

def isBlank (c : Char) : Bool := c == ' ' || c == '\t' || c == '\n' || c == '\r'

def hexDigit? (c : Char) : Option Nat :=
  if '0' ≤ c ∧ c ≤ '9' then some (c.toNat - '0'.toNat)
  else if 'a' ≤ c ∧ c ≤ 'f' then some (c.toNat - 'a'.toNat + 10)
  else if 'A' ≤ c ∧ c ≤ 'F' then some (c.toNat - 'A'.toNat + 10)
  else none

def code? (a b c d : Char) : Option Nat := do
  return (((← hexDigit? a) * 16 + (← hexDigit? b)) * 16 + (← hexDigit? c)) * 16 + (← hexDigit? d)

inductive Part
  | char (c : Char)
  | code (n : Nat)
  deriving DecidableEq, Repr

def escaped? (c : Char) : Option Char :=
  if c = '"' ∨ c = '\\' ∨ c = '/' then some c
  else if c = 'b' then some '\x08'
  else if c = 'f' then some '\x0c'
  else if c = 'n' then some '\n'
  else if c = 'r' then some '\r'
  else if c = 't' then some '\t'
  else none

def parts : List Char → Option (List Part × List Char)
  | [] => none
  | '"' :: rest => some ([], rest)
  | '\\' :: 'u' :: a :: b :: c :: d :: rest => do
    let n ← code? a b c d
    let (ps, rest) ← parts rest
    return (.code n :: ps, rest)
  | '\\' :: c :: rest => do
    let c ← escaped? c
    let (ps, rest) ← parts rest
    return (.char c :: ps, rest)
  | c :: rest =>
    if c = '\\' ∨ c.toNat < 0x20 then none
    else do
      let (ps, rest) ← parts rest
      return (.char c :: ps, rest)

def isLead (n : Nat) : Bool := 0xd800 ≤ n && n ≤ 0xdbff

def isTrail (n : Nat) : Bool := 0xdc00 ≤ n && n ≤ 0xdfff

/-- The text of the parts of a string: a lead and a trail surrogate together give a character, and
neither stands alone. -/
def assemble : List Part → Option (List Char)
  | [] => some []
  | .char c :: ps => do return c :: (← assemble ps)
  | .code n :: .code m :: ps =>
    if isLead n then
      if isTrail m then do
        return Char.ofNat (0x10000 + (n - 0xd800) * 0x400 + (m - 0xdc00)) :: (← assemble ps)
      else none
    else if isTrail n then none
    else do return Char.ofNat n :: (← assemble (.code m :: ps))
  | .code n :: ps =>
    if isLead n || isTrail n then none else do return Char.ofNat n :: (← assemble ps)

def someDigits (cs : List Char) : Option (List Char × List Char) :=
  let ds := cs.takeWhile Char.isDigit
  if ds.isEmpty then none else some (ds, cs.dropWhile Char.isDigit)

def wholePart : List Char → Option (List Char × List Char)
  | '0' :: rest => some (['0'], rest)
  | cs => someDigits cs

def fractionPart : List Char → Option (List Char × List Char)
  | '.' :: rest => do
    let (ds, rest) ← someDigits rest
    return ('.' :: ds, rest)
  | cs => some ([], cs)

def signPart : List Char → List Char × List Char
  | '+' :: rest => (['+'], rest)
  | '-' :: rest => (['-'], rest)
  | cs => ([], cs)

def exponentPart : List Char → Option (List Char × List Char)
  | [] => some ([], [])
  | e :: rest =>
    if e = 'e' ∨ e = 'E' then do
      let (sign, rest) := signPart rest
      let (ds, rest) ← someDigits rest
      return (e :: sign ++ ds, rest)
    else some ([], e :: rest)

def numeral (cs : List Char) : Option (List Char × List Char) := do
  let (sign, cs) : List Char × List Char :=
    match cs with
    | '-' :: rest => (['-'], rest)
    | cs => ([], cs)
  let (whole, cs) ← wholePart cs
  let (fraction, cs) ← fractionPart cs
  let (exponent, cs) ← exponentPart cs
  return (sign ++ whole ++ fraction ++ exponent, cs)

def cut : List Char → Option (Token × List Char)
  | '\x7b' :: rest => some (.lbrace, rest)
  | '\x7d' :: rest => some (.rbrace, rest)
  | '[' :: rest => some (.lbracket, rest)
  | ']' :: rest => some (.rbracket, rest)
  | ':' :: rest => some (.colon, rest)
  | ',' :: rest => some (.comma, rest)
  | 'n' :: 'u' :: 'l' :: 'l' :: rest => some (.null, rest)
  | 't' :: 'r' :: 'u' :: 'e' :: rest => some (.bool true, rest)
  | 'f' :: 'a' :: 'l' :: 's' :: 'e' :: rest => some (.bool false, rest)
  | '"' :: rest => do
    let (ps, rest) ← parts rest
    return (.string ((assemble ps).map String.ofList), rest)
  | cs => do
    let (ds, rest) ← numeral cs
    return (.number (String.ofList ds), rest)

theorem parts_length {cs : List Char} {ps : List Part} {rest : List Char}
    (h : parts cs = some (ps, rest)) : rest.length < cs.length := by
  fun_induction parts cs generalizing ps rest with
  | case1 => simp at h
  | case2 => simp at h; grind
  | case3 a b c d tail ih =>
    simp only [bind, Option.bind_eq_some_iff, Prod.exists, Option.pure_def, Option.some.injEq,
      Prod.mk.injEq] at h
    obtain ⟨n, _, ps', rest', h', _, rfl⟩ := h
    have := ih h'
    simp
    omega
  | case4 c tail _ ih =>
    simp only [bind, Option.bind_eq_some_iff, Prod.exists, Option.pure_def, Option.some.injEq,
      Prod.mk.injEq] at h
    obtain ⟨n, _, ps', rest', h', _, rfl⟩ := h
    have := ih h'
    simp
    omega
  | case5 => simp at h
  | case6 c tail _ _ _ _ ih =>
    simp only [bind, Option.bind_eq_some_iff, Prod.exists, Option.pure_def, Option.some.injEq,
      Prod.mk.injEq] at h
    obtain ⟨ps', rest', h', _, rfl⟩ := h
    have := ih h'
    simp
    omega

theorem someDigits_length {cs ds rest : List Char} (h : someDigits cs = some (ds, rest)) :
    rest.length < cs.length := by
  have hl := congrArg List.length (List.takeWhile_append_dropWhile (p := Char.isDigit) (l := cs))
  simp only [someDigits] at h
  split at h
  · simp at h
  · next hne =>
    simp only [Option.some.injEq, Prod.mk.injEq] at h
    have := List.length_pos_iff.2 fun he => hne (List.isEmpty_iff.2 he)
    simp only [List.length_append] at hl
    rw [← h.2]
    omega

theorem wholePart_length {cs ds rest : List Char} (h : wholePart cs = some (ds, rest)) :
    rest.length < cs.length := by
  unfold wholePart at h
  split at h
  · grind
  · exact someDigits_length h

theorem fractionPart_length {cs ds rest : List Char} (h : fractionPart cs = some (ds, rest)) :
    rest.length ≤ cs.length := by
  unfold fractionPart at h
  split at h
  · simp only [bind, Option.bind_eq_some_iff, Prod.exists, Option.pure_def, Option.some.injEq,
      Prod.mk.injEq] at h
    obtain ⟨_, _, h', _, rfl⟩ := h
    have := someDigits_length h'
    simp
    omega
  · grind

theorem signPart_length (cs : List Char) : (signPart cs).2.length ≤ cs.length := by
  unfold signPart
  split <;> simp

theorem exponentPart_length {cs ds rest : List Char} (h : exponentPart cs = some (ds, rest)) :
    rest.length ≤ cs.length := by
  unfold exponentPart at h
  split at h
  · grind
  · next e tail =>
    split at h
    · simp only [bind, Option.bind_eq_some_iff, Prod.exists, Option.pure_def, Option.some.injEq,
        Prod.mk.injEq] at h
      obtain ⟨_, _, h', _, rfl⟩ := h
      have := someDigits_length h'
      have := signPart_length tail
      simp
      omega
    · grind

theorem numeral_length {cs ds rest : List Char} (h : numeral cs = some (ds, rest)) :
    rest.length < cs.length := by
  unfold numeral at h
  simp only [bind, Option.bind_eq_some_iff, Prod.exists, Option.pure_def, Option.some.injEq,
    Prod.mk.injEq] at h
  obtain ⟨_, _, hw, _, _, hf, _, _, he, _, rfl⟩ := h
  have h₁ := wholePart_length hw
  have h₂ := fractionPart_length hf
  have h₃ := exponentPart_length he
  split at h₁
  · simp at h₁ ⊢; omega
  · simp at h₁ ⊢; omega

theorem cut_length {cs : List Char} {token : Token} {rest : List Char}
    (h : cut cs = some (token, rest)) : rest.length < cs.length := by
  unfold cut at h
  split at h
  case h_10 =>
    simp only [bind, Option.bind_eq_some_iff, Prod.exists, Option.pure_def, Option.some.injEq,
      Prod.mk.injEq] at h
    obtain ⟨_, _, h', _, rfl⟩ := h
    have := parts_length h'
    simp
    omega
  case h_11 =>
    simp only [bind, Option.bind_eq_some_iff, Prod.exists, Option.pure_def, Option.some.injEq,
      Prod.mk.injEq] at h
    obtain ⟨_, _, h', _, rfl⟩ := h
    exact numeral_length h'
  all_goals
    simp only [Option.some.injEq, Prod.mk.injEq] at h
    obtain ⟨_, rfl⟩ := h
    simp
    try omega

def tokens (cs : List Char) : Option (List Token) :=
  match _h : cs.dropWhile isBlank with
  | [] => some []
  | c :: tail =>
    match _hc : cut (c :: tail) with
    | none => none
    | some (token, rest) => (tokens rest).map (token :: ·)
termination_by cs.length
decreasing_by
  have h₁ := cut_length _hc
  have h₂ := (List.dropWhile_suffix isBlank (l := cs)).length_le
  rw [_h] at h₂
  omega

end FilterSql.Json
