import FilterSql.Json.Reader
import FilterSql.Proofs.Json.Writing
import FilterSql.Proofs.Numeral

namespace FilterSql.Json

theorem hexDigit?_eq {n : Nat} {c : Char} (h : IsHexDigit n c) :
    n < 16 ∧ hexDigit? c = some n := by
  have hn : n < 16 := by
    rcases h with h | h <;> exact (List.getElem?_eq_some_iff.1 h).1
  refine ⟨hn, ?_⟩
  unfold IsHexDigit at h
  interval_cases n <;> rcases h with h | h <;> cases h <;> rfl

inductive Spells (c : Char) : List Part → Prop
  | char : Spells c [.char c]
  | code : c.toNat < 0x10000 → Spells c [.code c.toNat]
  | pair : 0x10000 ≤ c.toNat →
      Spells c [.code (0xd800 + (c.toNat - 0x10000) / 0x400),
        .code (0xdc00 + (c.toNat - 0x10000) % 0x400)]

theorem isSurrogate_toNat (c : Char) : isLead c.toNat = false ∧ isTrail c.toNat = false := by
  have hc : c.toNat < 0xd800 ∨ 0xdfff < c.toNat ∧ c.toNat < 0x110000 := c.valid
  simp only [isLead, isTrail, Bool.and_eq_false_iff, decide_eq_false_iff_not]
  omega

theorem assemble_spells {c : Char} {ps : List Part} (h : Spells c ps) (qs : List Part) :
    assemble (ps ++ qs) = (assemble qs).map (c :: ·) := by
  cases h with
  | char => simp [assemble, Option.map_eq_bind]
  | code hlt =>
    obtain ⟨hlead, htrail⟩ := isSurrogate_toNat c
    -- a code behind this one is tried as its partner first
    rcases qs with _ | ⟨q | m, qs⟩ <;>
      simp [assemble, hlead, htrail, Option.map_eq_bind]
  | pair hle =>
    have hlt : c.toNat < 0x110000 := by
      have hc : c.toNat < 0xd800 ∨ 0xdfff < c.toNat ∧ c.toNat < 0x110000 := c.valid
      omega
    have hlead : isLead (0xd800 + (c.toNat - 0x10000) / 0x400) = true := by
      simp only [isLead, Bool.and_eq_true, decide_eq_true_eq]
      omega
    have htrail : isTrail (0xdc00 + (c.toNat - 0x10000) % 0x400) = true := by
      simp only [isTrail, Bool.and_eq_true, decide_eq_true_eq]
      omega
    have hcode : 0x10000 + (0xd800 + (c.toNat - 0x10000) / 0x400 - 0xd800) * 0x400 +
        (0xdc00 + (c.toNat - 0x10000) % 0x400 - 0xdc00) = c.toNat := by
      omega
    simp only [List.cons_append, List.nil_append, assemble, hlead, htrail, hcode, if_true,
      Char.ofNat_toNat]
    cases assemble qs <;> rfl

theorem parts_code {n : Nat} {w : List Char} (h : WritesCode n w) (rest : List Char) :
    parts (w ++ rest) = (parts rest).map fun r => (.code n :: r.1, r.2) := by
  cases h with
  | @mk a b c d ha hb hc hd =>
    obtain ⟨hlt, ha⟩ := hexDigit?_eq ha
    have hcode : code? a b c d = some n := by
      simp only [code?, ha, (hexDigit?_eq hb).2, (hexDigit?_eq hc).2, (hexDigit?_eq hd).2,
        Option.pure_def, Option.bind_eq_bind, Option.bind_some, Option.some.injEq]
      omega
    simp [parts, hcode, Option.map_eq_bind]

theorem parts_char {c : Char} {w : List Char} (h : WritesChar c w) :
    ∃ ps, Spells c ps ∧
      ∀ rest, parts (w ++ rest) = (parts rest).map fun r => (ps ++ r.1, r.2) := by
  cases h with
  | plain hquote hback hcontrol =>
    refine ⟨_, .char, fun rest => ?_⟩
    rw [List.singleton_append, parts.eq_def]
    simp [hback, Nat.not_lt.2 hcontrol, Option.map_eq_bind]
  | @short letter hmem =>
    refine ⟨_, .char, fun rest => ?_⟩
    simp only [shortEscapes, List.mem_cons, Prod.mk.injEq, List.not_mem_nil, or_false] at hmem
    rcases hmem with ⟨rfl, rfl⟩ | ⟨rfl, rfl⟩ | ⟨rfl, rfl⟩ | ⟨rfl, rfl⟩ | ⟨rfl, rfl⟩ | ⟨rfl, rfl⟩ |
      ⟨rfl, rfl⟩ | ⟨rfl, rfl⟩ <;> simp [parts, escaped?, Option.map_eq_bind]
  | code hlt hw => exact ⟨_, .code hlt, parts_code hw⟩
  | pair hle hlead htrail =>
    refine ⟨_, .pair hle, fun rest => ?_⟩
    rw [List.append_assoc, parts_code hlead, parts_code htrail, Option.map_map]
    rfl

theorem parts_chars {cs u : List Char} (h : WritesChars cs u) :
    ∃ ps, assemble ps = some cs ∧ ∀ rest, parts (u ++ '"' :: rest) = some (ps, rest) := by
  induction h with
  | nil => exact ⟨[], by simp [assemble], fun rest => by simp [parts]⟩
  | cons hc _ ih =>
    obtain ⟨ps, hspells, hps⟩ := parts_char hc
    obtain ⟨qs, hcs, hqs⟩ := ih
    refine ⟨ps ++ qs, ?_, fun rest => ?_⟩
    · rw [assemble_spells hspells, hcs, Option.map_some]
    · rw [List.append_assoc, hps, hqs, Option.map_some]

theorem cut_string {s : String} {w : List Char} (h : WritesString s w) (rest : List Char) :
    ∃ tail, w ++ rest = '"' :: tail ∧ cut ('"' :: tail) = some (.string (some s), rest) := by
  cases h with
  | @mk u hu =>
    obtain ⟨ps, hps, hparts⟩ := parts_chars hu
    refine ⟨u ++ '"' :: rest, by simp, ?_⟩
    simp [cut, hparts, hps]

def Ends (rest : List Char) : Prop :=
  ∀ c ∈ rest.head?, c ∈ [' ', '\t', '\n', '\r', ',', ']', '\x7d']

theorem Ends.after_number {rest : List Char} (h : Ends rest) :
    (∀ c ∈ rest.head?, c.isDigit = false) ∧ fractionPart rest = some ([], rest) ∧
      exponentPart rest = some ([], rest) := by
  cases rest with
  | nil => simp [fractionPart, exponentPart]
  | cons c rest =>
    have hc := h c rfl
    simp only [List.mem_cons, List.not_mem_nil, or_false] at hc
    rcases hc with rfl | rfl | rfl | rfl | rfl | rfl | rfl <;>
      simp [fractionPart, exponentPart, Char.isDigit]

theorem head_toDigits_ne_zero {n : Nat} (h : 0 < n) : (Nat.toDigits 10 n).head? ≠ some '0' := by
  induction n using Nat.strong_induction_on with
  | _ n ih =>
    rcases Nat.lt_or_ge n 10 with hlt | hle
    · rw [Nat.toDigits_of_lt_base hlt]
      interval_cases n <;> decide
    · rw [Nat.toDigits_of_base_le (by decide) hle,
        List.head?_append_of_ne_nil _ Nat.toDigits_ne_nil]
      exact ih (n / 10) (by omega) (by omega)

theorem wholePart_nat (n : Nat) {rest : List Char} (h : ∀ c ∈ rest.head?, c.isDigit = false) :
    wholePart ((toString n).toList ++ rest) = some ((toString n).toList, rest) := by
  rcases Nat.eq_zero_or_pos n with rfl | hpos
  · rfl
  · obtain ⟨d, ds, hds, hdigits⟩ := exists_digits n
    have hzero : d ≠ '0' := by
      have hhead := head_toDigits_ne_zero hpos
      rw [← Nat.toList_repr, ← Nat.toString_eq_repr, hds] at hhead
      simpa using hhead
    rw [hds, List.cons_append, wholePart.eq_2 _ fun _ heq => hzero (List.cons.inj heq).1,
      ← List.cons_append]
    simp only [someDigits, Lexer.takeWhile_eq hdigits h, Lexer.dropWhile_eq hdigits h]
    rfl

theorem numeral_nat (n : Nat) {rest : List Char} (h : Ends rest) :
    numeral ((toString n).toList ++ rest) = some ((toString n).toList, rest) := by
  obtain ⟨hdigit, hfraction, hexponent⟩ := h.after_number
  have hwhole := wholePart_nat n hdigit
  obtain ⟨d, ds, hds, hdigits⟩ := exists_digits n
  have hminus : d ≠ '-' := by
    rintro rfl
    exact absurd (hdigits _ List.mem_cons_self) (by decide)
  rw [hds, List.cons_append] at hwhole ⊢
  simp [numeral, hminus, hwhole, hfraction, hexponent]

theorem cut_digit {d : Char} (h : d.isDigit = true) (tail : List Char) :
    cut (d :: tail) = (numeral (d :: tail)).map fun r => (.number (String.ofList r.1), r.2) := by
  unfold cut
  split
  case h_11 => simp [Option.map_eq_bind]
  all_goals
    next heq =>
      obtain ⟨rfl, _⟩ := List.cons.inj heq
      exact absurd h (by decide)

theorem cut_nat (n : Nat) {rest : List Char} (h : Ends rest) :
    ∃ d tail, d.isDigit = true ∧ (toString n).toList ++ rest = d :: tail ∧
      cut (d :: tail) = some (.number (toString n), rest) := by
  -- only the last alternative of a token begins with a digit
  obtain ⟨d, ds, hds, hdigits⟩ := exists_digits n
  have hd := hdigits d List.mem_cons_self
  have hnumeral := numeral_nat n h
  refine ⟨d, ds ++ rest, hd, by rw [hds, List.cons_append], ?_⟩
  rw [cut_digit hd, ← List.cons_append, ← hds, hnumeral, Option.map_some, String.ofList_toList]

open Reader (State Frame Phase)

def readFrom (s : State) (cs : List Char) : Option Json := (tokens cs).bind (Reader.run s)

theorem isBlank_iff (c : Char) : isBlank c = true ↔ c ∈ [' ', '\t', '\n', '\r'] := by
  simp [isBlank, or_assoc]

theorem tokens_blank {w : List Char} (h : IsBlank w) (rest : List Char) :
    tokens (w ++ rest) = tokens rest := by
  have hdrop : (w ++ rest).dropWhile isBlank = rest.dropWhile isBlank :=
    List.dropWhile_append_of_pos fun c hc => (isBlank_iff c).2 (h c hc)
  rw [tokens, tokens, hdrop]

theorem tokens_cons {c : Char} {tail rest : List Char} {token : Token}
    (hc : isBlank c = false) (h : cut (c :: tail) = some (token, rest)) :
    tokens (c :: tail) = (tokens rest).map (token :: ·) := by
  have hdrop : (c :: tail).dropWhile isBlank = c :: tail :=
    List.dropWhile_cons_of_neg (by simp [hc])
  rw [tokens, hdrop]
  dsimp only
  rw [h]

theorem readFrom_blank {w : List Char} (h : IsBlank w) (s : State) (rest : List Char) :
    readFrom s (w ++ rest) = readFrom s rest := by
  rw [readFrom, tokens_blank h, readFrom]

theorem readFrom_token {s s' : State} {c : Char} {tail rest : List Char} {token : Token}
    (hc : isBlank c = false) (h : cut (c :: tail) = some (token, rest))
    (hs : Reader.step s token = some s') : readFrom s (c :: tail) = readFrom s' rest := by
  rw [readFrom, tokens_cons hc h, readFrom, Option.bind_map]
  simp [Reader.run, hs]

def AwaitsValue (phase : Phase) : Prop := phase = .value ∨ phase = .firstItem

theorem step_awaitsValue {phase : Phase} (h : AwaitsValue phase) (stack : List Frame)
    (token : Token) (ht : token ≠ .rbracket) :
    Reader.step ⟨stack, phase⟩ token = Reader.beginValue stack token := by
  rcases h with rfl | rfl
  · rfl
  · unfold Reader.step
    split <;> simp_all

/-- Wherever a value may begin, the text is read as the value and as nothing more. -/
def Reads (j : Json) (w : List Char) : Prop :=
  ∀ (stack : List Frame) (rest : List Char) {phase : Phase}, Ends rest → AwaitsValue phase →
    readFrom ⟨stack, phase⟩ (w ++ rest) = readFrom ⟨stack, .complete j⟩ rest

theorem reads_token {j : Json} {w : List Char} (token : Token) (ht : token ≠ .rbracket)
    (hbegin : ∀ stack, Reader.beginValue stack token = some ⟨stack, .complete j⟩)
    (hcut : ∀ rest, Ends rest → ∃ c tail, isBlank c = false ∧ w ++ rest = c :: tail ∧
      cut (c :: tail) = some (token, rest)) : Reads j w := by
  intro stack rest phase hends hphase
  obtain ⟨c, tail, hblank, hw, hc⟩ := hcut rest hends
  rw [hw]
  exact readFrom_token hblank hc ((step_awaitsValue hphase stack token ht).trans (hbegin stack))

theorem Ends.append {w rest : List Char} (hw : IsBlank w) (h : Ends rest) : Ends (w ++ rest) := by
  cases w with
  | nil => exact h
  | cons c w =>
    intro d hd
    obtain rfl : c = d := by simpa using hd
    have := hw c List.mem_cons_self
    simp only [List.mem_cons] at this ⊢
    tauto

theorem reads_blanks {j : Json} {before w after : List Char} (hbefore : IsBlank before)
    (h : Reads j w) (hafter : IsBlank after) : Reads j (before ++ w ++ after) := by
  intro stack rest phase hends hphase
  rw [List.append_assoc, List.append_assoc, readFrom_blank hbefore,
    h stack _ (hends.append hafter) hphase, readFrom_blank hafter]

theorem ends_punctuation {c : Char} (h : c ∈ [',', ']', '\x7d']) (rest : List Char) :
    Ends (c :: rest) := by
  intro d hd
  obtain rfl : c = d := by simpa using hd
  simp only [List.mem_cons] at h ⊢
  tauto

theorem readFrom_lbracket {phase : Phase} (h : AwaitsValue phase) (stack : List Frame)
    (w rest : List Char) : readFrom ⟨stack, phase⟩ ('[' :: w ++ [']'] ++ rest) =
      readFrom ⟨.array [] :: stack, .firstItem⟩ (w ++ ']' :: rest) := by
  rw [List.append_assoc, List.singleton_append, List.cons_append]
  exact readFrom_token rfl rfl (step_awaitsValue h stack .lbracket (by simp))

theorem readFrom_lbrace {phase : Phase} (h : AwaitsValue phase) (stack : List Frame)
    (w rest : List Char) : readFrom ⟨stack, phase⟩ ('\x7b' :: w ++ ['\x7d'] ++ rest) =
      readFrom ⟨stack, .firstName⟩ (w ++ '\x7d' :: rest) := by
  rw [List.append_assoc, List.singleton_append, List.cons_append]
  exact readFrom_token rfl rfl (step_awaitsValue h stack .lbrace (by simp))

/-- The items of an array from one of them on, after those in `acc`, which stand last first. -/
theorem readFrom_items {items : List (Json × List Char)} (hne : items ≠ [])
    (h : ∀ item ∈ items, Reads item.1 item.2) {acc : List Json} {phase : Phase}
    (hphase : AwaitsValue phase) (stack : List Frame) (rest : List Char) :
    readFrom ⟨.array acc :: stack, phase⟩ ([','].intercalate (items.map Prod.snd) ++ ']' :: rest) =
      readFrom ⟨stack, .complete (.array (acc.reverse ++ items.map Prod.fst))⟩ rest := by
  induction items generalizing acc phase with
  | nil => exact absurd rfl hne
  | cons item items ih =>
    obtain ⟨hitem, hitems⟩ := List.forall_mem_cons.1 h
    -- the last item is followed by the bracket, every other one by a comma
    cases items with
    | nil =>
      rw [List.map_singleton, List.intercalate_singleton,
        hitem _ _ (ends_punctuation (by simp) rest) hphase, readFrom_token rfl rfl rfl]
      simp
    | cons next items =>
      rw [List.map_cons, List.map_cons, List.intercalate_cons_cons, ← List.map_cons,
        List.append_assoc, List.append_assoc, List.singleton_append,
        hitem _ _ (ends_punctuation (by simp) _) hphase, readFrom_token rfl rfl rfl,
        ih (List.cons_ne_nil _ _) hitems (.inl rfl)]
      simp

theorem reads_items {items : List (Json × List Char)} (hne : items ≠ [])
    (h : ∀ item ∈ items, Reads item.1 item.2) :
    Reads (.array (items.map Prod.fst))
      ('[' :: [','].intercalate (items.map Prod.snd) ++ [']']) := by
  intro stack rest phase _ hphase
  rw [readFrom_lbracket hphase, readFrom_items hne h (.inr rfl), List.reverse_nil, List.nil_append]

theorem reads_noItems {w : List Char} (h : IsBlank w) : Reads (.array []) ('[' :: w ++ [']']) := by
  intro stack rest phase _ hphase
  rw [readFrom_lbracket hphase, readFrom_blank h, readFrom_token rfl rfl rfl]

def AwaitsName (acc : List (Option String × Json)) (phase : Phase) : Prop :=
  phase = .name acc ∨ acc = [] ∧ phase = .firstName

theorem readFrom_name {name : String} {key : List Char} (h : WritesName name key)
    {acc : List (Option String × Json)} {phase : Phase} (hphase : AwaitsName acc phase)
    (stack : List Frame) (rest : List Char) :
    readFrom ⟨stack, phase⟩ (key ++ ':' :: rest) =
      readFrom ⟨.object acc (some name) :: stack, .value⟩ rest := by
  cases h with
  | @mk before w after hbefore hw hafter =>
    have hstep : Reader.step ⟨stack, phase⟩ (.string (some name)) =
        some ⟨stack, .colon acc (some name)⟩ := by
      rcases hphase with rfl | ⟨rfl, rfl⟩ <;> rfl
    obtain ⟨tail, hquote, hcut⟩ := cut_string hw (after ++ ':' :: rest)
    rw [List.append_assoc, List.append_assoc, readFrom_blank hbefore, hquote,
      readFrom_token rfl hcut hstep, readFrom_blank hafter, readFrom_token rfl rfl rfl]

theorem readFrom_members {members : List Member} (hne : members ≠ [])
    (hnames : ∀ m ∈ members, WritesName m.name m.key) (h : ∀ m ∈ members, Reads m.value m.text)
    {acc : List (Option String × Json)} {phase : Phase} (hphase : AwaitsName acc phase)
    (stack : List Frame) (rest : List Char) :
    readFrom ⟨stack, phase⟩
        ([','].intercalate (members.map Member.chars) ++ '\x7d' :: rest) =
      readFrom ⟨stack, .complete (.object
        (acc.reverse ++ members.map fun m => (some m.name, m.value)))⟩ rest := by
  induction members generalizing acc phase with
  | nil => exact absurd rfl hne
  | cons m members ih =>
    obtain ⟨hname, hnames⟩ := List.forall_mem_cons.1 hnames
    obtain ⟨hvalue, hvalues⟩ := List.forall_mem_cons.1 h
    cases members with
    | nil =>
      rw [List.map_singleton, List.intercalate_singleton, Member.chars, List.append_assoc,
        List.cons_append, readFrom_name hname hphase,
        hvalue _ _ (ends_punctuation (by simp) rest) (.inl rfl), readFrom_token rfl rfl rfl]
      simp
    | cons next members =>
      rw [List.map_cons, List.map_cons, List.intercalate_cons_cons, ← List.map_cons,
        List.append_assoc, List.append_assoc, List.singleton_append, Member.chars,
        List.append_assoc, List.cons_append, readFrom_name hname hphase,
        hvalue _ _ (ends_punctuation (by simp) _) (.inl rfl), readFrom_token rfl rfl rfl,
        ih (List.cons_ne_nil _ _) hnames hvalues (.inl rfl)]
      simp

theorem reads_members {members : List Member} (hne : members ≠ [])
    (hnames : ∀ m ∈ members, WritesName m.name m.key) (h : ∀ m ∈ members, Reads m.value m.text) :
    Reads (.record (members.map Member.entry))
      ('\x7b' :: [','].intercalate (members.map Member.chars) ++ ['\x7d']) := by
  intro stack rest phase _ hphase
  rw [readFrom_lbrace hphase, readFrom_members hne hnames h (.inr ⟨rfl, rfl⟩), record,
    List.map_map, List.reverse_nil, List.nil_append]
  rfl

theorem reads_noMembers {w : List Char} (h : IsBlank w) :
    Reads (.record []) ('\x7b' :: w ++ ['\x7d']) := by
  intro stack rest phase _ hphase
  rw [readFrom_lbrace hphase, readFrom_blank h, readFrom_token rfl rfl rfl]
  rfl

theorem isBlank_of_isDigit {c : Char} (h : c.isDigit = true) : isBlank c = false := by
  by_contra hc
  have := (isBlank_iff c).1 (by simpa using hc)
  simp only [List.mem_cons, List.not_mem_nil, or_false] at this
  rcases this with rfl | rfl | rfl | rfl <;> exact absurd h (by decide)

theorem reads_nat (n : Nat) : Reads (.nat n) (toString n).toList := by
  refine reads_token (.number (toString n)) (by simp) (fun _ => rfl) fun rest hends => ?_
  obtain ⟨d, tail, hd, hw, hcut⟩ := cut_nat n hends
  exact ⟨d, tail, isBlank_of_isDigit hd, hw, hcut⟩

theorem reads_text {s : String} {w : List Char} (h : WritesString s w) : Reads (.text s) w := by
  refine reads_token (.string (some s)) (by simp) (fun _ => rfl) fun rest _ => ?_
  obtain ⟨tail, hw, hcut⟩ := cut_string h rest
  exact ⟨_, tail, rfl, hw, hcut⟩

theorem reads_of_writes {j : Json} {w : List Char} (h : Writes j w) : Reads j w := by
  induction h with
  | null =>
    exact reads_token .null (by simp) (fun _ => rfl) fun _ _ => ⟨_, _, rfl, rfl, rfl⟩
  | true =>
    exact reads_token (.bool true) (by simp) (fun _ => rfl) fun _ _ => ⟨_, _, rfl, rfl, rfl⟩
  | false =>
    exact reads_token (.bool false) (by simp) (fun _ => rfl)
      fun _ _ => ⟨_, _, rfl, rfl, rfl⟩
  | nat n => exact reads_nat n
  | text hw => exact reads_text hw
  | noItems hw => exact reads_noItems hw
  | items hne _ ih => exact reads_items hne ih
  | noMembers hw => exact reads_noMembers hw
  | members hne hnames _ ih => exact reads_members hne hnames ih
  | blanks hbefore _ hafter ih => exact reads_blanks hbefore ih hafter

theorem parse?_of_writes {j : Json} {text : String} (h : Writes j text.toList) :
    parse? text = some j := by
  have hread := reads_of_writes h [] [] (by simp [Ends]) (.inl rfl)
  rw [List.append_nil] at hread
  calc parse? text = readFrom ⟨[], .value⟩ text.toList := rfl
    _ = readFrom ⟨[], .complete j⟩ [] := hread
    _ = some j := by simp [readFrom, tokens, Reader.run]

end FilterSql.Json
