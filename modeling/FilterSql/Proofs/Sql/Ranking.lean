import FilterSql.Proofs.Numeral
import FilterSql.Proofs.Severity
import FilterSql.Proofs.Sql.Grouping
import FilterSql.Proofs.Sql.Quoting

namespace FilterSql.Sql

/-- What a character stands for behind a backslash. There is no answer where it begins a longer
escape, or where the backslash stays. -/
def unescape? : Backend → Option (Char → Option Char)
  | .postgres => some fun c =>
    if c = 'b' then some '\x08'
    else if c = 'f' then some '\x0c'
    else if c = 'n' then some '\n'
    else if c = 'r' then some '\r'
    else if c = 't' then some '\t'
    else if c = 'x' ∨ c = 'u' ∨ c = 'U' ∨ c ∈ ['0', '1', '2', '3', '4', '5', '6', '7'] then none
    else some c
  | .mysql => some fun c =>
    if c = '0' then some '\x00'
    else if c = 'b' then some '\x08'
    else if c = 'n' then some '\n'
    else if c = 'r' then some '\r'
    else if c = 't' then some '\t'
    else if c = 'Z' then some '\x1a'
    else if c = '%' ∨ c = '_' then none
    else some c
  | .sqlite => none

/-- A string constant at the beginning of a text, and what stands behind it. In one of Postgres a
backslash has a meaning only behind the letter E. -/
def readConstant (b : Backend) : List Char → Option (String × List Char)
  | '\x27' :: rest =>
    (readMarked '\x27' (if b = .postgres then none else unescape? b) rest).map
      (Prod.map String.ofList id)
  | 'E' :: '\x27' :: rest =>
    if b = .postgres then
      (readMarked '\x27' (unescape? b) rest).map (Prod.map String.ofList id)
    else none
  | _ => none

section Constants

variable {b : Backend} {rest : List Char}

theorem readMarked_escapeCharacter {c : Char} (hb : b ≠ .sqlite) (hc : c ≠ '\x00' ∧ c ≠ '\x1a')
    (rest : List Char) :
    readMarked '\x27' (unescape? b) (Backend.escapeCharacter c ++ rest) =
      (readMarked '\x27' (unescape? b) rest).map (Prod.map (c :: ·) id) := by
  obtain ⟨unescape, hu⟩ : ∃ unescape, unescape? b = some unescape := by
    cases b with
    | sqlite => exact absurd rfl hb
    | postgres | mysql => exact ⟨_, rfl⟩
  have hback {d : Char} (h : unescape d = some c) :
      readMarked '\x27' (unescape? b) (['\\', d] ++ rest) =
        (readMarked '\x27' (unescape? b) rest).map (Prod.map (c :: ·) id) := by
    rw [hu]
    exact readMarked_escape (by decide) h
  by_cases h : c ∈ ['\\', '"', '\x27', '\x08', '\t', '\n', '\r']
  · simp only [List.mem_cons, List.not_mem_nil, or_false] at h
    cases b with
    | sqlite => cases hu
    | postgres | mysql =>
      cases hu
      rcases h with rfl | rfl | rfl | rfl | rfl | rfl | rfl <;> exact hback (by decide)
  · simp only [List.mem_cons, List.not_mem_nil, or_false, not_or] at h
    have hplain : Backend.escapeCharacter c = [c] := by
      simp only [Backend.escapeCharacter, h, hc, if_false]
    rw [hplain]
    exact readMarked_plain h.2.2.1 fun heq => absurd heq h.1

theorem readMarked_unescaped {text : List Char} (h : '\\' ∉ text.flatMap Backend.escapeCharacter)
    (hr : rest.head? ≠ some '\x27') :
    readMarked '\x27' none (text.flatMap Backend.escapeCharacter ++ '\x27' :: rest) =
      some (text, rest) := by
  refine readMarked_flatMap (fun c hc rest => ?_) hr
  rcases escapeCharacter_cases c with ⟨d, hd, -⟩ | ⟨hd, -, ha⟩
  · exact absurd (List.mem_flatMap.2 ⟨c, hc, by simp [hd]⟩) h
  · rw [hd]
    exact readMarked_plain ha fun _ => rfl

theorem readConstant_stringConstant (b : Backend) {s : String}
    (hs : '\x00' ∉ s.toList ∧ '\x1a' ∉ s.toList) (hr : rest.head? ≠ some '\x27') :
    readConstant b ((b.stringConstant s).toList ++ rest) = some (s, rest) := by
  have hread : ∀ escape? body, readMarked '\x27' escape? body = some (s.toList, rest) →
      (readMarked '\x27' escape? body).map (Prod.map String.ofList id) = some (s, rest) := by
    intro escape? body h
    rw [h, Option.map_some, Prod.map_apply, String.ofList_toList, id]
  have hescaped (hb : b ≠ .sqlite) : readMarked '\x27' (unescape? b)
      (s.toList.flatMap Backend.escapeCharacter ++ '\x27' :: rest) = some (s.toList, rest) := by
    refine readMarked_flatMap (fun c hc rest => readMarked_escapeCharacter hb ⟨?_, ?_⟩ rest) hr
    · exact fun h => hs.1 (h ▸ hc)
    · exact fun h => hs.2 (h ▸ hc)
  have hopen : (Backend.escapedConstant s).toList ++ rest =
      '\x27' :: (s.toList.flatMap Backend.escapeCharacter ++ '\x27' :: rest) := by
    simp [Backend.escapedConstant]
  cases b with
  | postgres =>
    simp only [Backend.stringConstant]
    split
    · rw [String.toList_append, List.append_assoc, hopen]
      exact hread _ _ (hescaped (by decide))
    · next h =>
      rw [hopen]
      exact hread _ _ (readMarked_unescaped h hr)
  | mysql =>
    simp only [Backend.stringConstant, hopen]
    exact hread _ _ (hescaped (by decide))
  | sqlite =>
    have hquoted : (quoteWith '\x27' s).toList ++ rest = '\x27' :: (s.toList.flatMap
        (fun c => if c = '\x27' then ['\x27', '\x27'] else [c]) ++ '\x27' :: rest) := by
      simp [quoteWith]
    simp only [Backend.stringConstant, hquoted]
    exact hread _ _ (readMarked_doubled s.toList hr)

end Constants

abbrev Reader := StateT (List Char) Option

namespace Reader

def unit {α : Type} (read : List Char → Option (α × List Char)) : Reader α :=
  fun cs => read (cs.dropWhile (· = ' '))

def expect (text : String) : Reader Unit :=
  unit fun cs => (text.toList.isPrefixOf? cs).map ((), ·)

def name (b : Backend) : Reader String := unit (readIdentifier b)

def constant (b : Backend) : Reader String := unit (readConstant b)

def number : Reader Nat :=
  unit fun cs =>
    if cs.takeWhile Char.isDigit = [] then none
    else some (Text.natValue (cs.takeWhile Char.isDigit), cs.dropWhile Char.isDigit)

def column (b : Backend) : Reader Column := do
  let table ← name b
  expect "."
  let column ← name b
  return ⟨table, column⟩

def branch (b : Backend) : Reader (Comparing × Nat) := do
  expect "WHEN"
  expect "("
  let c ← column b
  expect "="
  let s ← constant b
  expect ")"
  expect "THEN"
  let n ← number
  return (⟨.column c, .eq, .constant s⟩, n)

def branches (b : Backend) : Nat → Reader (List (Comparing × Nat))
  | 0 => pure []
  | bound + 1 => fun cs =>
    match branch b cs with
    | none => some ([], cs)
    | some (first, rest) => (branches b bound rest).map (Prod.map (first :: ·) id)

def case (b : Backend) : Reader (List (Comparing × Nat) × Nat) := do
  expect "("
  expect "CASE"
  let cs ← get
  let found ← branches b cs.length
  expect "ELSE"
  let otherwise ← number
  expect "END"
  expect ")"
  return (found, otherwise)

variable {α β : Type} {b : Backend} {cs rest : List Char}

theorem bind_eq {r : Reader α} {f : α → Reader β} {a : α} (h : r cs = some (a, rest)) :
    (r >>= f) cs = f a rest := by
  simp [bind, StateT.bind, h]

theorem unit_eq {read : List Char → Option (α × List Char)} (h : cs.head? ≠ some ' ') :
    unit read cs = read cs := by
  cases cs with
  | nil => rfl
  | cons c cs =>
    have hc : c ≠ ' ' := by simpa using h
    simp [unit, hc]

theorem unit_blank {read : List Char → Option (α × List Char)} :
    unit read (' ' :: cs) = unit read cs := by
  simp [unit]

theorem expect_eq {text : String} (h : text.toList.head?.any (· != ' ') = true) :
    expect text (text.toList ++ rest) = some ((), rest) := by
  obtain ⟨c, hc, hblank⟩ := (Option.any_eq_true _ _).1 h
  have hhead : (text.toList ++ rest).head? ≠ some ' ' := by
    rw [List.head?_append, hc]
    simpa using hblank
  rw [expect, unit_eq hhead, List.isPrefixOf?_eq_some_iff_append_eq.2 rfl]
  rfl

theorem expect_blank {text : String} (h : text.toList.head?.any (· != ' ') = true) :
    expect text (' ' :: (text.toList ++ rest)) = some ((), rest) :=
  unit_blank.trans (expect_eq h)

theorem name_quoteIdentifier (s : String) (hr : rest.head? ≠ some b.quoteMark) :
    name b ((b.quoteIdentifier s).toList ++ rest) = some (s, rest) := by
  have hhead : ((b.quoteIdentifier s).toList ++ rest).head? ≠ some ' ' := by
    cases b <;> simp [Backend.quoteIdentifier, quoteWith, Backend.quoteMark]
  rw [name, unit_eq hhead]
  exact readIdentifier_eq_some_iff.2 ⟨rfl, hr⟩

theorem constant_stringConstant {s : String} (hs : '\x00' ∉ s.toList ∧ '\x1a' ∉ s.toList)
    (hr : rest.head? ≠ some '\x27') :
    constant b (' ' :: ((b.stringConstant s).toList ++ rest)) = some (s, rest) := by
  rw [constant, unit_blank, unit_eq]
  · exact readConstant_stringConstant b hs hr
  · cases b with
    | postgres =>
      simp only [Backend.stringConstant]
      split <;> simp [Backend.escapedConstant]
    | mysql | sqlite => simp [Backend.stringConstant, Backend.escapedConstant, quoteWith]

theorem number_toString (n : Nat) (hr : Breaks rest) :
    number (' ' :: ((toString n).toList ++ rest)) = some (n, rest) := by
  obtain ⟨d, ds, hds, hdigits⟩ := exists_digits n
  have hend : ∀ c ∈ rest.head?, c.isDigit = false := fun c hc => (isBreak_class (hr c hc)).2.1
  have hhead : (d :: ds ++ rest).head? ≠ some ' ' := by
    rintro ⟨⟩
    exact absurd (hdigits ' ' List.mem_cons_self) (by decide)
  rw [hds, number, unit_blank, unit_eq hhead, Lexer.takeWhile_eq hdigits hend,
    Lexer.dropWhile_eq hdigits hend, if_neg (List.cons_ne_nil d ds), ← hds, Text.natValue_toString]

theorem column_pieces (c : Column) (hr : rest.head? ≠ some b.quoteMark) :
    column b ((b.quoteIdentifier c.table).toList ++ (".".toList ++
      ((b.quoteIdentifier c.name).toList ++ rest))) = some (c, rest) := by
  have hpoint (cs : List Char) : (".".toList ++ cs).head? ≠ some b.quoteMark := by
    cases b <;> simp [Backend.quoteMark]
  rw [column, bind_eq (name_quoteIdentifier c.table (hpoint _)), bind_eq (expect_eq rfl),
    bind_eq (name_quoteIdentifier c.name hr)]
  rfl

section Case

variable {status : Column}

theorem branch_rankPieces {entry : String × Nat}
    (hs : '\x00' ∉ entry.1.toList ∧ '\x1a' ∉ entry.1.toList) (hr : Breaks rest) (index : Nat) :
    branch b ((spellFrom b index (rankPieces status entry)).toList ++ rest) =
      some ((⟨.column status, .eq, .constant entry.1⟩, entry.2), rest) := by
  have htext : (spellFrom b index (rankPieces status entry)).toList ++ rest =
      ' ' :: ("WHEN".toList ++ (' ' :: ("(".toList ++
        ((b.quoteIdentifier status.table).toList ++ (".".toList ++
        ((b.quoteIdentifier status.name).toList ++ (' ' :: ("=".toList ++
        (' ' :: ((b.stringConstant entry.1).toList ++ (")".toList ++
        (' ' :: ("THEN".toList ++ (' ' :: ((toString entry.2).toList ++ rest))))))))))))))) := by
    simp [rankPieces, Column.pieces, spellFrom, Piece.spell, Spelling.identifier_ofBackend]
  have hblank (cs : List Char) : (' ' :: cs).head? ≠ some b.quoteMark := by
    cases b <;> simp [Backend.quoteMark]
  rw [htext, branch, bind_eq (expect_blank rfl), bind_eq (expect_blank rfl),
    bind_eq (column_pieces status (hblank _)), bind_eq (expect_blank rfl),
    bind_eq (constant_stringConstant hs (by simp)), bind_eq (expect_eq rfl),
    bind_eq (expect_blank rfl), bind_eq (number_toString entry.2 hr)]
  rfl

theorem branches_ranks {ranks : List (String × Nat)}
    (hs : ∀ entry ∈ ranks, '\x00' ∉ entry.1.toList ∧ '\x1a' ∉ entry.1.toList)
    (hr : Breaks rest) (hstop : branch b rest = none) (index : Nat) {bound : Nat}
    (hbound : ranks.length ≤ bound) :
    branches b bound ((spellFrom b index (ranks.flatMap (rankPieces status))).toList ++ rest) =
      some (ranks.map fun entry => (⟨.column status, .eq, .constant entry.1⟩, entry.2), rest) := by
  induction ranks generalizing bound index with
  | nil =>
    cases bound with
    | zero => simp [spellFrom, branches, pure, StateT.pure]
    | succ bound => simp [spellFrom, branches, hstop]
  | cons entry ranks ih =>
    obtain ⟨bound, rfl⟩ : ∃ n, bound = n + 1 := ⟨bound - 1, by simp at hbound; omega⟩
    obtain ⟨hentry, hranks⟩ := List.forall_mem_cons.1 hs
    have hbegins : Begins (ranks.flatMap (rankPieces status)) :=
      flatMap_induction trivial Begins.append (fun _ => by rfl) ranks
    have hnext := hbegins.breaks b (index + (params (rankPieces status entry)).length) hr
    rw [List.flatMap_cons, spellFrom_append, String.toList_append, List.append_assoc, branches]
    simp only [branch_rankPieces hentry hnext, ih hranks _ (Nat.le_of_succ_le_succ hbound)]
    rfl

theorem length_ranks_le (ranks : List (String × Nat)) (index : Nat) :
    ranks.length ≤ (spellFrom b index (ranks.flatMap (rankPieces status))).toList.length := by
  induction ranks generalizing index with
  | nil => exact Nat.zero_le _
  | cons entry ranks ih =>
    have hrest := ih (index + (params (rankPieces status entry)).length)
    rw [List.flatMap_cons, spellFrom_append, String.toList_append, List.length_append]
    have hentry : 0 < (spellFrom b index (rankPieces status entry)).toList.length := by
      simp [rankPieces, spellFrom, Piece.spell]
    simp only [List.length_cons]
    omega

theorem case_rankCase {s : GroupSelect}
    (hs : ∀ entry ∈ s.ranks, '\x00' ∉ entry.1.toList ∧ '\x1a' ∉ entry.1.toList) (index : Nat) :
    case b ((spellFrom b index s.rankCase).toList ++ rest) =
      some ((s.ranks.map fun entry => (⟨.column s.status, .eq, .constant entry.1⟩, entry.2), 0),
        rest) := by
  obtain ⟨index', htext⟩ : ∃ i, (spellFrom b index s.rankCase).toList ++ rest = "(".toList ++
      ("CASE".toList ++ ((spellFrom b i (s.ranks.flatMap (rankPieces s.status))).toList ++
        (' ' :: ("ELSE".toList ++ (' ' :: ((toString 0).toList ++
          (' ' :: ("END".toList ++ (")".toList ++ rest))))))))) :=
    ⟨_, by simp [GroupSelect.rankCase, spellFrom, spellFrom_append, Piece.spell]; rfl⟩
  have hblank (cs : List Char) : Breaks (' ' :: cs) := by
    simp [Breaks]
    rfl
  have hbound (cs : List Char) : s.ranks.length ≤
      ((spellFrom b index' (s.ranks.flatMap (rankPieces s.status))).toList ++ cs).length := by
    rw [List.length_append]
    exact Nat.le_add_right_of_le (length_ranks_le s.ranks index')
  rw [htext, case, bind_eq (expect_eq rfl), bind_eq (expect_eq rfl), bind_eq rfl,
    bind_eq (branches_ranks hs (hblank _) (by rfl) index' (hbound _)), bind_eq (expect_blank rfl),
    bind_eq (number_toString 0 (hblank _)), bind_eq (expect_blank rfl), bind_eq (expect_eq rfl)]
  rfl

end Case

end Reader

def Lexeme.isCase : Lexeme → Bool
  | .word text => text == "CASE"
  | _ => false

def Piece.isCaseFree (piece : Piece) : Bool := piece.reads fun x => !x.isCase

def outerWords : List String :=
  sourceWords ++ ["WITH ", " AS (", "SELECT ", ", ", "MAX(", ") AS ", "COUNT(", " GROUP BY ",
    ") SELECT *, COUNT(*) OVER (  ) AS ", " ORDER BY ", " ASC", " LIMIT ", " OFFSET "]

theorem isCaseFree_word : ∀ text ∈ outerWords, (Piece.word text).isCaseFree = true :=
  List.all_eq_true.1 (by decide +kernel)

theorem isCaseFree_identifier (name : String) : (Piece.identifier name).isCaseFree = true := rfl

theorem isCaseFree_column (c : Column) : c.pieces.all Piece.isCaseFree = true := by
  simp (disch := decide) [Column.pieces, isCaseFree_word, isCaseFree_identifier]

theorem isCaseFree_bound (value : Value) : (Piece.bound value).isCaseFree = true := rfl

theorem not_mem_of_isCaseFree {ps : List Piece} (h : ps.all Piece.isCaseFree = true) (b : Backend)
    (index : Nat) : .word "CASE" ∉ lexemesFrom b index ps := by
  intro hmem
  have hall := lexemesFrom_all (fun _ _ => rfl) h b index
  exact absurd (List.all_eq_true.1 hall _ hmem) (by decide)

theorem commaSeparated_append (pss : List (List Piece)) (ps : List Piece) (qss : List (List Piece)) :
    commaSeparated (pss ++ ps :: qss) =
      pss.flatMap (· ++ [.word ", "]) ++ commaSeparated (ps :: qss) := by
  induction pss with
  | nil => rfl
  | cons qs pss ih =>
    obtain ⟨next, rest, hrest⟩ := List.exists_cons_of_ne_nil
      (List.append_ne_nil_of_right_ne_nil pss (List.cons_ne_nil ps qss))
    rw [hrest] at ih
    rw [List.cons_append, hrest, commaSeparated, ih]
    · simp
    · exact List.cons_ne_nil next rest

namespace GroupSelect

def beforeCase (s : GroupSelect) : List Piece :=
  .word "WITH " :: .identifier groupsName :: .word " AS (" :: .word "SELECT " ::
    (s.dimensions.map Output.pieces).flatMap (· ++ [.word ", "]) ++ [.word "MAX("]

def afterCase (s : GroupSelect) : List Piece :=
  [.word ") AS ", .identifier worstRankName, .word ", ", .word "COUNT("] ++ s.primaryKey.pieces ++
    [.word ") AS ", .identifier recordCountName] ++ s.source.pieces ++
    .word " GROUP BY " :: commaSeparated (s.keys.map Column.pieces) ++
    .word ") SELECT *, COUNT(*) OVER (  ) AS " :: .identifier totalCountName :: .word " FROM " ::
    .identifier groupsName :: .word " ORDER BY " ::
    commaSeparated (s.dimensions.map fun o => [.identifier o.name, .word " ASC"]) ++
    pagePieces s.page

theorem pieces_eq (s : GroupSelect) : s.pieces = s.beforeCase ++ (s.rankCase ++ s.afterCase) := by
  simp [pieces, gathering, columns, commaSeparated_append, beforeCase, afterCase, commaSeparated]

theorem readable_beforeCase (s : GroupSelect) : Readable s.beforeCase := by
  have hdimensions : Readable
      ((s.dimensions.map Output.pieces).flatMap (· ++ [.word ", "]) ++ [.word "MAX("]) := by
    induction s.dimensions with
    | nil => exact readable_word rfl
    | cons o dimensions ih =>
      have hnext : Readable (.word ", " :: ((dimensions.map Output.pieces).flatMap
          (· ++ [.word ", "]) ++ [.word "MAX("])) := ih.cons_word ⟨rfl, rfl⟩
      have houtput : Readable o.pieces := (recovered_output (.column o.column, o.name)).readable
      simpa using houtput.append hnext rfl
  have hselect : Readable (.word " AS (" :: .word "SELECT " ::
      ((s.dimensions.map Output.pieces).flatMap (· ++ [.word ", "]) ++ [.word "MAX("])) :=
    (hdimensions.cons_word ⟨rfl, rfl⟩).cons_word ⟨rfl, rfl⟩
  exact ((readable_identifier groupsName).append hselect rfl).cons_word ⟨rfl, rfl⟩

theorem readable_rankCase (s : GroupSelect) : Readable s.rankCase :=
  case_pieces s ▸ (recovered_case _ 0).readable

theorem isCaseFree_beforeCase (s : GroupSelect) : s.beforeCase.all Piece.isCaseFree = true := by
  have houtput (o : Output) : o.pieces.all Piece.isCaseFree = true := by
    rw [Output.pieces, List.all_append, isCaseFree_column]
    simp (disch := decide) [isCaseFree_word, isCaseFree_identifier]
  simp only [beforeCase, List.all_append, List.all_cons, List.all_nil, List.all_flatMap,
    List.all_map, Function.comp_def, houtput]
  simp (disch := decide) [isCaseFree_word, isCaseFree_identifier]

theorem isCaseFree_afterCase (s : GroupSelect) : s.afterCase.all Piece.isCaseFree = true := by
  have hsource : s.source.pieces.all Piece.isCaseFree = true :=
    Admits.source ⟨isCaseFree_identifier, isCaseFree_bound, fun text ht =>
      isCaseFree_word text (List.mem_append_left _ ht)⟩ s.source
  have hgroup := all_commaSeparated (isCaseFree_word ", " (by decide))
    (List.forall_mem_map.2 fun c (_ : c ∈ s.keys) => isCaseFree_column c)
  have hname (o : Output) : [.identifier o.name, .word " ASC"].all Piece.isCaseFree = true := by
    simp (disch := decide) [isCaseFree_word, isCaseFree_identifier]
  have horder := all_commaSeparated (isCaseFree_word ", " (by decide))
    (List.forall_mem_map.2 fun o (_ : o ∈ s.dimensions) => hname o)
  simp only [afterCase, pagePieces, List.all_append, List.all_cons, List.all_nil, hsource, hgroup,
    horder, isCaseFree_column]
  simp (disch := decide) [isCaseFree_word, isCaseFree_identifier, isCaseFree_bound]

end GroupSelect

/-- The text has the word CASE at one place only, and from there it is read as these branches and this
value for all else. -/
def HasCase (b : Backend) (sql : List Char) (branches : List (Comparing × Nat)) (otherwise : Nat) :
    Prop :=
  ∃ before text after, sql = before ++ (text ++ after) ∧
    scan b sql = scan b before ++ (scan b text ++ scan b after) ∧
    .word "CASE" ∉ scan b before ∧ .word "CASE" ∉ scan b after ∧
    Reader.case b (text ++ after) = some ((branches, otherwise), after)

theorem GroupSelect.hasCase (b : Backend) {s : GroupSelect}
    (hs : ∀ entry ∈ s.ranks, '\x00' ∉ entry.1.toList ∧ '\x1a' ∉ entry.1.toList) :
    HasCase b (spell b s.pieces).toList
      (s.ranks.map fun entry => (⟨.column s.status, .eq, .constant entry.1⟩, entry.2)) 0 := by
  have hunits := scan_spell b (.groups s)
  simp only [Select.pieces, pieces_eq, lexemesFrom_append] at hunits
  rw [pieces_eq]
  simp only [spell, spellFrom_append, String.toList_append] at hunits ⊢
  generalize 1 + (params s.beforeCase).length = i at hunits ⊢
  generalize i + (params s.rankCase).length = j at hunits ⊢
  have hclosing : Begins s.afterCase := rfl
  have hopening : Begins s.rankCase := rfl
  have hafter : Breaks (spellFrom b j s.afterCase).toList := by
    simpa using hclosing.breaks b j breaks_nil
  have hsplit := s.readable_beforeCase b 1 _ (hopening.breaks b i hafter)
  rw [s.readable_rankCase b i _ hafter] at hsplit
  -- the units of the whole are known, so those of the end are what is left of them
  have hend : scan b (spellFrom b j s.afterCase).toList = lexemesFrom b j s.afterCase :=
    List.append_cancel_left (List.append_cancel_left (hsplit.symm.trans hunits))
  refine ⟨_, _, _, rfl, ?_, ?_, ?_, Reader.case_rankCase hs i⟩
  · rw [hsplit, s.readable_beforeCase.scan_eq, s.readable_rankCase.scan_eq]
  · rw [s.readable_beforeCase.scan_eq]
    exact not_mem_of_isCaseFree s.isCaseFree_beforeCase b 1
  · rw [hend]
    exact not_mem_of_isCaseFree s.isCaseFree_afterCase b j

end FilterSql.Sql

namespace FilterSql

open Sql

theorem Schema.rankOf_null {V : Type} (schema : Schema) (S : Server V) :
    schema.rankOf S none = 0 := by
  have hfind : (schema.status.severity.find? fun status =>
      S.equal none (some (S.literal (.string status)))) = none :=
    List.find?_eq_none.2 (by rintro _ _ ⟨⟩)
  rw [rankOf, hfind]
  rfl

namespace Statement

/-- The CASE of a grouped statement is read back from its text as one that gives every status its
rank, and zero to null and to what is not listed. No name of a status ends its constant early. -/
theorem compile_case_ranks (dialect : Dialect) (schema : Schema) (q : ResolvedQuery)
    (statement : Statement)
    (hnames : ∀ status ∈ schema.status.severity, '\x00' ∉ status.toList ∧ '\x1a' ∉ status.toList)
    (hg : q.groupBy ≠ []) (hc : q.compile dialect schema = .ok statement) :
    (∃ branches, HasCase dialect.backend statement.sql.toList branches 0 ∧
      ∀ (V : Type) (S : Server V), S.TellsTexts → ∀ scope : Scope V,
        (∀ v, scope schema.baseTable schema.status.column = some (S.literal (.string v)) →
          caseValue S branches 0 scope = schema.statusRank v) ∧
        (∀ v, scope schema.baseTable schema.status.column = some (S.literal (.string v)) →
          v ∉ schema.status.severity → caseValue S branches 0 scope = 0) ∧
        (scope schema.baseTable schema.status.column = none →
          caseValue S branches 0 scope = 0)) ∧
    ∀ status ∈ schema.status.severity, ∀ rest : List Char, rest.head? ≠ some '\x27' →
      readConstant dialect.backend ((dialect.backend.stringConstant status).toList ++ rest) =
        some (status, rest) := by
  obtain ⟨joins, hj, ⟨hnil, -⟩ | ⟨-, -, -, rfl⟩⟩ := compile_eq_ok_iff.1 hc
  · exact absurd hnil hg
  have hranks : ∀ entry ∈ (groups schema q joins).ranks,
      '\x00' ∉ entry.1.toList ∧ '\x1a' ∉ entry.1.toList := by
    rintro _ hentry
    obtain ⟨status, hs, rfl⟩ := List.mem_map.1 hentry
    exact hnames status hs
  refine ⟨⟨_, GroupSelect.hasCase dialect.backend hranks, fun V S hS scope => ?_⟩,
    fun status hs rest hr => readConstant_stringConstant dialect.backend (hnames status hs) hr⟩
  rw [caseValue_ranks]
  refine ⟨fun v hv => ?_, fun v hv hlisted => ?_, fun hv => ?_⟩
  · rw [hv, schema.rankOf_text hS]
  · rw [hv, schema.rankOf_text hS, Schema.statusRank_eq_zero_iff.2 hlisted]
  · rw [hv, schema.rankOf_null]

theorem compile_case_ranks_quotes :
    let schema : Schema :=
      { Schema.builtin with status := ⟨"status", ["it's", "a\\b\n", "passed"]⟩ }
    let q : ResolvedQuery := ⟨none, [.session], ⟨0, 50, by decide⟩⟩
    (∀ status ∈ schema.status.severity, '\x00' ∉ status.toList ∧ '\x1a' ∉ status.toList) ∧
    ∃ statement, q.compile ⟨.postgres, none⟩ schema = .ok statement ∧
      (∃ branches, HasCase .postgres statement.sql.toList branches 0 ∧ ∀ scope : Scope String,
        (scope schema.baseTable "status" = some "a\\b\n" →
          caseValue textServer branches 0 scope = schema.statusRank "a\\b\n") ∧
        (scope schema.baseTable "status" = none → caseValue textServer branches 0 scope = 0)) ∧
      schema.statusRank "a\\b\n" = 2 ∧
      readConstant .postgres
        ((Backend.postgres.stringConstant "it's").toList ++ ") THEN 3".toList) =
          some ("it's", ") THEN 3".toList) := by
  intro schema q
  have hnames : ∀ status ∈ schema.status.severity,
      '\x00' ∉ status.toList ∧ '\x1a' ∉ status.toList := by
    simp [schema]
  obtain ⟨statement, hc⟩ := (exists_compile_iff ⟨.postgres, none⟩ schema q).2
    ⟨⟨[], rfl⟩, .inr ⟨rfl, by decide, by decide⟩⟩
  have htexts : textServer.TellsTexts := fun a b => by simp [textServer, beq_eq_decide]
  obtain ⟨⟨branches, hcase, hvalue⟩, hconstant⟩ := compile_case_ranks ⟨.postgres, none⟩ schema q
    statement hnames (by decide) hc
  refine ⟨hnames, statement, hc, ⟨branches, hcase, fun scope => ?_⟩, by decide,
    hconstant "it's" (by simp [schema]) _ (by simp)⟩
  obtain ⟨htext, -, hnull⟩ := hvalue String textServer htexts scope
  exact ⟨htext "a\\b\n", hnull⟩

end Statement

end FilterSql
