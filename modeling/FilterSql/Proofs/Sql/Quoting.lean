import FilterSql.Proofs.Sql.Spelling

namespace FilterSql

namespace Sql

/-- What stands in front of the next mark, and what stands behind it. A mark that stands twice is one
of the text. Where `escape?` is given, a backslash and the next character stand for another one. -/
def readMarked (mark : Char) (escape? : Option (Char → Option Char)) :
    List Char → Option (List Char × List Char)
  | [] => none
  | [c] => if c = mark then some ([], []) else none
  | c :: d :: rest =>
    if c = mark then
      if d = mark then (readMarked mark escape? rest).map (Prod.map (mark :: ·) id)
      else some ([], d :: rest)
    else
      match if c = '\\' then escape? else none with
      | some escape => (escape d).bind fun e =>
          (readMarked mark escape? rest).map (Prod.map (e :: ·) id)
      | none => (readMarked mark escape? (d :: rest)).map (Prod.map (c :: ·) id)

section Marked

variable {mark : Char} {escape? : Option (Char → Option Char)} {rest : List Char}

theorem readMarked_mark (h : rest.head? ≠ some mark) :
    readMarked mark escape? (mark :: rest) = some ([], rest) := by
  cases rest with
  | nil => simp [readMarked]
  | cons d rest =>
    have hd : d ≠ mark := by simpa using h
    simp [readMarked, hd]

theorem readMarked_twice :
    readMarked mark escape? (mark :: mark :: rest) =
      (readMarked mark escape? rest).map (Prod.map (mark :: ·) id) := by
  simp [readMarked]

theorem readMarked_plain {c : Char} (hm : c ≠ mark) (hc : c = '\\' → escape? = none) :
    readMarked mark escape? (c :: rest) =
      (readMarked mark escape? rest).map (Prod.map (c :: ·) id) := by
  have hnone : (if c = '\\' then escape? else none) = none := by
    split
    · next h => exact hc h
    · rfl
  cases rest with
  | nil => simp [readMarked, hm]
  | cons d rest => simp only [readMarked, hm, hnone, if_false]

theorem readMarked_escape {escape : Char → Option Char} {d e : Char} (hm : mark ≠ '\\')
    (he : escape d = some e) :
    readMarked mark (some escape) ('\\' :: d :: rest) =
      (readMarked mark (some escape) rest).map (Prod.map (e :: ·) id) := by
  simp [readMarked, hm.symm, he]

theorem readMarked_flatMap {write : Char → List Char} {text : List Char}
    (hw : ∀ c ∈ text, ∀ rest, readMarked mark escape? (write c ++ rest) =
      (readMarked mark escape? rest).map (Prod.map (c :: ·) id))
    (h : rest.head? ≠ some mark) :
    readMarked mark escape? (text.flatMap write ++ mark :: rest) = some (text, rest) := by
  induction text with
  | nil => exact readMarked_mark h
  | cons c text ih =>
    obtain ⟨hc, htext⟩ := List.forall_mem_cons.1 hw
    rw [List.flatMap_cons, List.append_assoc, hc, ih htext]
    rfl

theorem readMarked_doubled (text : List Char) (h : rest.head? ≠ some mark) :
    readMarked mark none
        (text.flatMap (fun c => if c = mark then [mark, mark] else [c]) ++ mark :: rest) =
      some (text, rest) := by
  refine readMarked_flatMap (fun c _ rest => ?_) h
  split
  · next hc =>
    subst hc
    exact readMarked_twice
  · next hc => exact readMarked_plain hc fun _ => rfl

/-- Only a text that is written so is read so, and what is left does not begin with a mark. -/
theorem eq_of_readMarked {cs text : List Char}
    (h : readMarked mark none cs = some (text, rest)) :
    cs = text.flatMap (fun c => if c = mark then [mark, mark] else [c]) ++ mark :: rest ∧
      rest.head? ≠ some mark := by
  fun_induction readMarked mark none cs generalizing text with
  | case1 => cases h
  | case2 =>
    cases h
    simp
  | case3 => cases h
  | case4 inner ih =>
    obtain ⟨⟨text, _⟩, hread, ⟨⟩⟩ := Option.map_eq_some_iff.1 h
    obtain ⟨hinner, hrest⟩ := ih hread
    exact ⟨by simp [hinner], hrest⟩
  | case5 d inner hd =>
    cases h
    exact ⟨rfl, by simpa using hd⟩
  | case6 c _ _ _ _ hescape => simp at hescape
  | case7 c d inner hc _ ih =>
    obtain ⟨⟨text, _⟩, hread, ⟨⟩⟩ := Option.map_eq_some_iff.1 h
    obtain ⟨hinner, hrest⟩ := ih hread
    exact ⟨by simp [hinner, hc], hrest⟩

end Marked

def readIdentifier (b : Backend) : List Char → Option (String × List Char)
  | [] => none
  | c :: rest =>
    if c = b.quoteMark then (readMarked b.quoteMark none rest).map (Prod.map String.ofList id)
    else none

section Identifiers

variable {b : Backend} {name : String} {rest : List Char}

theorem toList_quoteIdentifier (b : Backend) (name : String) :
    (b.quoteIdentifier name).toList = b.quoteMark :: (name.toList.flatMap
      (fun c => if c = b.quoteMark then [b.quoteMark, b.quoteMark] else [c]) ++ [b.quoteMark]) := by
  simp [Backend.quoteIdentifier, quoteWith]

theorem readIdentifier_eq_some_iff {cs : List Char} : readIdentifier b cs = some (name, rest) ↔
    cs = (b.quoteIdentifier name).toList ++ rest ∧ rest.head? ≠ some b.quoteMark := by
  rw [toList_quoteIdentifier]
  constructor
  · intro h
    cases cs with
    | nil => cases h
    | cons c inner =>
      simp only [readIdentifier] at h
      split at h
      · next hc =>
        obtain ⟨⟨text, _⟩, hread, ⟨⟩⟩ := Option.map_eq_some_iff.1 h
        obtain ⟨hinner, hrest⟩ := eq_of_readMarked hread
        exact ⟨by simp [hc, hinner], hrest⟩
      · cases h
  · rintro ⟨rfl, hrest⟩
    simp [readIdentifier, readMarked_doubled name.toList hrest]

theorem quoteIdentifier_injective {other : String}
    (h : b.quoteIdentifier other = b.quoteIdentifier name) : other = name := by
  have hread (s : String) : readIdentifier b (b.quoteIdentifier s).toList = some (s, []) :=
    readIdentifier_eq_some_iff.2 ⟨by simp, by simp⟩
  have hsame := (hread other).symm.trans (h ▸ hread name)
  exact congrArg Prod.fst (Option.some.inj hsame)

/-- A name is quoted as in a statement: between two marks, with every mark in it replaced by two. It
is read up to its end if no mark stands behind it, as this name and no other. -/
theorem quoteIdentifier_read_back (d : Dialect) (name : String) :
    let mark := d.backend.quoteMark
    let quoted := d.backend.quoteIdentifier name
    quoted = String.ofList (mark :: (Text.replaceEach mark [mark, mark] name.toList ++ [mark])) ∧
    (∀ before after, spell d.backend (before ++ .identifier name :: after) =
      spell d.backend before ++ quoted ++
        spellFrom d.backend (1 + (params before).length) after) ∧
    (∀ cs rest, readIdentifier d.backend cs = some (name, rest) ↔
      cs = quoted.toList ++ rest ∧ rest.head? ≠ some mark) ∧
    ∀ other, d.backend.quoteIdentifier other = quoted → other = name := by
  intro mark quoted
  refine ⟨?_, fun before after => ?_, fun cs rest => readIdentifier_eq_some_iff,
    fun other => quoteIdentifier_injective⟩
  · rw [Text.replaceEach_eq_flatMap, ← toList_quoteIdentifier, String.ofList_toList]
  · rw [spell, spellFrom_append, String.append_assoc, spellFrom, Piece.spell,
      Spelling.identifier_ofBackend]
    rfl

end Identifiers

end Sql

end FilterSql
