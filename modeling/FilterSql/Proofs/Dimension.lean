import FilterSql.Dimension.Parser
import FilterSql.Proofs.Statement
import FilterSql.Proofs.Trimming

namespace FilterSql.Dimension

open Text (Trims trims_self trim_eq_iff)

inductive Denotes (s : String) : Dimension → Prop
  | session {part : List Char} : Trims s.toList part →
      part.map Char.toLower = "session".toList → Denotes s .session
  | tag {head rest : List Char} {key : String} : Trims s.toList (head ++ ':' :: rest) →
      ':' ∉ head → head.map Char.toLower ∈ ["tag".toList, "label".toList] →
      Trims rest key.toList → key ≠ "" → Denotes s (.tag key)

theorem keyOf?_eq_some_iff {cs key : List Char} : keyOf? cs = some key ↔
    ∃ head rest, cs = head ++ ':' :: rest ∧ ':' ∉ head ∧
      head.map Char.toLower ∈ ["tag".toList, "label".toList] ∧ Trims rest key ∧ key ≠ [] := by
  constructor
  · intro h
    have happ : cs.takeWhile (· != ':') ++ cs.dropWhile (· != ':') = cs :=
      List.takeWhile_append_dropWhile
    have hcolon : ':' ∉ cs.takeWhile (· != ':') := fun hmem =>
      absurd (List.all_eq_true.1 List.all_takeWhile ':' hmem) (by decide)
    have hhead := Lexer.head?_dropWhile (p := (· != ':')) cs
    simp only [keyOf?] at h
    split at h
    · next c rest hd =>
      rw [hd] at happ hhead
      obtain rfl : c = ':' := by simpa using hhead
      split at h
      · next hword =>
        cases h
        simp only [Text.isWord, Bool.and_eq_true, Bool.or_eq_true, beq_iff_eq, Bool.not_eq_true',
          List.isEmpty_eq_false_iff] at hword
        exact ⟨_, rest, happ.symm, hcolon, by simpa using hword.1, trim_eq_iff.1 rfl, hword.2⟩
      · cases h
    · cases h
  · rintro ⟨head, rest, rfl, hcolon, hword, htrim, hne⟩
    have hplain : ∀ c ∈ head, (c != ':') = true := fun c hc => by
      simpa using fun heq : c = ':' => hcolon (heq ▸ hc)
    have hstop : ∀ c ∈ (':' :: rest).head?, (c != ':') = false := by simp
    have hword : (Text.isWord "tag" head || Text.isWord "label" head) = true := by
      simpa [Text.isWord] using hword
    simp only [keyOf?, Lexer.takeWhile_eq hplain hstop, Lexer.dropWhile_eq hplain hstop,
      trim_eq_iff.2 htrim, hword, Bool.true_and]
    rw [if_pos (by simpa using hne)]

theorem isWord_session_eq_false {head rest : List Char} :
    Text.isWord "session" (head ++ ':' :: rest) = false := by
  rw [← Bool.not_eq_true]
  intro h
  exact absurd (Text.isAlpha_of_isWord h (by decide) ':' (by simp)) (by decide)

theorem parse_eq_ok_iff {s : String} {d : Dimension} : parse s = .ok d ↔ Denotes s d := by
  simp only [parse]
  constructor
  · intro h
    split at h
    · next hword =>
      cases h
      exact .session (trim_eq_iff.1 rfl) (beq_iff_eq.1 hword)
    · split at h
      · next key hkey =>
        cases h
        obtain ⟨head, rest, hcs, hcolon, hword, htrim, hne⟩ := keyOf?_eq_some_iff.1 hkey
        exact .tag (trim_eq_iff.1 hcs) hcolon hword (by simpa using htrim) (by simpa using hne)
      · cases h
  · rintro (⟨htrim, hword⟩ | @⟨head, rest, key, htrim, hcolon, hword, hkey, hne⟩)
    · simp [trim_eq_iff.2 htrim, Text.isWord, hword]
    · have hkeyOf : keyOf? (head ++ ':' :: rest) = some key.toList :=
        keyOf?_eq_some_iff.2 ⟨head, rest, rfl, hcolon, hword, hkey, by simpa using hne⟩
      simp [trim_eq_iff.2 htrim, isWord_session_eq_false, hkeyOf]

theorem parse_eq_error_iff {s : String} {e : QueryError} : parse s = .error e ↔
    e = .invalidDimension s ∧ ∀ d, ¬Denotes s d := by
  simp only [← parse_eq_ok_iff]
  simp only [parse]
  split
  · simp
  · split <;> simp [eq_comm]

theorem Denotes.render {s : String} {d : Dimension} (h : Denotes s d) : Denotes d.render d := by
  cases h with
  | session => exact .session (trims_self (by rintro _ ⟨⟩; rfl) (by rintro _ ⟨⟩; rfl)) rfl
  | @tag _ _ key _ _ _ hkey hne =>
    have hlast : ("tag:".toList ++ key.toList).getLast? = key.toList.getLast? :=
      List.getLast?_append_of_ne_nil _ (by simpa using hne)
    have hshown : Trims (Dimension.tag key).render.toList ("tag".toList ++ ':' :: key.toList) := by
      simp only [Dimension.render, String.toList_append]
      exact trims_self (by rintro _ ⟨⟩; rfl) (by rw [hlast]; exact hkey.last)
    exact .tag hshown (by simp) (by simp) (trims_self hkey.first hkey.last) hne

theorem mapM_eq_ok_iff_forall₂ {α β ε : Type} {f : α → Except ε β} {as : List α} {bs : List β} :
    as.mapM f = .ok bs ↔ List.Forall₂ (fun a b => f a = .ok b) as bs := by
  induction as generalizing bs with
  | nil => cases bs <;> simp [pure, Except.pure]
  | cons a as ih =>
    rw [mapM_cons_eq_ok_iff]
    cases bs with
    | nil => simp
    | cons b bs => simp [ih]

/-- A text is read as the dimension that it denotes and refused as it stands if it denotes none.
What was read is shown as a text that is read as the same again, one dimension or a list of them. -/
theorem parse_normal_form (s : String) (texts : List String) :
    (∀ d, parse s = .ok d ↔ Denotes s d) ∧
    (∀ e, parse s = .error e ↔ e = .invalidDimension s ∧ ∀ d, ¬Denotes s d) ∧
    (∀ d, parse s = .ok d → parse d.render = .ok d) ∧
    ((∃ ds, parseList texts = .ok ds) ↔ ∀ text ∈ texts, ∃ d, parse text = .ok d) ∧
    ∀ ds, parseList texts = .ok ds → List.Forall₂ (fun text d => parse text = .ok d) texts ds ∧
      parseList (ds.map render) = .ok ds := by
  have hrender {s : String} {d : Dimension} (h : parse s = .ok d) : parse d.render = .ok d :=
    parse_eq_ok_iff.2 (parse_eq_ok_iff.1 h).render
  refine ⟨fun d => parse_eq_ok_iff, fun e => parse_eq_error_iff, fun d => hrender,
    exists_mapM_eq_ok_iff, fun ds h => ⟨mapM_eq_ok_iff_forall₂.1 h, ?_⟩⟩
  rw [parseList, mapM_eq_ok_iff_forall₂, List.forall₂_map_left_iff, List.forall₂_same]
  intro d hd
  obtain ⟨text, -, hparse⟩ := exists_of_mem_mapM h hd
  exact hrender hparse

theorem parse_normal_form_colons :
    Denotes "\u3000LABEL: tag:a  b: " (.tag "tag:a  b:") ∧
      parse (tag "tag:a  b:").render = .ok (.tag "tag:a  b:") ∧
      parseList ["tag:a", "Session "] = .ok [.tag "a", .session] ∧
      parseList [(tag "a").render, session.render] = .ok [.tag "a", .session] := by
  have hs : parse "\u3000LABEL: tag:a  b: " = .ok (.tag "tag:a  b:") := by rfl
  have hlist : parseList ["tag:a", "Session "] = .ok [.tag "a", .session] := by rfl
  obtain ⟨hdenotes, -, hrender, -, hshown⟩ :=
    parse_normal_form "\u3000LABEL: tag:a  b: " ["tag:a", "Session "]
  exact ⟨(hdenotes _).1 hs, hrender _ hs, hlist, (hshown _ hlist).2⟩

end FilterSql.Dimension
