import FilterSql.Session.Transcript
import Mathlib

/-!
What a failing command leaves of a session. The engine, the dimensions and the limit stay, but two
commands fail with a part of them done: a page whose limit cannot be read has set its offset, and a
backend that no engine can be built for stands in the configuration. Of these only the offset is
ever seen again.
-/

namespace FilterSql

def Config.withServer (c : Config) (server : DialectConfig) : Config :=
  { c with dialect := server }

namespace Session

/-- Words of a command that fails behind its first change, with its error and the session it
leaves. -/
inductive HalfDone (files : Files) (s : Session) :
    List (List Char) → CommandError → Session → Prop
  | page {first second : List Char} {offset : UInt64} {fault : Text.NumeralFault} :
      Text.readUInt64 first = .ok offset → Text.readUInt64 second = .error fault →
      HalfDone files s [":page".toList, first, second] (.invalidLimit fault)
        { s with offset := offset }
  | dialect {name : List Char} {backend : Backend} {error : ConfigError} :
      Backend.parse (String.ofList name) = .ok backend →
      Engine.ofConfig files { s.config with dialect := ⟨backend, none⟩ } = .error error →
      HalfDone files s [":dialect".toList, name] (.config error)
        { s with config := { s.config with dialect := ⟨backend, none⟩ } }

def turns (s : Session) : List (Files × List Char) → List Transcript
  | [] => []
  | (files, line) :: later =>
    (s.turn files line).transcript ::
      match (s.turn files line).session with
      | none => []
      | some s => s.turns later

theorem run_eq_turns (files : Files) (s : Session) (lines : List (List Char)) :
    s.run files lines = (s.turns (lines.map (files, ·))).foldr Transcript.append {} := by
  induction lines generalizing s with
  | nil => rfl
  | cons line lines ih =>
    simp only [run, turns, List.map_cons, List.foldr_cons]
    cases (s.turn files line).session with
    | none => simp [Transcript.append]
    | some t => simp only [ih]

section Failures

variable {files : Files} {s : Session} {arguments : List (List Char)} {error : CommandError}

theorem page_error (h : (s.page arguments).effect = .error error) :
    (s.page arguments).session = s ∨
      HalfDone files s (":page".toList :: arguments) error (s.page arguments).session := by
  unfold page at h ⊢
  split
  · next first second =>
    cases hfirst : Text.readUInt64 first with
    | error fault => exact .inl rfl
    | ok offset =>
      cases hsecond : Text.readUInt64 second with
      | error fault =>
        simp only [hfirst, hsecond] at h ⊢
        cases h
        exact .inr (.page hfirst hsecond)
      | ok limit =>
        simp only [hfirst, hsecond] at h
        cases h
  · exact .inl rfl

theorem dialect_error (h : (s.dialect files arguments).effect = .error error) :
    (s.dialect files arguments).session = s ∨
      HalfDone files s (":dialect".toList :: arguments) error
        (s.dialect files arguments).session := by
  unfold dialect at h ⊢
  split
  · next name =>
    cases hname : Backend.parse (String.ofList name) with
    | error e => exact .inl rfl
    | ok backend =>
      cases hengine : Engine.ofConfig files { s.config with dialect := ⟨backend, none⟩ } with
      | error e =>
        simp only [hname, hengine] at h ⊢
        cases h
        exact .inr (.dialect hname hengine)
      | ok engine =>
        simp only [hname, hengine] at h
        cases h
  · exact .inl rfl

theorem reload_error (h : (s.reload files).effect = .error error) :
    (s.reload files).session = s := by
  unfold reload at h ⊢
  cases hschema : s.config.loadSchema files with
  | error e => rfl
  | ok schema =>
    simp only [hschema, Engine.run_reload] at h ⊢
    cases hcheck : schema.check with
    | error e => rfl
    | ok =>
      rw [hcheck] at h
      cases h

theorem command_nil {line : List Char} (h : Text.words line = []) :
    s.command files line = ⟨s, .error (.unknown "")⟩ := by
  simp only [command, h]
  rfl

theorem command_cons {line word : List Char} (h : Text.words line = word :: arguments) :
    s.command files line =
      match String.ofList word with
      | ":quit" => ⟨s, .ok .quit⟩
      | ":q" => ⟨s, .ok .quit⟩
      | ":group" => s.group arguments
      | ":page" => s.page arguments
      | ":dialect" => s.dialect files arguments
      | ":reload" => s.reload files
      | ":help" => ⟨s, .ok (.lines helpLines)⟩
      | name => ⟨s, .error (.unknown name)⟩ := by
  simp only [command, h]
  rfl

theorem command_error {line : List Char} (h : (s.command files line).effect = .error error) :
    (s.command files line).session = s ∨
      HalfDone files s (Text.words line) error (s.command files line).session := by
  cases hwords : Text.words line with
  | nil =>
    rw [command_nil hwords]
    exact .inl rfl
  | cons word arguments =>
    have hname {name : String} (he : String.ofList word = name) : word = name.toList := by
      rw [← he, String.toList_ofList]
    rw [command_cons hwords] at h ⊢
    split at h
    · cases h
    · cases h
    · cases h
    · next he => exact hname he ▸ page_error h
    · next he => exact hname he ▸ dialect_error h
    · exact .inl (reload_error h)
    · cases h
    · exact .inl rfl

theorem HalfDone.command_eq {line : List Char} {t : Session}
    (h : HalfDone files s (Text.words line) error t) :
    s.command files line = ⟨t, .error error⟩ := by
  generalize hwords : Text.words line = words at h
  cases h with
  | page hfirst hsecond => simp [command_cons hwords, Session.page, hfirst, hsecond]
  | dialect hname hengine => simp [command_cons hwords, Session.dialect, hname, hengine]

end Failures

def withServer (s : Session) (server : DialectConfig) : Session :=
  { s with config := s.config.withServer server }

section Dialects

variable (files : Files) (s : Session) (server : DialectConfig)

theorem page_withServer (arguments : List (List Char)) :
    (s.withServer server).page arguments =
      ⟨(s.page arguments).session.withServer server, (s.page arguments).effect⟩ := by
  unfold page
  split
  · next first second =>
    cases Text.readUInt64 first with
    | error fault => rfl
    | ok offset => cases Text.readUInt64 second <;> rfl
  · rfl

theorem dialect_withServer (arguments : List (List Char)) :
    ∃ server', (s.withServer server).dialect files arguments =
      ⟨(s.dialect files arguments).session.withServer server',
        (s.dialect files arguments).effect⟩ := by
  unfold dialect
  split
  · next name =>
    cases Backend.parse (String.ofList name) with
    | error error => exact ⟨server, rfl⟩
    | ok backend =>
      refine ⟨⟨backend, none⟩, ?_⟩
      simp only [withServer, Config.withServer]
      cases Engine.ofConfig files { s.config with dialect := ⟨backend, none⟩ } <;> rfl
  · exact ⟨server, rfl⟩

theorem reload_withServer :
    (s.withServer server).reload files =
      ⟨(s.reload files).session.withServer server, (s.reload files).effect⟩ := by
  have hschema : (s.withServer server).config.loadSchema files = s.config.loadSchema files := rfl
  have hengine : (s.withServer server).engine = s.engine := rfl
  unfold reload
  rw [hschema, hengine]
  cases s.config.loadSchema files <;> rfl

/-- No command shows which server stands in the configuration. -/
theorem command_withServer (line : List Char) :
    ∃ server', (s.withServer server).command files line =
      ⟨(s.command files line).session.withServer server', (s.command files line).effect⟩ := by
  cases hwords : Text.words line with
  | nil =>
    rw [command_nil hwords, command_nil hwords]
    exact ⟨server, rfl⟩
  | cons word arguments =>
    rw [command_cons hwords, command_cons hwords]
    split
    · exact ⟨server, rfl⟩
    · exact ⟨server, rfl⟩
    · exact ⟨server, rfl⟩
    · exact ⟨server, page_withServer s server arguments⟩
    · exact dialect_withServer files s server arguments
    · exact ⟨server, reload_withServer files s server⟩
    · exact ⟨server, rfl⟩
    · exact ⟨server, rfl⟩

theorem obey_withServer (line : List Char) :
    ∃ server', (s.withServer server).obey files line =
      ⟨(s.obey files line).session.map (·.withServer server'),
        (s.obey files line).transcript⟩ := by
  unfold obey
  split
  · next rest =>
    obtain ⟨server', h⟩ := command_withServer files s server (':' :: rest)
    refine ⟨server', ?_⟩
    rw [h]
    obtain ⟨t, effect⟩ := s.command files (':' :: rest)
    cases effect with
    | error error => rfl
    | ok effect => cases effect <;> rfl
  · exact ⟨server, rfl⟩

theorem turn_withServer (line : List Char) :
    ∃ server', (s.withServer server).turn files line =
      ⟨(s.turn files line).session.map (·.withServer server'),
        (s.turn files line).transcript⟩ := by
  unfold turn
  split
  · exact ⟨server, rfl⟩
  · exact ⟨server, rfl⟩
  · exact obey_withServer files s server _

theorem turns_withServer (later : List (Files × List Char)) :
    (s.withServer server).turns later = s.turns later := by
  induction later generalizing s server with
  | nil => rfl
  | cons next later ih =>
    obtain ⟨files, line⟩ := next
    obtain ⟨server', h⟩ := turn_withServer files s server line
    simp only [turns, h]
    cases (s.turn files line).session with
    | none => rfl
    | some t => simp only [Option.map_some, ih t server']

end Dialects

theorem HalfDone.kept {files : Files} {s t : Session} {words : List (List Char)}
    {error : CommandError} (h : HalfDone files s words error t) :
    t.engine = s.engine ∧ t.groupBy = s.groupBy ∧ t.limit = s.limit ∧
      ∀ later, t.turns later = { s with offset := t.offset }.turns later := by
  cases h with
  | page => exact ⟨rfl, rfl, rfl, fun _ => rfl⟩
  | @dialect _ backend => exact ⟨rfl, rfl, rfl, turns_withServer s ⟨backend, none⟩⟩

/-- A command that fails leaves the session as it is, or is one of the two that are done by half.
The engine, the dimensions and the limit stay in any case, and whatever is entered later is answered
as if only the offset had been set. -/
theorem command_error_leaves (files : Files) (s : Session) (line : List Char)
    (error : CommandError) (h : (s.command files line).effect = .error error) :
    let after := (s.command files line).session
    (after = s ∨ HalfDone files s (Text.words line) error after) ∧
    (∀ e t, HalfDone files s (Text.words line) e t → error = e ∧ after = t) ∧
    after.engine = s.engine ∧ after.groupBy = s.groupBy ∧ after.limit = s.limit ∧
    (∀ later, after.turns later = { s with offset := after.offset }.turns later) ∧
    ∀ files' lines,
      after.run files' lines = { s with offset := after.offset }.run files' lines := by
  intro after
  have hcases : after = s ∨ HalfDone files s (Text.words line) error after := command_error h
  obtain ⟨hengine, hgroupBy, hlimit, hturns⟩ : after.engine = s.engine ∧
      after.groupBy = s.groupBy ∧ after.limit = s.limit ∧
      ∀ later, after.turns later = { s with offset := after.offset }.turns later := by
    rcases hcases with hs | hs
    · rw [hs]
      exact ⟨rfl, rfl, rfl, fun _ => rfl⟩
    · exact hs.kept
  refine ⟨hcases, fun e t ht => ?_, hengine, hgroupBy, hlimit, hturns, fun files' lines => ?_⟩
  · have heffect : Except.error error = Except.error e :=
      h.symm.trans (congrArg Reply.effect ht.command_eq)
    exact ⟨Except.error.inj heffect, congrArg Reply.session ht.command_eq⟩
  · rw [run_eq_turns, run_eq_turns, hturns]

theorem command_error_leaves_dialect :
    let files : Files := fun _ => .missing
    let s : Session :=
      { engine := .make .builtin ⟨.postgres, none⟩
        config := { schemaPath := some "fields.json" }
        groupBy := [], offset := 0, limit := 50 }
    let reply := s.command files ":dialect mysql".toList
    reply.effect = .error (.config (.notFound "fields.json")) ∧
      reply.session.config.dialect.backend = .mysql ∧ reply.session.engine = s.engine ∧
      ∀ later, reply.session.turns later = s.turns later := by
  intro files s reply
  have herror : reply.effect = .error (.config (.notFound "fields.json")) := rfl
  obtain ⟨-, -, hengine, -, -, hturns, -⟩ := command_error_leaves files s _ _ herror
  exact ⟨herror, rfl, hengine, hturns⟩

theorem command_error_moves_offset :
    let files : Files := fun _ => .missing
    let s : Session :=
      { engine := .make .builtin ⟨.postgres, none⟩
        config := {}, groupBy := [], offset := 0, limit := 50 }
    let reply := s.command files ":page 7 b".toList
    reply.effect = .error (.invalidLimit .invalidDigit) ∧ reply.session = { s with offset := 7 } ∧
      reply.session.query "name = \"a\"".toList ≠ s.query "name = \"a\"".toList := by
  intro files s reply
  have hparse : s.engine.parse "name = \"a\"" =
      .ok (some (.leaf ⟨"name", .eq, .string "a", ⟨0, 4⟩⟩)) := by cbv
  have hvalidate (page : Page) : Query.validate s.engine.schema
      ⟨some (.leaf ⟨"name", .eq, .string "a", ⟨0, 4⟩⟩), [], page⟩ =
      .ok ⟨some (.leaf ⟨"name", "test_result", "name", .string, .eq, .string "a"⟩), [], page⟩ := by
    cbv
  have hselect (page : Page) : Statement.select s.engine.dialect s.engine.schema
      ⟨some (.leaf ⟨"name", "test_result", "name", .string, .eq, .string "a"⟩), [], page⟩ =
      .ok (.records ⟨⟨"test_result", [], some (.leaf ⟨"name", "test_result", "name", .string, .eq,
        .string "a"⟩)⟩, Statement.recordOrder s.engine.schema, page⟩) := by
    cbv
  have hpage (offset : UInt64) : Page.make offset (min s.limit s.engine.maxLimit) =
      .ok ⟨offset, 50, by decide⟩ := rfl
  have hlast (offset : UInt64) :
      ({ s with offset := offset }.query "name = \"a\"".toList).shown.getLast? =
        some ("  [3] BigUnsigned(Some(" ++ toString offset.toNat ++ "))") := by
    have hdimensions : Dimension.parseList s.groupBy = .ok [] := rfl
    simp only [query, request, Engine.compile, String.ofList_toList, hparse, hdimensions, hpage,
      bind, Except.bind, hvalidate, ResolvedQuery.compile, hselect, Except.map]
    rfl
  refine ⟨rfl, rfl, fun h => ?_⟩
  have hlines := (hlast 7).symm.trans ((congrArg (·.shown.getLast?) h).trans (hlast 0))
  exact absurd hlines (by decide)

end Session

end FilterSql
