import FilterSql.CommandLine.Program
import FilterSql.Proofs.Engine
import FilterSql.Proofs.Obstacles
import FilterSql.Proofs.Session

/-!
Choosing a backend. A command chooses a server of unknown version, which can run everything; an
option puts the backend beside the version that is configured, which may be that of another system
and too old for this one. Where the version does not stand in the way, both give engines that answer
alike.
-/

namespace FilterSql

theorem Dialect.missing?_eq_none_iff {d : Dialect} : d.missing? = none ↔ ¬d.CannotGroup := by
  rw [← isSome_missing?_iff, Bool.not_eq_true, Option.isSome_eq_false_iff,
    Option.isNone_iff_eq_none]

theorem Dialect.connect_of_missing? {b : Backend} {version : Option Version} {feature : Feature}
    (h : (⟨b, version⟩ : Dialect).missing? = some feature) :
    connect b version = .error (.unsupported b version feature) := by
  simp only [connect, h]

theorem Dialect.connect_of_complete {b : Backend} {version : Option Version}
    (h : (⟨b, version⟩ : Dialect).missing? = none) : connect b version = .ok ⟨b, version⟩ := by
  simp only [connect, h]

namespace Engine

def withDialect (e : Engine) (d : Dialect) : Engine := { e with dialect := d }

theorem compile_withDialect {d d' : Dialect} (hd : d.missing? = none) (hd' : d'.missing? = none)
    (hb : d.backend = d'.backend) (e : Engine) (r : Request) :
    (e.withDialect d).compile r = (e.withDialect d').compile r := by
  have hquery (q : ResolvedQuery) : q.compile d e.schema = q.compile d' e.schema := by
    simp only [ResolvedQuery.compile, Statement.select, hd, hd', hb, Option.isSome_none]
    rfl
  simp only [compile, parse, withDialect, hquery]

variable {files : Files} {c : Config} {e : Engine}

theorem ofConfig_withServer (h : ofConfig files c = .ok e) (server : DialectConfig) :
    ofConfig files (c.withServer server) =
      (c.withServer server).buildDialect.map e.withDialect := by
  simp only [ofConfig, bind_eq_ok_iff, pure_eq_ok_iff] at h
  obtain ⟨_, hcheck, schema, hschema, _, -, rfl⟩ := h
  have hcheck' : (c.withServer server).check = .ok () := hcheck
  have hschema' : (c.withServer server).loadSchema files = .ok schema := hschema
  simp only [ofConfig, hcheck', hschema', bind, Except.bind]
  cases (c.withServer server).buildDialect <;> rfl

theorem exists_serverVersion (h : ofConfig files c = .ok e) :
    ∃ version, c.serverVersion = .ok version := by
  simp only [ofConfig, Config.buildDialect, bind_eq_ok_iff] at h
  obtain ⟨_, -, _, -, _, ⟨version, hversion, -⟩, -⟩ := h
  exact ⟨version, hversion⟩

end Engine

theorem Session.dialect_eq {files : Files} {s : Session} {name : List Char} {b : Backend}
    (he : Engine.ofConfig files s.config = .ok s.engine)
    (hname : Backend.parse (String.ofList name) = .ok b) :
    s.dialect files [name] =
      ⟨{ s with
          engine := s.engine.withDialect ⟨b, none⟩
          config := s.config.withServer ⟨b, none⟩ },
        .ok (.lines ["dialect: " ++ b.name])⟩ := by
  have hengine : Engine.ofConfig files (s.config.withServer ⟨b, none⟩) =
      .ok (s.engine.withDialect ⟨b, none⟩) := Engine.ofConfig_withServer he ⟨b, none⟩
  simp only [Config.withServer] at hengine
  simp only [dialect, hname, hengine]
  rfl

namespace CommandLine

variable {files : Files} {o : Options} {s : Session}

theorem loadConfig_dialect (files : Files) (o : Options) (b : Backend) :
    loadConfig files { o with dialect := some b } =
      (loadConfig files o).map fun c => c.withServer { c.dialect with backend := b } := by
  obtain ⟨config, _, _, _, _, _, _, _, _⟩ := o
  cases config with
  | none => rfl
  | some path =>
    simp only [loadConfig]
    cases Config.load files path <;> rfl

theorem start_eq_ok_iff : start files o = .ok s ↔
    loadConfig files o = .ok s.config ∧ Engine.ofConfig files s.config = .ok s.engine ∧
      s = ⟨s.engine, s.config, o.groupBy, o.offset, o.limit⟩ := by
  have hengine {c : Config} {e : Engine} :
      (Engine.ofConfig files c).mapError Failure.ofConfig = .ok e ↔
        Engine.ofConfig files c = .ok e := by
    cases Engine.ofConfig files c <;> simp [Except.mapError]
  simp only [start, bind_eq_ok_iff, pure_eq_ok_iff, hengine]
  constructor
  · rintro ⟨config, hc, engine, he, rfl⟩
    exact ⟨hc, he, rfl⟩
  · rintro ⟨hc, he, hs⟩
    exact ⟨s.config, hc, s.engine, he, hs.symm⟩

theorem start_dialect (h : start files o = .ok s) (b : Backend) {version : Option Version}
    (hv : s.config.serverVersion = .ok version) :
    start files { o with dialect := some b } =
      ((Dialect.connect b version).mapError Failure.ofConfig).map fun d =>
        { s with
          engine := s.engine.withDialect d
          config := s.config.withServer { s.config.dialect with backend := b } } := by
  obtain ⟨hconfig, hengine, hs⟩ := start_eq_ok_iff.1 h
  have hbuild : (s.config.withServer { s.config.dialect with backend := b }).buildDialect =
      Dialect.connect b version := congrArg (· >>= Dialect.connect b) hv
  have hserver := Engine.ofConfig_withServer hengine { s.config.dialect with backend := b }
  rw [hbuild] at hserver
  simp only [start, loadConfig_dialect, hconfig, Except.map, bind, Except.bind, hserver]
  rw [hs]
  cases Dialect.connect b version <;> rfl

def mysqlFiles : Files := fun path =>
  if path = "engine.json" then
    .text "\x7b\"dialect\": \x7b\"backend\": \"mysql\", \"server_version\": \"8.0.32\"\x7d\x7d"
  else .missing

def mysqlSession : Session :=
  { engine := ⟨.builtin, ⟨.mysql, some ⟨8, 0, 32⟩⟩, {}, 1000⟩
    config := { dialect := ⟨.mysql, some "8.0.32"⟩ }
    groupBy := [], offset := 0, limit := 50 }

theorem start_mysqlFiles :
    start mysqlFiles { config := some "engine.json" } = .ok mysqlSession := by
  have hconfig : loadConfig mysqlFiles { config := some "engine.json" } =
      .ok mysqlSession.config := by cbv
  exact start_eq_ok_iff.2 ⟨hconfig, by rfl, rfl⟩

/-- Every backend can be chosen by a command. An option for it starts the program exactly if the
version that is configured is new enough for it, and is otherwise refused for what that version
lacks; if the program starts, both answer every request alike. -/
theorem start_dialect_iff (files : Files) (o : Options) (s : Session) (line name : List Char)
    (b : Backend) (hs : start files o = .ok s)
    (hline : Text.words line = [":dialect".toList, name])
    (hname : Backend.parse (String.ofList name) = .ok b) :
    let reply := s.command files line
    let started := start files { o with dialect := some b }
    ∃ version, s.config.serverVersion = .ok version ∧
      reply.effect = .ok (.lines ["dialect: " ++ b.name]) ∧
      ((∃ t, started = .ok t) ↔ ¬(⟨b, version⟩ : Dialect).CannotGroup) ∧
      (∀ failure, started = .error failure →
        ∃ feature, (⟨b, version⟩ : Dialect).missing? = some feature ∧
          failure = .ofConfig (.unsupported b version feature)) ∧
      ∀ t, started = .ok t → ∀ r, t.engine.compile r = reply.session.engine.compile r := by
  intro reply started
  obtain ⟨-, hengine, -⟩ := start_eq_ok_iff.1 hs
  obtain ⟨version, hversion⟩ := Engine.exists_serverVersion hengine
  have hreply : reply = s.dialect files [name] := by
    simp only [reply, Session.command_cons hline, String.ofList_toList]
  rw [Session.dialect_eq hengine hname] at hreply
  have hstarted : started = _ := start_dialect hs b hversion
  refine ⟨version, hversion, by rw [hreply], ?_⟩
  rw [← Dialect.missing?_eq_none_iff, hreply]
  cases hm : (⟨b, version⟩ : Dialect).missing? with
  | some feature =>
    rw [Dialect.connect_of_missing? hm] at hstarted
    rw [hstarted]
    refine ⟨iff_of_false ?_ (by simp), fun failure hf => ⟨feature, rfl, ?_⟩, fun t ht => ?_⟩
    · rintro ⟨t, ht⟩
      cases ht
    · cases hf
      rfl
    · cases ht
  | none =>
    rw [Dialect.connect_of_complete hm] at hstarted
    rw [hstarted]
    refine ⟨iff_of_true ⟨_, rfl⟩ rfl, fun failure hf => ?_, fun t ht r => ?_⟩
    · cases hf
    · cases ht
      have hunknown : (⟨b, none⟩ : Dialect).missing? = none := rfl
      exact Engine.compile_withDialect hm hunknown rfl s.engine r

theorem start_dialect_iff_sqlite :
    ∃ t, start mysqlFiles { config := some "engine.json" } = .ok mysqlSession ∧
      start mysqlFiles { config := some "engine.json", dialect := some .sqlite } = .ok t ∧
      ∀ r, t.engine.compile r =
        (mysqlSession.command mysqlFiles ":dialect sqlite".toList).session.engine.compile r := by
  obtain ⟨version, hversion, -, hiff, -, hanswers⟩ := start_dialect_iff mysqlFiles
    { config := some "engine.json" } mysqlSession ":dialect sqlite".toList "sqlite".toList .sqlite
    start_mysqlFiles (by rfl) (by rfl)
  obtain rfl : some ⟨8, 0, 32⟩ = version := Except.ok.inj hversion
  obtain ⟨t, ht⟩ := hiff.2 (by decide)
  exact ⟨t, start_mysqlFiles, ht, hanswers t ht⟩

theorem start_dialect_keeps_version :
    start mysqlFiles { config := some "engine.json" } = .ok mysqlSession ∧
    (mysqlSession.command mysqlFiles ":dialect postgres".toList).effect =
      .ok (.lines ["dialect: postgres"]) ∧
    start mysqlFiles { config := some "engine.json", dialect := some .postgres } =
      .error ⟨"postgres 8.0.32 lacks common table expressions", []⟩ := by
  have hversion : mysqlSession.config.serverVersion = .ok (some ⟨8, 0, 32⟩) := by rfl
  refine ⟨start_mysqlFiles, by rfl, ?_⟩
  exact (start_dialect start_mysqlFiles .postgres hversion).trans (by rfl)

end CommandLine

end FilterSql
