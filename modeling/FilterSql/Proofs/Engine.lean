import FilterSql.Proofs.Dimension
import FilterSql.Proofs.Parser.Errors
import FilterSql.Proofs.Resolution

namespace FilterSql

namespace Schema

theorem check_eq_ok_iff {s : Schema} : s.check = .ok () ↔
    s.fields.entries ≠ [] ∧ s.status.severity ≠ [] ∧ s.status.severity.Nodup ∧
      ∀ entry ∈ s.fields.entries, s.knows (s.tableOf entry.2) = true := by
  have hnodup := firstRepeated_eq_none_iff [] s.status.severity
  simp only [List.not_mem_nil, not_false_eq_true, implies_true, and_true] at hnodup
  rw [← hnodup]
  unfold check fault?
  by_cases hfields : s.fields.entries = []
  · simp [hfields]
  by_cases hseverity : s.status.severity = []
  · simp [hfields, hseverity]
  cases firstRepeated [] s.status.severity with
  | some status => simp [hfields, hseverity]
  | none =>
    cases hfind : s.fields.entries.find? fun entry => !s.knows (s.tableOf entry.2) with
    | some entry => simpa [hfields, hseverity, hfind] using
        ⟨entry.1, entry.2, List.mem_of_find?_eq_some hfind, by simpa using List.find?_some hfind⟩
    | none => simpa [hfields, hseverity, hfind] using List.find?_eq_none.1 hfind

theorem knows_of_check {s : Schema} (h : s.check = .ok ()) {name : String} {field : Field}
    (hf : s.field? name = some field) : s.knows (s.tableOf field) = true := by
  obtain ⟨before, after, hentries, -⟩ := List.lookup_eq_some_iff.1 hf
  obtain ⟨-, -, -, hknows⟩ := check_eq_ok_iff.1 h
  exact hknows (name, field) (by rw [hentries]; simp)

theorem check_builtin : builtin.check = .ok () := by decide

theorem check_of_load {origin text : String} {s : Schema} (h : load origin text = .ok s) :
    s.check = .ok () := by
  simp only [load, bind_eq_ok_iff, pure_eq_ok_iff] at h
  obtain ⟨_, _, ⟨⟩, hc, rfl⟩ := h
  exact hc

end Schema

theorem Dialect.missing?_of_connect {backend : Backend} {version : Option Version}
    {dialect : Dialect} (h : connect backend version = .ok dialect) : dialect.missing? = none := by
  simp only [connect] at h
  split at h
  · cases h
  · next hm =>
    cases h
    exact hm

namespace Dimension

theorem parse_ne_emptyKey {s : String} {d : Dimension} (h : parse s = .ok d) : d ≠ .tag "" := by
  rintro rfl
  cases parse_eq_ok_iff.1 h with
  | tag _ _ _ _ hne => exact hne rfl

theorem emptyKey_notMem_parseList {list : List String} {dimensions : List Dimension}
    (h : parseList list = .ok dimensions) : .tag "" ∉ dimensions := by
  intro hmem
  obtain ⟨s, -, hs⟩ := exists_of_mem_mapM h hmem
  exact parse_ne_emptyKey hs rfl

theorem exists_of_parseList_error {list : List String} {error : QueryError}
    (h : parseList list = .error error) : ∃ input, error = .invalidDimension input := by
  obtain ⟨s, -, hs⟩ := exists_of_mapM_error h
  exact ⟨s, (parse_eq_error_iff.1 hs).1⟩

end Dimension

theorem Page.eq_of_make_error {offset limit : UInt64} {error : QueryError}
    (h : make offset limit = .error error) : error = .zeroLimit := by
  unfold make at h
  split at h
  · cases h
    rfl
  · cases h

theorem Condition.forall_leaves_of_traverse {α β ε : Type} {f : α → Except ε β} {P : β → Prop}
    (hf : ∀ {a b}, f a = .ok b → P b) {t : Condition α} {u : Condition β}
    (h : t.traverse f = .ok u) : ∀ b ∈ u.leaves, P b := by
  have hmap : u.leaves.map P = t.leaves.map fun _ => True :=
    leaves_of_traverse (fun hb => eq_true (hf hb)) h
  intro b hb
  have hmem := List.mem_map_of_mem (f := P) hb
  rw [hmap] at hmem
  obtain ⟨_, -, hP⟩ := List.mem_map.1 hmem
  exact hP ▸ trivial

theorem FieldTest.knows_of_resolve {schema : Schema} (hs : schema.check = .ok ())
    {test : FieldTest} {column : ColumnTest} (h : test.resolve schema = .ok column) :
    schema.knows column.table = true := by
  obtain ⟨field, hf, -, rfl⟩ := resolve_eq_ok_iff.1 h
  exact Schema.knows_of_check hs hf

namespace Query

theorem kind_of_validate_error {schema : Schema} {q : Query} {error : QueryError}
    (h : q.validate schema = .error error) : error.isInternal = false ∧ error.position? = none := by
  rcases validate_eq_error_iff.1 h with h | ⟨-, _, _, _, -, -, -, rfl⟩
  · obtain ⟨_, _, _, -, -, hrefuses⟩ := resolveFilter_eq_error_iff.1 h
    cases hrefuses <;> exact ⟨rfl, rfl⟩
  · exact ⟨rfl, rfl⟩

theorem exists_relatedJoins_of_resolveFilter {schema : Schema} (hs : schema.check = .ok ())
    {filter : Option Filter} {resolved : Option ColumnCondition}
    (h : resolveFilter schema filter = .ok resolved) :
    ∃ joins, Statement.relatedJoins schema resolved = .ok joins := by
  obtain ⟨rfl, rfl⟩ | ⟨t, u, rfl, rfl, ht⟩ := resolveFilter_eq_ok_iff.1 h
  · exact ⟨[], rfl⟩
  · refine (Statement.exists_relatedJoins_iff schema u).2 fun test hmem => ?_
    have hknows := Condition.forall_leaves_of_traverse (FieldTest.knows_of_resolve hs) ht test hmem
    simpa [Schema.knows, NameMap.contains] using hknows

end Query

namespace Engine

/-- What the configuration of an engine vouches for. -/
structure Sound (e : Engine) : Prop where
  check : e.schema.check = .ok ()
  groups : e.dialect.missing? = none

theorem sound_ofConfig {files : Files} {config : Config} {e : Engine}
    (h : ofConfig files config = .ok e) : e.Sound := by
  simp only [ofConfig, bind_eq_ok_iff, pure_eq_ok_iff] at h
  obtain ⟨_, -, schema, hs, dialect, hd, rfl⟩ := h
  constructor
  · unfold Config.loadSchema at hs
    split at hs
    · cases hs
      exact Schema.check_builtin
    · simp only [bind_eq_ok_iff] at hs
      obtain ⟨text, -, hload⟩ := hs
      exact Schema.check_of_load hload
  · simp only [Config.buildDialect, bind_eq_ok_iff] at hd
    obtain ⟨version, -, hconnect⟩ := hd
    exact Dialect.missing?_of_connect hconnect

theorem Sound.exists_compile {e : Engine} (he : e.Sound) {r : Request} {filter : Option Filter}
    {dimensions : List Dimension} {page : Page} {q : ResolvedQuery}
    (hd : Dimension.parseList r.groupBy = .ok dimensions)
    (hq : Query.validate e.schema ⟨filter, dimensions, page⟩ = .ok q) :
    ∃ s, q.compile e.dialect e.schema = .ok s := by
  obtain ⟨resolved, hf, hnodup, rfl⟩ := Query.validate_eq_ok_iff.1 hq
  exact (Statement.exists_compile_iff ..).2 ⟨Query.exists_relatedJoins_of_resolveFilter he.check hf,
    .inr ⟨he.groups, hnodup, Dimension.emptyKey_notMem_parseList hd⟩⟩

theorem Sound.isInternal_compile {e : Engine} (he : e.Sound) {r : Request} {error : QueryError}
    (h : e.compile r = .error error) : error.isInternal = false := by
  simp only [compile, bind_eq_error_iff] at h
  rcases h with h | ⟨filter, -, h | ⟨dimensions, hd, h | ⟨page, -, h | ⟨q, hq, h⟩⟩⟩⟩
  · obtain ⟨position, hp, -⟩ := liesAt_parseFilter h
    exact hp.isInternal_eq_false
  · obtain ⟨input, rfl⟩ := Dimension.exists_of_parseList_error h
    rfl
  · obtain rfl := Page.eq_of_make_error h
    rfl
  · exact (Query.kind_of_validate_error h).1
  · obtain ⟨s, hs⟩ := he.exists_compile hd hq
    cases hs.symm.trans h

inductive Call
  | reload (schema : Schema)
  | compile (request : Request)

inductive Answer
  | reloaded (result : Except ConfigError Unit)
  | compiled (result : Except QueryError Statement)

def perform (e : Engine) : Call → Engine × Answer
  | .reload schema =>
    let (result, e') := (reload schema).run e
    (e', .reloaded result)
  | .compile request => (e, .compiled (e.compile request))

def performAll (e : Engine) : List Call → Engine × List Answer
  | [] => (e, [])
  | call :: calls =>
    let (e', answer) := e.perform call
    let (last, answers) := e'.performAll calls
    (last, answer :: answers)

def Answer.isInternal : Answer → Bool
  | .compiled (.error error) => error.isInternal
  | _ => false

theorem Sound.perform {e : Engine} (he : e.Sound) (call : Call) :
    (e.perform call).1.Sound ∧ (e.perform call).2.isInternal = false := by
  cases call with
  | reload schema =>
    simp only [Engine.perform, run_reload]
    cases hc : schema.check with
    | ok => exact ⟨⟨hc, he.groups⟩, rfl⟩
    | error => exact ⟨he, rfl⟩
  | compile request =>
    refine ⟨he, ?_⟩
    simp only [Engine.perform]
    cases h : e.compile request with
    | ok s => rfl
    | error error => exact he.isInternal_compile h

theorem Sound.performAll {e : Engine} (he : e.Sound) (calls : List Call) :
    (e.performAll calls).1.Sound ∧
      ∀ answer ∈ (e.performAll calls).2, answer.isInternal = false := by
  induction calls generalizing e with
  | nil => exact ⟨he, by simp [Engine.performAll]⟩
  | cons call calls ih =>
    obtain ⟨hnext, hanswer⟩ := he.perform call
    obtain ⟨hlast, hanswers⟩ := ih hnext
    exact ⟨hlast, List.forall_mem_cons.2 ⟨hanswer, hanswers⟩⟩

/-- However an engine that was configured is used, its schema passes the check, a schema that does
not is refused and changes nothing, and no answer blames the program. -/
theorem performAll_ofConfig (files : Files) (config : Config) (e : Engine) (calls : List Call)
    (h : ofConfig files config = .ok e) :
    let current := (e.performAll calls).1
    current.schema.check = .ok () ∧
    (∀ schema error, ((reload schema).run current).1 = .error error →
      ((reload schema).run current).2 = current) ∧
    (∀ request error, current.compile request = .error error → error.isInternal = false) ∧
    ∀ answer ∈ (e.performAll calls).2, answer.isInternal = false := by
  intro current
  obtain ⟨hcurrent, hanswers⟩ := (sound_ofConfig h).performAll calls
  refine ⟨hcurrent.check, fun schema error hr => ?_, fun request error hc => ?_, hanswers⟩
  · rw [run_reload] at hr ⊢
    split at hr
    · cases hr
    · rfl
  · exact hcurrent.isInternal_compile hc

theorem performAll_ofConfig_refused :
    let e := make .builtin ⟨.postgres, none⟩
    let calls : List Call :=
      [.reload { Schema.builtin with fields := .empty }, .compile { query := "x = 1" },
        .compile { query := "name = \"a\"", groupBy := ["session", "tag:a"] }]
    ofConfig (fun _ => .missing) {} = .ok e ∧ (e.performAll calls).1.schema.check = .ok () ∧
      ∀ answer ∈ (e.performAll calls).2, answer.isInternal = false := by
  intro e calls
  have h : ofConfig (fun _ => .missing) {} = .ok e := rfl
  obtain ⟨hcheck, -, -, hanswers⟩ := performAll_ofConfig _ _ e calls h
  exact ⟨h, hcheck, hanswers⟩

end Engine

end FilterSql
