import FilterSql.Config.Json
import FilterSql.Proofs.Engine
import FilterSql.Proofs.Json.Reading
import FilterSql.Proofs.Numeral
import Mathlib

namespace FilterSql

namespace Json

theorem mapM_eq_some {α β : Type} {f : α → β} {g : β → Option α} {as : List α}
    (h : ∀ a ∈ as, g (f a) = some a) : (as.map f).mapM g = some as := by
  induction as with
  | nil => rfl
  | cons a as ih =>
    obtain ⟨ha, has⟩ := List.forall_mem_cons.1 h
    simp [List.mapM_cons, ha, ih has]

theorem toRecord?_record {names : List String} (hnames : names.Nodup)
    {members : List (String × Json)} (h : (members.map Prod.fst).Sublist names) :
    (record members).toRecord? names = some members := by
  have hread : (members.map fun m => (some m.1, m.2)).mapM (member? some) = some members :=
    mapM_eq_some fun _ _ => rfl
  have hknown : (members.filter fun m => names.contains m.1) = members :=
    List.filter_eq_self.2 fun m hm =>
      List.contains_iff_mem.2 (h.subset (List.mem_map_of_mem hm))
  have hnodup : (members.map Prod.fst).Nodup := hnames.sublist h
  calc (record members).toRecord? names
    _ = ((members.map fun m => (some m.1, m.2)).mapM (member? some)).bind fun given =>
          let known := given.filter fun m => names.contains m.1
          if (known.map Prod.fst).Nodup then some known else none := rfl
    _ = some members := by rw [hread, Option.bind_some, hknown, if_pos hnodup]

theorem lookup_member (name other : String) (j : Json) (fields : List (String × Json)) :
    ((other, j) :: fields).lookup name = if name = other then some j else fields.lookup name := by
  by_cases h : name = other
  · simp [h]
  · simp [List.lookup, h, beq_eq_false_iff_ne.2 h]

@[simp] theorem toText?_text (s : String) : (text s).toText? = some s := rfl

@[simp] theorem toOption?_text {α : Type} (decode : Json → Option α) (s : String) :
    (text s).toOption? decode = (decode (text s)).map some := rfl

@[simp] theorem toOption?_record {α : Type} (decode : Json → Option α)
    (members : List (String × Json)) :
    (record members).toOption? decode = (decode (record members)).map some := rfl

theorem toUInt64?_nat (n : UInt64) : (nat n.toNat).toUInt64? = some n := by
  obtain ⟨d, ds, hds, hdigits⟩ := exists_digits n.toNat
  have hvalue := Text.natValue_toString n.toNat
  have hlt := n.toNat_lt_size
  rw [hds] at hvalue
  simp only [toUInt64?, nat, hds, Lexer.readBounded_digits _ hdigits, hvalue]
  rw [if_neg (by omega)]
  simp [Except.map, Except.toOption]

theorem toList?_array {α : Type} {encode : α → Json} {decode : Json → Option α}
    (h : ∀ a, decode (encode a) = some a) (as : List α) :
    (array (as.map encode)).toList? decode = some as :=
  mapM_eq_some fun a _ => h a

end Json

namespace NameMap

theorem insertEntry_of_lt {α : Type} {name : String} {entries : List (String × α)}
    (h : ∀ entry ∈ entries, entry.1 < name) (value : α) :
    insertEntry name value entries = entries ++ [(name, value)] := by
  induction entries with
  | nil => rfl
  | cons entry rest ih =>
    obtain ⟨hentry, hrest⟩ := List.forall_mem_cons.1 h
    have hne : name ≠ entry.1 := fun heq => String.lt_irrefl _ (heq ▸ hentry)
    simp [insertEntry, String.lt_asymm hentry, hne, ih hrest]

theorem entries_foldl_insert {α : Type} {m : NameMap α} {later : List (String × α)}
    (h : (m.entries ++ later).Pairwise (·.1 < ·.1)) :
    (later.foldl (fun m entry => m.insert entry.1 entry.2) m).entries = m.entries ++ later := by
  induction later generalizing m with
  | nil => simp
  | cons entry later ih =>
    have hlt : ∀ e ∈ m.entries, e.1 < entry.1 := fun e he =>
      (List.pairwise_append.1 h).2.2 e he entry List.mem_cons_self
    have hinsert : (m.insert entry.1 entry.2).entries = m.entries ++ [entry] :=
      insertEntry_of_lt hlt entry.2
    rw [List.foldl_cons, ih (by simpa [hinsert] using h), hinsert, List.append_assoc,
      List.singleton_append]

theorem ofList_entries {α : Type} (m : NameMap α) : ofList m.entries = m := by
  have h : (ofList m.entries).entries = m.entries := entries_foldl_insert m.sorted
  cases m
  cases hm : ofList _
  simp_all

theorem toNameMap?_toJson {α : Type} {encode : α → Json} {decode : Json → Option α}
    (h : ∀ a, decode (encode a) = some a) (m : NameMap α) :
    (m.toJson encode).toNameMap? decode = some m := by
  have hread : (m.entries.map fun entry => (some entry.1, encode entry.2)).mapM
      (Json.member? decode) = some m.entries :=
    Json.mapM_eq_some fun entry _ => by simp [Json.member?, h]
  rw [toJson, Json.record, List.map_map, Json.toNameMap?]
  exact (congrArg (Option.map ofList) hread).trans (congrArg some m.ofList_entries)

theorem legible_toJson {α : Type} {encode : α → Json} (h : ∀ a, (encode a).Legible)
    (m : NameMap α) : (m.toJson encode).Legible :=
  Json.legible_record (List.forall_mem_map.2 fun entry _ => h entry.2)

end NameMap

theorem ValueKind.ofJson?_toJson (kind : ValueKind) : ofJson? kind.toJson = some kind := by
  cases kind <;> rfl

theorem Field.ofJson?_toJson (f : Field) : ofJson? f.toJson = some f := by
  obtain ⟨column, kind, table⟩ := f
  rw [ofJson?, toJson, Json.toRecord?_record (by decide) (by cases table <;> simp)]
  cases table <;>
    simp [Json.required, Json.optional, Json.lookup_member, ValueKind.ofJson?_toJson]

theorem LabelTable.ofJson?_toJson (l : LabelTable) : ofJson? l.toJson = some l := by
  rw [ofJson?, toJson, Json.toRecord?_record (by decide) (by simp)]
  rfl

theorem Relation.ofJson?_toJson (r : Relation) : ofJson? r.toJson = some r := by
  rw [ofJson?, toJson, Json.toRecord?_record (by decide) (by simp)]
  rfl

theorem DefaultOrder.ofJson?_toJson (o : DefaultOrder) : ofJson? o.toJson = some o := by
  rw [ofJson?, toJson, Json.toRecord?_record (by decide) (by simp)]
  rfl

theorem StatusOrder.ofJson?_toJson (s : StatusOrder) : ofJson? s.toJson = some s := by
  have hseverity : (Json.array (s.severity.map .text)).toList? Json.toText? = some s.severity :=
    Json.toList?_array Json.toText?_text s.severity
  rw [ofJson?, toJson, Json.toRecord?_record (by decide) (by simp)]
  simp [Json.required, Json.lookup_member, hseverity]

theorem DefaultOrder.toOption?_toJson (o : DefaultOrder) :
    o.toJson.toOption? ofJson? = some (some o) := by
  rw [toJson, Json.toOption?_record, ← toJson, ofJson?_toJson, Option.map_some]

theorem Schema.ofJson?_toJson (s : Schema) : ofJson? s.toJson = some s := by
  obtain ⟨baseTable, primaryKey, sessionColumn, labels, status, defaultOrder, relations,
    fields⟩ := s
  rw [ofJson?, toJson,
    Json.toRecord?_record (by decide) (by cases defaultOrder <;> simp [fieldNames])]
  cases defaultOrder <;>
    simp [Json.required, Json.optional, Json.lookup_member, LabelTable.ofJson?_toJson,
      StatusOrder.ofJson?_toJson, DefaultOrder.toOption?_toJson,
      NameMap.toNameMap?_toJson Relation.ofJson?_toJson,
      NameMap.toNameMap?_toJson Field.ofJson?_toJson]

theorem Backend.ofJson?_toJson (b : Backend) : ofJson? b.toJson = some b := by
  cases b <;> rfl

theorem DialectConfig.ofJson?_toJson (d : DialectConfig) : ofJson? d.toJson = some d := by
  obtain ⟨backend, version⟩ := d
  rw [ofJson?, toJson, Json.toRecord?_record (by decide) (by cases version <;> simp)]
  cases version <;>
    simp [Json.required, Json.optional, Json.lookup_member, Backend.ofJson?_toJson]

theorem Config.ofJson?_toJson (c : Config) : ofJson? c.toJson = some c := by
  obtain ⟨schemaPath, dialect, maxLimit, maxDepth, maxTreeDepth, logLevel⟩ := c
  rw [ofJson?, toJson,
    Json.toRecord?_record (by decide) (by cases schemaPath <;> simp [fieldNames])]
  cases schemaPath <;>
    simp [Json.optional, Json.lookup_member, DialectConfig.ofJson?_toJson, Json.toUInt64?_nat]

theorem Schema.legible_toJson (s : Schema) : s.toJson.Legible := by
  have hrelation (r : Relation) : r.toJson.Legible := Json.legible_record (by simp)
  have hfield (f : Field) : f.toJson.Legible :=
    Json.legible_record (by simp [ValueKind.toJson])
  have hlabels : s.labels.toJson.Legible := Json.legible_record (by simp)
  have hseverity : (Json.array (s.status.severity.map .text)).Legible :=
    Json.legible_array (by simp)
  have hstatus : s.status.toJson.Legible := Json.legible_record (by simp [hseverity])
  have horder (o : DefaultOrder) : o.toJson.Legible := Json.legible_record (by simp)
  apply Json.legible_record
  simp only [List.forall_mem_append, List.forall_mem_cons, List.forall_mem_map]
  simp [hlabels, hstatus, horder, NameMap.legible_toJson hrelation, NameMap.legible_toJson hfield]

theorem Config.legible_toJson (c : Config) : c.toJson.Legible := by
  have hdialect : c.dialect.toJson.Legible := Json.legible_record (by simp [Backend.toJson])
  apply Json.legible_record
  simp only [List.forall_mem_append, List.forall_mem_cons, List.forall_mem_map]
  simp [hdialect]

theorem Schema.read_of_writes {s : Schema} {text : String} (h : Json.Writes s.toJson text.toList)
    (origin : String) : read origin text = .ok s := by
  simp [read, Json.parse?_of_writes h, ofJson?_toJson]

theorem Config.read_of_writes {c : Config} {text : String} (h : Json.Writes c.toJson text.toList)
    (origin : String) : read origin text = .ok c := by
  simp [read, Json.parse?_of_writes h, ofJson?_toJson]

/-- A schema or configuration that passes its check is read back from every text of it, and its
shortest text is one of them. -/
theorem load_of_writes :
    (∀ s : Schema, s.check = .ok () → ∀ text, Json.Writes s.toJson text.toList →
      Schema.ofText text = .ok s) ∧
    (∀ c : Config, c.check = .ok () → ∀ text, Json.Writes c.toJson text.toList →
      (∀ origin, Config.read origin text = .ok c) ∧
      ∀ (files : Files) (path : String), files path = .text text →
        Config.load files path = .ok c) ∧
    (∀ s : Schema, Json.Writes s.toJson s.toJson.render.toList) ∧
    ∀ c : Config, Json.Writes c.toJson c.toJson.render.toList := by
  refine ⟨fun s hs text hw => ?_, fun c hc text hw => ⟨Config.read_of_writes hw, ?_⟩,
    fun s => ?_, fun c => ?_⟩
  · simp only [Schema.ofText, Schema.load, bind_eq_ok_iff, pure_eq_ok_iff]
    exact ⟨s, Schema.read_of_writes hw _, (), hs, rfl⟩
  · intro files path hfile
    simp only [Config.load, bind_eq_ok_iff, pure_eq_ok_iff]
    exact ⟨text, by rw [Files.read, hfile], c, Config.read_of_writes hw path, (), hc, rfl⟩
  · rw [Json.render, String.toList_ofList]
    exact s.legible_toJson
  · rw [Json.render, String.toList_ofList]
    exact c.legible_toJson

def Schema.oddlyNamed : Schema :=
  { builtin with
    baseTable := "a \"b\"\\\n\x01😀"
    status := { builtin.status with severity := ["", "é", "😀\t"] }
    defaultOrder := none }

def Config.oddlyNamed : Config :=
  { schemaPath := some "schémas/\"😀\".json"
    dialect := ⟨.sqlite, some "3.38.0"⟩
    maxLimit := 18446744073709551615 }

theorem load_of_writes_oddlyNamed :
    Schema.oddlyNamed.check = .ok () ∧ Config.oddlyNamed.check = .ok () ∧
      Schema.ofText Schema.oddlyNamed.toJson.render = .ok Schema.oddlyNamed ∧
      Config.load (fun _ => .text Config.oddlyNamed.toJson.render) "engine.json" =
        .ok Config.oddlyNamed := by
  have hs : Schema.oddlyNamed.check = .ok () := by decide
  have hc : Config.oddlyNamed.check = .ok () := rfl
  refine ⟨hs, hc, ?_, ?_⟩
  · exact load_of_writes.1 _ hs _ (load_of_writes.2.2.1 _)
  · exact (load_of_writes.2.1 _ hc _ (load_of_writes.2.2.2 _)).2 _ _ rfl

end FilterSql
