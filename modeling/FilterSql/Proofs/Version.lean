import FilterSql.Config.Error
import FilterSql.Proofs.Numeral
import FilterSql.Proofs.Statement
import FilterSql.Proofs.Trimming

namespace FilterSql.Version

open Text (Trims trims_self trims_trim trim_of_trims)

structure IsPart (ds : List Char) (n : UInt32) : Prop where
  ne_nil : ds ≠ []
  digits : ∀ d ∈ ds, d.isDigit = true
  value : Text.natValue ds = n.toNat

/-- The numbers of a version with points between them; a part that is not given is zero, and digits
and points behind the third part are ignored. -/
inductive Release : List Char → Version → Prop
  | major {a : List Char} {major : UInt32} : IsPart a major → Release a ⟨major, 0, 0⟩
  | minor {a b : List Char} {major minor : UInt32} : IsPart a major → IsPart b minor →
      Release (a ++ '.' :: b) ⟨major, minor, 0⟩
  | patch {a b c : List Char} {major minor patch : UInt32} : IsPart a major → IsPart b minor →
      IsPart c patch → Release (a ++ '.' :: (b ++ '.' :: c)) ⟨major, minor, patch⟩
  | further {a b c more : List Char} {major minor patch : UInt32} : IsPart a major →
      IsPart b minor → IsPart c patch → (∀ d ∈ more, d.isDigit = true ∨ d = '.') →
      Release (a ++ '.' :: (b ++ '.' :: (c ++ '.' :: more))) ⟨major, minor, patch⟩

/-- The text, without blanks around it, is a release and something behind it, or nothing, that begins
with neither a digit nor a point. -/
def Denotes (s : String) (v : Version) : Prop :=
  ∃ release suffix, Trims s.toList (release ++ suffix) ∧ Release release v ∧
    ∀ c ∈ suffix.head?, c.isDigit = false ∧ c ≠ '.'

theorem part?_eq_some_iff {ds : List Char} {n : UInt32} (h : ∀ d ∈ ds, d.isDigit = true) :
    part? ds = some n ↔ IsPart ds n := by
  cases ds with
  | nil => exact iff_of_false (by rintro ⟨⟩) fun hpart => hpart.ne_nil rfl
  | cons d ds =>
    have hlt := n.toNat_lt
    rw [part?, Lexer.readUnsigned_digits _ h]
    split
    · next hlarge =>
      refine iff_of_false (by rintro ⟨⟩) fun hpart => ?_
      have hvalue := hpart.value
      simp only [UInt32.size] at hlarge
      omega
    · next hsmall =>
      have hsize : Text.natValue (d :: ds) < UInt32.size := by
        simp only [UInt32.size] at hsmall ⊢
        omega
      constructor
      · rintro ⟨⟩
        exact ⟨List.cons_ne_nil d ds, h, (UInt32.toNat_ofNat_of_lt hsize).symm⟩
      · intro hpart
        rw [hpart.value]
        exact congrArg some UInt32.ofNat_toNat

theorem IsPart.part?_eq {ds : List Char} {n : UInt32} (h : IsPart ds n) : part? ds = some n :=
  (part?_eq_some_iff h.digits).2 h

theorem isPart_toString (n : UInt32) : IsPart (toString n.toNat).toList n := by
  obtain ⟨d, ds, hds, hdigits⟩ := exists_digits n.toNat
  exact ⟨hds ▸ List.cons_ne_nil d ds, hds ▸ hdigits, Text.natValue_toString n.toNat⟩

theorem IsPart.point_notMem {ds : List Char} {n : UInt32} (h : IsPart ds n) : '.' ∉ ds :=
  fun hmem => absurd (h.digits '.' hmem) (by decide)

theorem splitOnP_of_notMem {part : List Char} (h : '.' ∉ part) :
    part.splitOnP (· == '.') = [part] :=
  List.splitOnP_eq_singleton fun c hc => by simpa using fun heq : c = '.' => h (heq ▸ hc)

theorem splitOnP_append_point {part : List Char} (h : '.' ∉ part) (rest : List Char) :
    (part ++ '.' :: rest).splitOnP (· == '.') = part :: rest.splitOnP (· == '.') :=
  List.splitOnP_append_cons_of_forall_mem
    (fun c hc => by simpa using fun heq : c = '.' => h (heq ▸ hc)) '.' rfl rest

theorem point_cases (cs : List Char) :
    '.' ∉ cs ∨ ∃ part rest, cs = part ++ '.' :: rest ∧ '.' ∉ part := by
  by_cases h : '.' ∈ cs
  · exact .inr (List.eq_append_cons_of_mem h)
  · exact .inl h

def ofParts? : List (List Char) → Option Version
  | [] => none
  | [a] => do return ⟨← part? a, 0, 0⟩
  | [a, b] => do return ⟨← part? a, ← part? b, 0⟩
  | a :: b :: c :: _ => do return ⟨← part? a, ← part? b, ← part? c⟩

def isNumeric (c : Char) : Bool := c.isDigit || c == '.'

theorem isNumeric_iff {c : Char} : isNumeric c = true ↔ c.isDigit = true ∨ c = '.' := by
  simp [isNumeric]

theorem isNumeric_eq_false_iff {c : Char} : isNumeric c = false ↔ c.isDigit = false ∧ c ≠ '.' := by
  simp [isNumeric]

def numericPart (s : String) : List Char := (Text.trim s.toList).takeWhile isNumeric

theorem parse?_eq_ofParts? (s : String) :
    parse? s = ofParts? ((numericPart s).splitOnP (· == '.')) := rfl

theorem ofParts?_third_iff {a b c : List Char} {more : List (List Char)} {v : Version} :
    ofParts? (a :: b :: c :: more) = some v ↔ ∃ major minor patch, part? a = some major ∧
      part? b = some minor ∧ part? c = some patch ∧ ⟨major, minor, patch⟩ = v := by
  simp [ofParts?, Option.bind_eq_some_iff]

theorem ofParts?_eq_some_iff {cs : List Char} {v : Version}
    (h : ∀ c ∈ cs, c.isDigit = true ∨ c = '.') :
    ofParts? (cs.splitOnP (· == '.')) = some v ↔ Release cs v := by
  constructor
  · intro hv
    have hpart {ds : List Char} {n : UInt32} (hsub : ∀ d ∈ ds, d ∈ cs) (hpoint : '.' ∉ ds)
        (hn : part? ds = some n) : IsPart ds n := by
      refine (part?_eq_some_iff fun d hd => (h d (hsub d hd)).resolve_right ?_).1 hn
      rintro rfl
      exact hpoint hd
    -- one point after another, up to the third part
    obtain ha | ⟨a, rest, rfl, ha⟩ := point_cases cs
    · rw [splitOnP_of_notMem ha] at hv
      obtain ⟨major, hmajor, ⟨⟩⟩ := Option.bind_eq_some_iff.1 hv
      exact .major (hpart (by simp) ha hmajor)
    obtain hb | ⟨b, rest, rfl, hb⟩ := point_cases rest
    · rw [splitOnP_append_point ha, splitOnP_of_notMem hb] at hv
      obtain ⟨major, hmajor, hv⟩ := Option.bind_eq_some_iff.1 hv
      obtain ⟨minor, hminor, ⟨⟩⟩ := Option.bind_eq_some_iff.1 hv
      exact .minor (hpart (by simp +contextual) ha hmajor) (hpart (by simp +contextual) hb hminor)
    rw [splitOnP_append_point ha, splitOnP_append_point hb] at hv
    obtain hc | ⟨c, more, rfl, hc⟩ := point_cases rest
    · rw [splitOnP_of_notMem hc] at hv
      obtain ⟨major, minor, patch, hmajor, hminor, hpatch, rfl⟩ := ofParts?_third_iff.1 hv
      exact .patch (hpart (by simp +contextual) ha hmajor)
        (hpart (by simp +contextual) hb hminor) (hpart (by simp +contextual) hc hpatch)
    · rw [splitOnP_append_point hc] at hv
      obtain ⟨major, minor, patch, hmajor, hminor, hpatch, rfl⟩ := ofParts?_third_iff.1 hv
      exact .further (hpart (by simp +contextual) ha hmajor)
        (hpart (by simp +contextual) hb hminor) (hpart (by simp +contextual) hc hpatch)
        fun d hd => h d (by simp [hd])
  · intro hv
    cases hv with
    | major ha =>
      rw [splitOnP_of_notMem ha.point_notMem]
      simp [ofParts?, ha.part?_eq]
    | minor ha hb =>
      rw [splitOnP_append_point ha.point_notMem, splitOnP_of_notMem hb.point_notMem]
      simp [ofParts?, ha.part?_eq, hb.part?_eq]
    | patch ha hb hc =>
      rw [splitOnP_append_point ha.point_notMem, splitOnP_append_point hb.point_notMem,
        splitOnP_of_notMem hc.point_notMem]
      exact ofParts?_third_iff.2 ⟨_, _, _, ha.part?_eq, hb.part?_eq, hc.part?_eq, rfl⟩
    | further ha hb hc =>
      rw [splitOnP_append_point ha.point_notMem, splitOnP_append_point hb.point_notMem,
        splitOnP_append_point hc.point_notMem]
      exact ofParts?_third_iff.2 ⟨_, _, _, ha.part?_eq, hb.part?_eq, hc.part?_eq, rfl⟩

theorem isBlank_of_isNumeric {c : Char} (h : isNumeric c = true) : Text.isBlank c = false := by
  obtain hd | rfl := isNumeric_iff.1 h
  · have := Text.toNat_of_isDigit hd
    exact Text.isBlank_eq_false (by omega)
  · rfl

theorem Release.isNumeric {release : List Char} {v : Version} (h : Release release v) :
    ∀ c ∈ release, isNumeric c = true := by
  have hpart {ds : List Char} {n : UInt32} (hp : IsPart ds n) :
      ∀ d ∈ ds, Version.isNumeric d = true := fun d hd =>
    isNumeric_iff.2 (.inl (hp.digits d hd))
  have hpoint : Version.isNumeric '.' = true := rfl
  cases h with
  | major ha => exact hpart ha
  | minor ha hb => simpa [or_imp, forall_and, hpoint] using ⟨hpart ha, hpart hb⟩
  | patch ha hb hc => simpa [or_imp, forall_and, hpoint] using ⟨hpart ha, hpart hb, hpart hc⟩
  | further ha hb hc hmore =>
    have hmore := fun d hd => isNumeric_iff.2 (hmore d hd)
    simpa [or_imp, forall_and, hpoint] using ⟨hpart ha, hpart hb, hpart hc, hmore⟩

theorem Release.ne_nil {release : List Char} {v : Version} (h : Release release v) :
    release ≠ [] := by
  cases h with
  | major ha => exact ha.ne_nil
  | minor | patch | further => simp

theorem Release.denotes {s : String} {v : Version} (h : Release s.toList v) : Denotes s v := by
  have hblank : ∀ c ∈ s.toList, Text.isBlank c = false := fun c hc =>
    isBlank_of_isNumeric (h.isNumeric c hc)
  refine ⟨s.toList, [], ?_, h, by simp⟩
  rw [List.append_nil]
  exact trims_self (fun c hc => hblank c (List.mem_of_mem_head? hc))
    fun c hc => hblank c (List.mem_of_getLast? hc)

theorem denotes_iff_release {s : String} {v : Version} :
    Denotes s v ↔ Release (numericPart s) v := by
  constructor
  · rintro ⟨release, suffix, htrim, hrelease, hsuffix⟩
    rwa [numericPart, trim_of_trims htrim,
      Lexer.takeWhile_eq hrelease.isNumeric fun c hc => isNumeric_eq_false_iff.2 (hsuffix c hc)]
  · intro hrelease
    refine ⟨numericPart s, (Text.trim s.toList).dropWhile Version.isNumeric, ?_, hrelease,
      fun c hc => isNumeric_eq_false_iff.1 (Lexer.head?_dropWhile _ c hc)⟩
    rw [numericPart, List.takeWhile_append_dropWhile]
    exact trims_trim s.toList

theorem parse?_eq_some_iff {s : String} {v : Version} : parse? s = some v ↔ Denotes s v := by
  have hnumeric : ∀ c ∈ numericPart s, c.isDigit = true ∨ c = '.' := fun c hc =>
    isNumeric_iff.1 (List.all_eq_true.1 List.all_takeWhile c hc)
  rw [parse?_eq_ofParts?, ofParts?_eq_some_iff hnumeric, denotes_iff_release]

theorem denotes_render (v : Version) : Denotes v.render v := by
  apply Release.denotes
  have htext : v.render.toList = (toString v.major.toNat).toList ++ '.' ::
      ((toString v.minor.toNat).toList ++ '.' :: (toString v.patch.toNat).toList) := by
    simp [render]
  rw [htext]
  exact .patch (isPart_toString _) (isPart_toString _) (isPart_toString _)

theorem numericPart_append {s suffix : String} (h : numericPart s ≠ [])
    (hs : ∀ c ∈ suffix.toList.head?, c.isDigit = false ∧ c ≠ '.') :
    numericPart (s ++ suffix) = numericPart s := by
  have hblank (c : Char) (hc : Text.isBlank c = true) : isNumeric c = false := by
    rw [← Bool.not_eq_true]
    intro hn
    simp [isBlank_of_isNumeric hn] at hc
  have hpart (t : String) : numericPart t = (t.toList.dropWhile Text.isBlank).takeWhile isNumeric :=
    Text.takeWhile_trim hblank t.toList
  have hne : s.toList.dropWhile Text.isBlank ≠ [] := by
    intro hnil
    exact h (by rw [hpart, hnil, List.takeWhile_nil])
  rw [hpart, hpart, String.toList_append, List.dropWhile_append, if_neg (by simpa using hne),
    Text.takeWhile_append_of_stop _ fun c hc => isNumeric_eq_false_iff.2 (hs c hc)]

theorem Denotes.append {s suffix : String} {v : Version} (h : Denotes s v)
    (hs : ∀ c ∈ suffix.toList.head?, c.isDigit = false ∧ c ≠ '.') : Denotes (s ++ suffix) v := by
  have hrelease := denotes_iff_release.1 h
  exact denotes_iff_release.2 (numericPart_append hrelease.ne_nil hs ▸ hrelease)

theorem parse_eq_ok_iff_denotes {s : String} {v : Version} : parse s = .ok v ↔ Denotes s v := by
  rw [← parse?_eq_some_iff, parse]
  cases parse? s <;> simp

theorem parse_eq_error_iff_denotes {s : String} {e : ConfigError} : parse s = .error e ↔
    e = .invalid (.invalidVersion s) ∧ ∀ v, ¬Denotes s v := by
  simp only [← parse?_eq_some_iff, parse]
  cases parse? s <;> simp [eq_comm]

/-- A version is read from the texts that denote it, and a text that denotes none is refused as it
stands. What a version is shown as is read as this version, and whatever begins with neither a digit
nor a point may be written behind a text that is read. -/
theorem parse_release_exact (s : String) :
    (∀ v, parse s = .ok v ↔ Denotes s v) ∧
    (∀ e, parse s = .error e ↔ e = .invalid (.invalidVersion s) ∧ ∀ v, ¬Denotes s v) ∧
    (∀ v : Version, parse v.render = .ok v) ∧
    ∀ v suffix, parse s = .ok v → (∀ c ∈ suffix.toList.head?, c.isDigit = false ∧ c ≠ '.') →
      parse (s ++ suffix) = .ok v := by
  refine ⟨fun v => parse_eq_ok_iff_denotes, fun e => parse_eq_error_iff_denotes,
    fun v => parse_eq_ok_iff_denotes.2 (denotes_render v), fun v suffix hs hsuffix => ?_⟩
  exact parse_eq_ok_iff_denotes.2 ((parse_eq_ok_iff_denotes.1 hs).append hsuffix)

theorem parse_release_exact_vendor :
    Denotes " 08.0.0032.1.-log" ⟨8, 0, 32⟩ ∧ parse (⟨8, 0, 32⟩ : Version).render = .ok ⟨8, 0, 32⟩ ∧
      parse (" 08.0.0032.1.-log" ++ "+b7 ") = .ok ⟨8, 0, 32⟩ := by
  obtain ⟨hok, -, hrender, happend⟩ := parse_release_exact " 08.0.0032.1.-log"
  have hs : parse " 08.0.0032.1.-log" = .ok ⟨8, 0, 32⟩ := by rfl
  exact ⟨(hok _).1 hs, hrender _, happend _ "+b7 " hs (by rintro _ ⟨⟩; exact ⟨rfl, by decide⟩)⟩

end FilterSql.Version
