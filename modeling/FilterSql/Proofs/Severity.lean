import FilterSql.Proofs.Engine

namespace FilterSql

namespace Schema

variable {schema : Schema} {status : String} {before after : List String}

theorem statusRank_eq (schema : Schema) (status : String) :
    schema.statusRank status =
      schema.status.severity.length - schema.status.severity.idxOf status := by
  rw [statusRank, List.idxOf_eq_getD_idxOf?]
  cases schema.status.severity.idxOf? status <;> simp

theorem statusRank_le (schema : Schema) (status : String) :
    schema.statusRank status ≤ schema.status.severity.length := by
  rw [statusRank_eq]
  exact Nat.sub_le ..

/-- Wherever the list is cut, what ranks above the rest is what stands in front of the cut. -/
theorem statusRank_le_iff (h : schema.status.severity = before ++ after) :
    schema.statusRank status ≤ after.length ↔ status ∉ before := by
  rw [statusRank_eq, h, List.length_append, List.idxOf_append]
  split
  · next hmem =>
    have := List.idxOf_lt_length_iff.2 hmem
    simp only [hmem, not_true_eq_false, iff_false]
    omega
  · next hmem =>
    simp only [hmem, not_false_eq_true, iff_true]
    omega

theorem statusRank_eq_zero_iff :
    schema.statusRank status = 0 ↔ status ∉ schema.status.severity := by
  simpa using statusRank_le_iff (List.append_nil schema.status.severity).symm

theorem statusRank_of_first (h : schema.status.severity = before ++ status :: after)
    (hfirst : status ∉ before) : schema.statusRank status = after.length + 1 := by
  have hle : schema.statusRank status ≤ after.length + 1 := (statusRank_le_iff h).2 hfirst
  have hlt : ¬schema.statusRank status ≤ after.length := by
    rw [statusRank_le_iff (h.trans (List.append_cons ..))]
    simp
  omega

theorem statusForRank_eq_some_iff {rank : Int} :
    schema.statusForRank rank = some status ↔ ∃ before after,
      schema.status.severity = before ++ status :: after ∧ rank = after.length + 1 := by
  simp only [statusForRank]
  constructor
  · intro h
    split at h
    · cases h
    · next hrange =>
      obtain ⟨hi, rfl⟩ := List.getElem?_eq_some_iff.1 h
      refine ⟨schema.status.severity.take _, schema.status.severity.drop _,
        by rw [List.getElem_cons_drop, List.take_append_drop], ?_⟩
      rw [List.length_drop]
      omega
  · rintro ⟨before, after, h, rfl⟩
    rw [h, if_neg (by simp; omega)]
    simp

theorem statusForRank_eq_none_iff {rank : Int} :
    schema.statusForRank rank = none ↔ rank < 1 ∨ schema.status.severity.length < rank := by
  simp only [statusForRank]
  split
  · next h => simpa using h
  · next h =>
    rw [List.getElem?_eq_none_iff]
    omega

theorem statusForRank_statusRank (h : status ∈ schema.status.severity) :
    schema.statusForRank (schema.statusRank status) = some status := by
  obtain ⟨before, after, hsplit, hfirst⟩ := List.eq_append_cons_of_mem h
  rw [statusForRank_eq_some_iff, statusRank_of_first hsplit hfirst]
  exact ⟨before, after, hsplit, rfl⟩

theorem exists_statusForRank (hnodup : schema.status.severity.Nodup) {rank : Int} (hpos : 1 ≤ rank)
    (hle : rank ≤ schema.status.severity.length) :
    ∃ status, schema.statusForRank rank = some status ∧ schema.statusRank status = rank := by
  cases hs : schema.statusForRank rank with
  | none =>
    rw [statusForRank_eq_none_iff] at hs
    omega
  | some status =>
    obtain ⟨before, after, hsplit, rfl⟩ := statusForRank_eq_some_iff.1 hs
    have hfirst : status ∉ before := fun hmem => by
      rw [hsplit, List.nodup_append] at hnodup
      exact hnodup.2.2 status hmem status List.mem_cons_self rfl
    exact ⟨status, rfl, by rw [statusRank_of_first hsplit hfirst]; rfl⟩

/-- Of some statuses, the one that stands first in the list. -/
def Worst (schema : Schema) (statuses : List String) (status : String) : Prop :=
  ∃ before after, schema.status.severity = before ++ status :: after ∧ status ∈ statuses ∧
    ∀ other ∈ before, other ∉ statuses

section Highest

variable {statuses : List String} {rank : Nat}

theorem worst_iff (h : (statuses.map schema.statusRank).max? = some rank) :
    schema.statusForRank rank = some status ↔ schema.Worst statuses status := by
  obtain ⟨hmem, hle⟩ := List.max?_eq_some_iff.1 h
  obtain ⟨highest, hhighest, rfl⟩ := List.mem_map.1 hmem
  rw [List.forall_mem_map] at hle
  rw [statusForRank_eq_some_iff]
  constructor
  · rintro ⟨before, after, hsplit, hrank⟩
    have hbefore : ∀ other ∈ statuses, other ∉ before := fun other ho =>
      (statusRank_le_iff hsplit).1 ((hle other ho).trans (by simp; omega))
    -- a cut behind the status leaves out the highest rank, so its bearer is in front of it
    have hcut : ¬schema.statusRank highest ≤ after.length := by omega
    rw [statusRank_le_iff (hsplit.trans (List.append_cons ..)), not_not, List.mem_append,
      List.mem_singleton] at hcut
    obtain rfl := hcut.resolve_left (hbefore highest hhighest)
    exact ⟨before, after, hsplit, hhighest, fun other ho hs => hbefore other hs ho⟩
  · rintro ⟨before, after, hsplit, hstatus, hbefore⟩
    have hrank := statusRank_of_first hsplit fun hs => hbefore status hs hstatus
    have hupper : schema.statusRank highest ≤ after.length + 1 :=
      (statusRank_le_iff hsplit).2 fun hs => hbefore highest hs hhighest
    have hlower := hle status hstatus
    exact ⟨before, after, hsplit, by omega⟩

theorem statusForRank_highest_eq_none_iff (h : (statuses.map schema.statusRank).max? = some rank) :
    schema.statusForRank rank = none ↔ ∀ status ∈ statuses, status ∉ schema.status.severity := by
  obtain ⟨hmem, hle⟩ := List.max?_eq_some_iff.1 h
  obtain ⟨highest, hhighest, rfl⟩ := List.mem_map.1 hmem
  rw [List.forall_mem_map] at hle
  have hbound := schema.statusRank_le highest
  have hzero : schema.statusForRank (schema.statusRank highest) = none ↔
      schema.statusRank highest = 0 := by
    rw [statusForRank_eq_none_iff]
    omega
  simp only [hzero, ← statusRank_eq_zero_iff]
  exact ⟨fun h0 status hs => Nat.le_zero.1 (h0 ▸ hle status hs), fun h0 => h0 highest hhighest⟩

end Highest

end Schema

/-- The highest rank among some statuses is told back as the one of them that stands first in the
list, and as none if none of them is listed. Ranks and listed statuses are each other's inverses, and
no other number is a rank. -/
theorem worst_status_told_back (schema : Schema) (hs : schema.check = .ok ()) :
    (∀ statuses : List String, statuses ≠ [] →
      ∃ rank, (statuses.map schema.statusRank).max? = some rank ∧
        (∀ status, schema.statusForRank rank = some status ↔ schema.Worst statuses status) ∧
        (schema.statusForRank rank = none ↔
          ∀ status ∈ statuses, status ∉ schema.status.severity)) ∧
    (∀ status ∈ schema.status.severity,
      schema.statusForRank (schema.statusRank status) = some status) ∧
    (∀ rank : Int, 1 ≤ rank → rank ≤ schema.status.severity.length →
      ∃ status, schema.statusForRank rank = some status ∧ schema.statusRank status = rank) ∧
    ∀ rank : Int, ¬(1 ≤ rank ∧ rank ≤ schema.status.severity.length) →
      schema.statusForRank rank = none := by
  obtain ⟨-, -, hnodup, -⟩ := Schema.check_eq_ok_iff.1 hs
  refine ⟨fun statuses hne => ?_, fun status => Schema.statusForRank_statusRank,
    fun rank => Schema.exists_statusForRank hnodup, fun rank h => ?_⟩
  · cases hmax : (statuses.map schema.statusRank).max? with
    | none => exact absurd (List.map_eq_nil_iff.1 (List.max?_eq_none_iff.1 hmax)) hne
    | some rank => exact ⟨rank, rfl, fun status => Schema.worst_iff hmax,
        Schema.statusForRank_highest_eq_none_iff hmax⟩
  · rw [Schema.statusForRank_eq_none_iff]
    omega

theorem worst_status_told_back_failed :
    Schema.builtin.check = .ok () ∧ Schema.builtin.Worst ["passed", "odd", "failed"] "failed" ∧
    (∃ rank, (["passed", "odd", "failed"].map Schema.builtin.statusRank).max? = some rank ∧
      Schema.builtin.statusForRank rank = some "failed") ∧
    (∃ rank, (["odd"].map Schema.builtin.statusRank).max? = some rank ∧
      Schema.builtin.statusForRank rank = none) ∧
    Schema.builtin.statusForRank (Schema.builtin.statusRank "skipped") = some "skipped" ∧
    (∃ status, Schema.builtin.statusForRank 5 = some status ∧
      (Schema.builtin.statusRank status : Int) = 5) ∧
    Schema.builtin.statusForRank (-1) = none := by
  obtain ⟨hworst, hlisted, hrank, hother⟩ := worst_status_told_back .builtin Schema.check_builtin
  have hfailed : Schema.builtin.Worst ["passed", "odd", "failed"] "failed" :=
    ⟨["broken"], _, rfl, by decide, by decide⟩
  obtain ⟨highest, hmax, hfirst, -⟩ := hworst ["passed", "odd", "failed"] (by decide)
  obtain ⟨lowest, hnone, -, hunlisted⟩ := hworst ["odd"] (by decide)
  exact ⟨Schema.check_builtin, hfailed, ⟨highest, hmax, (hfirst "failed").2 hfailed⟩,
    ⟨lowest, hnone, hunlisted.2 (by decide)⟩, hlisted "skipped" (by decide),
    hrank 5 (by decide) (by decide), hother (-1) (by decide)⟩

end FilterSql
