namespace FilterSql

def insertEntry {α : Type} (name : String) (value : α) :
    List (String × α) → List (String × α)
  | [] => [(name, value)]
  | entry :: rest =>
    if name < entry.1 then (name, value) :: entry :: rest
    else if name = entry.1 then (name, value) :: rest
    else entry :: insertEntry name value rest

theorem mem_insertEntry {α : Type} {name : String} {value : α} {entries : List (String × α)}
    {entry : String × α} (h : entry ∈ insertEntry name value entries) :
    entry = (name, value) ∨ entry ∈ entries := by
  induction entries with
  | nil => simpa [insertEntry] using h
  | cons e rest ih =>
    simp only [insertEntry] at h
    split at h
    · simpa using h
    · split at h
      · simp at h; grind
      · simp at h; grind

theorem pairwise_insertEntry {α : Type} {name : String} {value : α}
    {entries : List (String × α)} (h : entries.Pairwise (·.1 < ·.1)) :
    (insertEntry name value entries).Pairwise (·.1 < ·.1) := by
  induction entries with
  | nil => simp [insertEntry]
  | cons e rest ih =>
    have ⟨hlt, hrest⟩ := List.pairwise_cons.1 h
    simp only [insertEntry]
    split
    · next hn =>
      refine List.pairwise_cons.2 ⟨fun x hx => ?_, h⟩
      rcases List.mem_cons.1 hx with rfl | hx
      · exact hn
      · exact String.lt_trans hn (hlt x hx)
    · split
      · next hn => exact List.pairwise_cons.2 ⟨fun x hx => hn ▸ hlt x hx, hrest⟩
      · next hn hne =>
        refine List.pairwise_cons.2 ⟨fun x hx => ?_, ih hrest⟩
        rcases mem_insertEntry hx with rfl | hx
        · exact Std.not_le.1 fun hle => hne (String.le_antisymm hle (String.not_lt.1 hn))
        · exact hlt x hx

structure NameMap (α : Type) where
  entries : List (String × α)
  sorted : entries.Pairwise (·.1 < ·.1)
  deriving DecidableEq

namespace NameMap

def empty {α : Type} : NameMap α := ⟨[], .nil⟩

def insert {α : Type} (m : NameMap α) (name : String) (value : α) : NameMap α :=
  ⟨insertEntry name value m.entries, pairwise_insertEntry m.sorted⟩

/-- The map of a list in which the last entry of a name counts. -/
def ofList {α : Type} (entries : List (String × α)) : NameMap α :=
  entries.foldl (fun m (name, value) => m.insert name value) empty

def find? {α : Type} (m : NameMap α) (name : String) : Option α := m.entries.lookup name

def contains {α : Type} (m : NameMap α) (name : String) : Bool := (m.find? name).isSome

end NameMap

end FilterSql
