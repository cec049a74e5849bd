import FilterSql.Json.Basic
import Mathlib

namespace FilterSql.Json

def IsHexDigit (n : Nat) (c : Char) : Prop :=
  "0123456789abcdef".toList[n]? = some c ∨ "0123456789ABCDEF".toList[n]? = some c

inductive WritesCode (n : Nat) : List Char → Prop
  | mk {a b c d : Char} : IsHexDigit (n / 4096) a → IsHexDigit (n / 256 % 16) b →
      IsHexDigit (n / 16 % 16) c → IsHexDigit (n % 16) d → WritesCode n ['\\', 'u', a, b, c, d]

def shortEscapes : List (Char × Char) :=
  [('"', '"'), ('\\', '\\'), ('/', '/'), ('b', '\x08'), ('f', '\x0c'), ('n', '\n'), ('r', '\r'),
    ('t', '\t')]

inductive WritesChar (c : Char) : List Char → Prop
  | plain : c ≠ '"' → c ≠ '\\' → 0x20 ≤ c.toNat → WritesChar c [c]
  | short {letter : Char} : (letter, c) ∈ shortEscapes → WritesChar c ['\\', letter]
  | code {w : List Char} : c.toNat < 0x10000 → WritesCode c.toNat w → WritesChar c w
  | pair {lead trail : List Char} : 0x10000 ≤ c.toNat →
      WritesCode (0xd800 + (c.toNat - 0x10000) / 0x400) lead →
      WritesCode (0xdc00 + (c.toNat - 0x10000) % 0x400) trail → WritesChar c (lead ++ trail)

inductive WritesChars : List Char → List Char → Prop
  | nil : WritesChars [] []
  | cons {c : Char} {cs w u : List Char} : WritesChar c w → WritesChars cs u →
      WritesChars (c :: cs) (w ++ u)

inductive WritesString (s : String) : List Char → Prop
  | mk {u : List Char} : WritesChars s.toList u → WritesString s ('"' :: u ++ ['"'])

def IsBlank (w : List Char) : Prop := ∀ c ∈ w, c ∈ [' ', '\t', '\n', '\r']

inductive WritesName (name : String) : List Char → Prop
  | mk {before w after : List Char} : IsBlank before → WritesString name w → IsBlank after →
      WritesName name (before ++ w ++ after)

structure Member where
  name : String
  key : List Char
  value : Json
  text : List Char

def Member.entry (m : Member) : String × Json := (m.name, m.value)

def Member.chars (m : Member) : List Char := m.key ++ ':' :: m.text

/-- A text of a value. Of the numbers only the natural ones are written, in digits. -/
inductive Writes : Json → List Char → Prop
  | null : Writes .null "null".toList
  | true : Writes (.bool true) "true".toList
  | false : Writes (.bool false) "false".toList
  | nat (n : Nat) : Writes (.nat n) (toString n).toList
  | text {s : String} {w : List Char} : WritesString s w → Writes (.text s) w
  | noItems {w : List Char} : IsBlank w → Writes (.array []) ('[' :: w ++ [']'])
  | items {items : List (Json × List Char)} : items ≠ [] →
      (∀ item ∈ items, Writes item.1 item.2) →
      Writes (.array (items.map Prod.fst))
        ('[' :: [','].intercalate (items.map Prod.snd) ++ [']'])
  | noMembers {w : List Char} : IsBlank w → Writes (.record []) ('\x7b' :: w ++ ['\x7d'])
  | members {members : List Member} : members ≠ [] →
      (∀ m ∈ members, WritesName m.name m.key) → (∀ m ∈ members, Writes m.value m.text) →
      Writes (.record (members.map Member.entry))
        ('\x7b' :: [','].intercalate (members.map Member.chars) ++ ['\x7d'])
  | blanks {j : Json} {before w after : List Char} : IsBlank before → Writes j w →
      IsBlank after → Writes j (before ++ w ++ after)

theorem isBlank_nil : IsBlank [] := by simp [IsBlank]

theorem hex4_control : ∀ n < 0x20,
    hex4 n = ['0', '0', Nat.digitChar (n / 16), Nat.digitChar (n % 16)] := by
  decide

theorem isHexDigit_digitChar : ∀ n < 16, IsHexDigit n (Nat.digitChar n) := by
  unfold IsHexDigit
  decide

theorem writesCode_hex4 {n : Nat} (h : n < 0x20) : WritesCode n ('\\' :: 'u' :: hex4 n) := by
  have h₁ : n / 4096 = 0 := by omega
  have h₂ : n / 256 % 16 = 0 := by omega
  have h₃ : n / 16 % 16 = n / 16 := by omega
  rw [hex4_control n h]
  refine .mk ?_ ?_ ?_ (isHexDigit_digitChar (n % 16) (by omega))
  · rw [h₁]; exact .inl rfl
  · rw [h₂]; exact .inl rfl
  · rw [h₃]; exact isHexDigit_digitChar (n / 16) (by omega)

theorem writesChar_escape (c : Char) : WritesChar c (escape c) := by
  unfold escape
  split_ifs with quote backslash backspace feed newline carriage tab control
  iterate 7
    · subst c
      exact .short (by decide)
  · exact .code (by omega) (writesCode_hex4 control)
  · exact .plain quote backslash (by omega)

theorem writesChars_flatMap (cs : List Char) : WritesChars cs (cs.flatMap escape) := by
  induction cs with
  | nil => exact .nil
  | cons c cs ih => exact .cons (writesChar_escape c) ih

theorem writesString_renderString (s : String) : WritesString s (renderString (some s)) :=
  .mk (writesChars_flatMap s.toList)

theorem renderItems_eq (items : List Json) :
    renderItems items = [','].intercalate (items.map renderChars) := by
  induction items with
  | nil => rfl
  | cons item rest ih =>
    cases rest with
    | nil => simp [renderItems]
    | cons next rest => simp [renderItems, ih, List.intercalate_cons_cons]

theorem renderMembers_eq (members : List (Option String × Json)) :
    renderMembers members =
      [','].intercalate (members.map fun m => renderString m.1 ++ ':' :: renderChars m.2) := by
  induction members with
  | nil => rfl
  | cons m rest ih =>
    cases rest with
    | nil => simp [renderMembers]
    | cons next rest => simp [renderMembers, ih, List.intercalate_cons_cons]

/-- The shortest text of a value is one of its texts. It is not for a number that is not natural or
a string without a text. -/
def Legible (j : Json) : Prop := Writes j j.renderChars

@[simp] theorem legible_bool (b : Bool) : Legible (.bool b) := by
  cases b
  · exact .false
  · exact .true

@[simp] theorem legible_nat (n : Nat) : Legible (.nat n) := .nat n

@[simp] theorem legible_text (s : String) : Legible (.text s) := .text (writesString_renderString s)

theorem legible_array {items : List Json} (h : ∀ item ∈ items, Legible item) :
    Legible (.array items) := by
  rcases eq_or_ne items [] with rfl | hne
  · exact .noItems isBlank_nil
  · have hw := @Writes.items (items.map fun j => (j, j.renderChars)) (by simpa using hne)
      (List.forall_mem_map.2 h)
    simpa [Legible, renderChars, renderItems_eq, Function.comp_def] using hw

def Member.short (m : String × Json) : Member where
  name := m.1
  key := renderString (some m.1)
  value := m.2
  text := m.2.renderChars

theorem writesName_short (m : String × Json) : WritesName m.1 (Member.short m).key := by
  have h := WritesName.mk isBlank_nil (writesString_renderString m.1) isBlank_nil
  rwa [List.nil_append, List.append_nil] at h

theorem legible_record {members : List (String × Json)} (h : ∀ m ∈ members, Legible m.2) :
    Legible (.record members) := by
  rcases eq_or_ne members [] with rfl | hne
  · exact .noMembers isBlank_nil
  · have hw := @Writes.members (members.map Member.short) (by simpa using hne)
      (List.forall_mem_map.2 fun m _ => writesName_short m) (List.forall_mem_map.2 h)
    simpa [Legible, record, renderChars, renderMembers_eq, Function.comp_def, Member.short,
      Member.entry, Member.chars] using hw

end FilterSql.Json
