import FilterSql.Files.Basic

namespace FilterSql

inductive FileEntry
  | file (content : ByteArray)
  | directory

structure FileTree where
  entries : List (List String × FileEntry)

namespace FileTree

def empty : FileTree := ⟨[]⟩

def components (path : String) : List String :=
  (path.toList.splitOnP (· == '/')).map String.ofList

/-- The names that lead from one entry to another, by the components of a path, or none if the path
leaves the tree. -/
def resolve? (names : List String) : List String → Option (List String)
  | [] => some names
  | name :: rest =>
    if name = "" ∨ name = "." then resolve? names rest
    else if name = ".." then if names.isEmpty then none else resolve? names.dropLast rest
    else resolve? (names ++ [name]) rest

def removeBelow (t : FileTree) (names : List String) : FileTree :=
  ⟨t.entries.filter fun (longer, _) => !names.isPrefixOf longer⟩

def remove (t : FileTree) (path : String) : FileTree :=
  match resolve? [] (components path) with
  | some names => t.removeBelow names
  | none => t

def put (t : FileTree) (path : String) (entry : FileEntry) : FileTree :=
  match resolve? [] (components path) with
  | some names => ⟨(names, entry) :: (t.removeBelow names).entries⟩
  | none => t

def entry? (t : FileTree) (names : List String) : Option FileEntry :=
  match t.entries.lookup names with
  | some entry => some entry
  | none =>
    if names.isEmpty || t.entries.any fun (longer, _) => names.isPrefixOf longer then
      some .directory
    else none

def isDirectory (t : FileTree) (names : List String) : Bool :=
  match t.entry? names with
  | some .directory => true
  | _ => false

inductive Place
  | outside
  | inside (names : List String)

def pathLimit : Nat := 4095

def nameLimit : Nat := 255

/-- Walks a path. Every name is looked up in a directory; above the root nothing is known but the
directories on the way up. -/
def walk (t : FileTree) : Place → List String → Option Place
  | place, [] => some place
  | .outside, name :: rest =>
    if name = "" ∨ name = "." ∨ name = ".." then t.walk .outside rest else none
  | .inside names, name :: rest =>
    if !t.isDirectory names || nameLimit < name.utf8ByteSize then none
    else if name = "" ∨ name = "." then t.walk (.inside names) rest
    else if name = ".." then
      t.walk (if names.isEmpty then .outside else .inside names.dropLast) rest
    else t.walk (.inside (names ++ [name])) rest

/-- The entry at a path. The empty path and a path over the limit lead nowhere, and one that begins
with a slash starts above the root. -/
def find? (t : FileTree) (path : String) : Option FileEntry :=
  if path.isEmpty || pathLimit < path.utf8ByteSize then none
  else
    match t.walk (if path.startsWith "/" then .outside else .inside []) (components path) with
    | none => none
    | some .outside => some .directory
    | some (.inside names) => t.entry? names

def files (t : FileTree) : Files := fun path =>
  match t.find? path with
  | none => .missing
  | some .directory => .unreadable .isDirectory
  | some (.file content) =>
    match String.fromUTF8? content with
    | some text => .text text
    | none => .unreadable .notUtf8

end FileTree

end FilterSql
