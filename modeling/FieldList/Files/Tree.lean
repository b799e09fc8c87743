import FieldList.Content

/-!
# Files

Directories and files under a root, with a working directory from which relative paths lead. A
place is the list of names that lead to it from the root. Opening a file for writing creates it in
an existing directory or replaces what it held; nothing else is ever changed.
-/

namespace FieldList.Files

/-! ## Errors -/

/-- Why a file cannot be opened. -/
inductive OpenError where
  | notFound
  | notDirectory
  | isDirectory
  | nameTooLong
  | nulInName
  | system (text : String) (code : Nat)
  deriving DecidableEq, Repr

namespace OpenError

/-- The text of an error that has a number. -/
def numbered (text : String) (code : Nat) : String :=
  text ++ " (os error " ++ code.repr ++ ")"

def message : OpenError → String
  | notFound => numbered "No such file or directory" 2
  | notDirectory => numbered "Not a directory" 20
  | isDirectory => numbered "Is a directory" 21
  | nameTooLong => numbered "File name too long" 36
  | nulInName => "file name contained an unexpected NUL byte"
  | system text code => numbered text code

end OpenError

/-! ## Paths -/

/-- A path taken apart. Empty names between slashes lead nowhere and are left out. -/
structure Path where
  absolute : Bool
  names : List String
  endsInSlash : Bool
  deriving DecidableEq, Repr

namespace Path

/-- The pieces of a text between slashes. -/
def pieces : List Char → List (List Char)
  | [] => [[]]
  | c :: rest =>
    if c = '/' then [] :: pieces rest
    else match pieces rest with
      | [] => [[c]]
      | piece :: more => (c :: piece) :: more

theorem pieces_ne_nil (s : List Char) : pieces s ≠ [] := by
  cases s with
  | nil => simp [pieces]
  | cons c rest =>
    rw [pieces]
    split
    · simp
    · split <;> simp

theorem slash_notMem_of_mem_pieces {s piece : List Char} (h : piece ∈ pieces s) :
    '/' ∉ piece := by
  induction s generalizing piece with
  | nil =>
    obtain rfl : piece = [] := by simpa [pieces] using h
    simp
  | cons c rest ih =>
    rw [pieces] at h
    split at h
    · next hc =>
      rcases List.mem_cons.mp h with rfl | h
      · simp
      · exact ih h
    · next hc =>
      split at h
      · next hnil => exact absurd hnil (pieces_ne_nil rest)
      · next first more hpieces =>
        rcases List.mem_cons.mp h with rfl | h
        · have := ih (hpieces ▸ List.mem_cons_self)
          simp [Ne.symm hc, this]
        · exact ih (hpieces ▸ List.mem_cons_of_mem _ h)

/-- The longest path and the longest name that can be opened, in bytes. -/
def maxLength : Nat := 4095

def maxNameLength : Nat := 255

/-- The names of a path, but for the empty ones. -/
def namesOf (s : String) : List String :=
  ((pieces s.toList).filter (· ≠ [])).map String.ofList

def ofString (s : String) : Except OpenError Path :=
  if s.toList.contains '\x00' then .error .nulInName
  else if s = "" then .error .notFound
  else if s.utf8ByteSize > maxLength then .error .nameTooLong
  else .ok {
    absolute := s.toList.head? = some '/'
    names := namesOf s
    endsInSlash := s.toList.getLast? = some '/' }

end Path

/-! ## Trees -/

inductive Node where
  | directory
  | file (content : Content)
  deriving DecidableEq

/-- What stands at which place. The root is a directory and has no entry of its own. -/
structure Tree where
  entries : List (List String × Node)
  workingDirectory : List String
  deriving DecidableEq

namespace Tree

/-- What stands at a place. -/
def node? (t : Tree) (place : List String) : Option Node :=
  if place = [] then some .directory else t.entries.lookup place

/-- The tree with something put at a place. -/
def insert (t : Tree) (place : List String) (node : Node) : Tree :=
  { t with entries := (place, node) :: t.entries.filter (·.1 ≠ place) }

theorem lookup_filter_ne {place other : List String} (h : other ≠ place)
    (entries : List (List String × Node)) :
    (entries.filter (·.1 ≠ place)).lookup other = entries.lookup other := by
  induction entries with
  | nil => rfl
  | cons head rest ih =>
    obtain ⟨p, node⟩ := head
    by_cases hp : p = place
    · subst hp
      simpa [List.lookup_cons, beq_false_of_ne h] using ih
    · rw [List.filter_cons_of_pos (by simpa using hp), List.lookup_cons, List.lookup_cons, ih]

/-- Only what stands at the place itself changes. -/
theorem node?_insert (t : Tree) (place : List String) (node : Node) (hplace : place ≠ [])
    (other : List String) :
    (t.insert place node).node? other = if other = place then some node else t.node? other := by
  by_cases h : other = place
  · subst h
    simp [node?, insert, hplace]
  · by_cases hother : other = []
    · simp [node?, hother, Ne.symm hplace]
    · rw [node?, node?, if_neg hother, if_neg hother, if_neg h, insert, List.lookup_cons,
        beq_false_of_ne h]
      exact lookup_filter_ne h t.entries

/-- The directory that a name leads to from a directory. -/
def enter (t : Tree) (place : List String) (name : String) : Except OpenError (List String) :=
  if name = "." then .ok place
  else if name = ".." then .ok place.dropLast
  else if name.utf8ByteSize > Path.maxNameLength then .error .nameTooLong
  else match t.node? (place ++ [name]) with
    | some .directory => .ok (place ++ [name])
    | some (.file _) => .error .notDirectory
    | none => .error .notFound

/-- Where a path leads: to a directory, or to a name in one. -/
inductive Target where
  | directory (place : List String)
  | entry (place : List String) (name : String)

/-- Follows a path up to its last name. -/
def follow (t : Tree) (p : Path) : Except OpenError Target := do
  let start := if p.absolute then [] else t.workingDirectory
  match p.names.getLast? with
  | none => return .directory start
  | some name =>
    let place ← p.names.dropLast.foldlM t.enter start
    if name = "." || name = ".." then return .directory (← t.enter place name)
    else return .entry place name

/-- What a path leads to. -/
def look (t : Tree) (path : String) : Except OpenError Node := do
  let p ← Path.ofString path
  match ← t.follow p with
  | .directory _ => return .directory
  | .entry place name =>
    if name.utf8ByteSize > Path.maxNameLength then throw .nameTooLong
    match t.node? (place ++ [name]) with
    | none => throw .notFound
    | some .directory => return .directory
    | some (.file content) => if p.endsInSlash then throw .notDirectory else return .file content

/-- The place of the file that a path opens for writing. -/
def writable (t : Tree) (path : String) : Except OpenError (List String) := do
  let p ← Path.ofString path
  match ← t.follow p with
  | .directory _ => throw .isDirectory
  | .entry place name =>
    if p.endsInSlash then throw .isDirectory
    if name.utf8ByteSize > Path.maxNameLength then throw .nameTooLong
    if t.node? (place ++ [name]) = some .directory then throw .isDirectory
    return place ++ [name]

/-- The tree after a file was written. -/
def write (t : Tree) (path : String) (content : Content) : Except OpenError Tree := do
  return t.insert (← t.writable path) (.file content)

/-- The files of the second tree that the first does not hold with the same content. -/
def changes (before after : Tree) : List (List String × Content) :=
  after.entries.filterMap fun
    | (place, .file content) =>
      if before.node? place = some (.file content) then none else some (place, content)
    | (_, .directory) => none

end Tree

/-- What the paths lead to, as far as they are asked for. -/
abbrev View := String → Except OpenError Node

end FieldList.Files
