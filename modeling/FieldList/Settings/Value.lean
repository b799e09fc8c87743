import FieldList.Decimal.Binary64
import FieldList.Settings.KeyPath
import FieldList.Text.LowerCase
import FieldList.Toml.Value

/-!
# Layered values

Settings are nested values, and each remembers the file that it came from. Layers are laid over
each other key by key: a table is merged into what is there, and any other value takes its place.
The keys of merged tables are in lower case, so that case makes no difference to them.
-/

namespace FieldList.Settings

inductive Scalar where
  | nil
  | boolean (b : Bool)
  | integer (n : Int)
  | float (x : Decimal.Binary64)
  | text (s : String)
  deriving DecidableEq, Repr

inductive Value where
  | scalar (origin : Option String) (s : Scalar)
  | list (origin : Option String) (items : List Value)
  | table (origin : Option String) (entries : List (String × Value))
  deriving Repr

abbrev Entries := List (String × Value)

namespace Value

def nil : Value := scalar none .nil

def emptyTable : Value := table none []

def ofText (s : String) : Value := scalar none (.text s)

def origin : Value → Option String
  | scalar origin _ => origin
  | list origin _ => origin
  | table origin _ => origin

def entries : Value → Entries
  | table _ entries => entries
  | _ => []

def items : Value → List Value
  | list _ items => items
  | _ => []

/-! ## Values of files -/

mutual

/-- The value of a file as a setting. A date or time is the text that it is written as. -/
def ofToml (origin : Option String) : Toml.Value → Value
  | .string s => scalar origin (.text s)
  | .integer n => scalar origin (.integer n)
  | .float x => scalar origin (.float x)
  | .boolean b => scalar origin (.boolean b)
  | .dateTime d => scalar origin (.text d.text)
  | .array items => list origin (ofTomlItems origin items)
  | .table entries => table origin (ofTomlEntries origin entries)

def ofTomlItems (origin : Option String) : List Toml.Value → List Value
  | [] => []
  | v :: vs => ofToml origin v :: ofTomlItems origin vs

def ofTomlEntries (origin : Option String) : List (String × Toml.Value) → Entries
  | [] => []
  | (key, v) :: rest => (key, ofToml origin v) :: ofTomlEntries origin rest

end

/-! ## Putting values into tables and lists -/

/-- The entries with a value put in the place of its key. -/
def putEntry (key : String) (v : Value) : Entries → Entries
  | [] => [(key, v)]
  | (k, old) :: rest => if k = key then (key, v) :: rest else (k, old) :: putEntry key v rest

theorem lookup_putEntry (key : String) (v : Value) (entries : Entries) (other : String) :
    (putEntry key v entries).lookup other =
      if other = key then some v else entries.lookup other := by
  induction entries with
  | nil =>
    by_cases h : other = key
    · simp [putEntry, h]
    · simp [putEntry, List.lookup_cons, beq_false_of_ne h, h]
  | cons head rest ih =>
    obtain ⟨k, old⟩ := head
    rw [putEntry]
    split
    · next hk =>
      subst hk
      by_cases h : other = k
      · simp [h]
      · simp [List.lookup_cons, beq_false_of_ne h, h]
    · next hk =>
      by_cases h : other = k
      · subst h
        simp [hk]
      · simp [List.lookup_cons, beq_false_of_ne h, ih]

/-- The table with a value put under a key. What is no table gives way to one. -/
def withEntry (root : Value) (key : String) (v : Value) : Value :=
  match root with
  | table origin entries => table origin (putEntry key v entries)
  | _ => table none [(key, v)]

/-- The place in a list of the given length that an index stands for: a negative index counts from
the end, and stands for the first place if it counts further. -/
def placeOf (i : Int) (length : Nat) : Nat := if 0 ≤ i then i.toNat else length - i.natAbs

/-- The item at an index, or nil. -/
def item (root : Value) (i : Int) : Value := root.items.getD (placeOf i root.items.length) nil

/-- The list with a value put at an index, with nil at the places that were missing. What is no
list gives way to one. -/
def withItem (root : Value) (i : Int) (v : Value) : Value :=
  let origin := match root with
    | list origin _ => origin
    | _ => none
  let n := placeOf i root.items.length
  list origin ((root.items ++ List.replicate (n + 1 - root.items.length) nil).set n v)

def lowerKey (key : String) : String := String.ofList (Text.lowerCase key.toList)

/-! ## Merging -/

mutual

/-- The table with a value laid over what is under a key. -/
def overlay (root : Value) (key : String) : Value → Value
  | .table _ incoming =>
    let key := lowerKey key
    root.withEntry key (overlayAll ((root.entries.lookup key).getD emptyTable) incoming)
  | v => root.withEntry (lowerKey key) v

/-- The table with values laid over what is under their keys. -/
def overlayAll (root : Value) : List (String × Value) → Value
  | [] => root
  | (key, v) :: rest => overlayAll (overlay root key v) rest

end

/-- The value with a change made at the end of some steps; `change` is given what is there, or
nil. -/
def changeAt (change : Value → Value) : List Step → Value → Value
  | [], root => change root
  | .key name :: steps, root =>
    let key := lowerKey name
    root.withEntry key (changeAt change steps ((root.entries.lookup key).getD nil))
  | .index i :: steps, root => root.withItem i (changeAt change steps (root.item i))

/-- The table with a value laid over what a key path leads to. At an index the value takes the
place of what was there; under a key a table is merged. -/
def overlayAt (root : Value) (path : KeyPath) (v : Value) : Value :=
  match path.steps.getLast? with
  | none => root.overlay path.root v
  | some (.key name) =>
    changeAt (fun parent => parent.overlay name v) (.key path.root :: path.steps.dropLast) root
  | some (.index i) =>
    changeAt (fun parent => parent.withItem i v) (.key path.root :: path.steps.dropLast) root

/-- The table with the entries of a file laid over it. The key of an entry is read as a key path if
it is one. -/
def overlayFile (root : Value) (entries : List (String × Value)) : Value :=
  entries.foldl (fun root (key, v) =>
    match KeyPath.parse key with
    | .ok path => root.overlayAt path v
    | .error _ => root.overlay key v) root

end Value

end FieldList.Settings
