import FieldList.Toml.Value

/-!
# Defining tables

A document defines its tables piece by piece. Which pieces may follow which depends on how a table
came about: by a header of its own, as a step on the way to another header's table, or through a
dotted key. No key is defined twice, and a table is not reopened in another way than it was made.
-/

namespace FieldList.Toml

/-- How a table came about. -/
inductive TableKind where
  /-- by a header of its own, or as the root -/
  | defined
  /-- on the way to the table of a header -/
  | implied
  /-- through a dotted key -/
  | dotted
  deriving DecidableEq, Repr

inductive Item where
  | value (v : Value)
  | table (kind : TableKind) (entries : List (String × Item))
  | tables (elements : List (List (String × Item)))

abbrev Entries := List (String × Item)

/-! ## Values -/

mutual

def Item.toValue : Item → Value
  | .value v => v
  | .table _ entries => .table (valuesOf entries)
  | .tables elements => .array (tablesOf elements)

def valuesOf : List (String × Item) → List (String × Value)
  | [] => []
  | (key, item) :: rest => (key, item.toValue) :: valuesOf rest

def tablesOf : List (List (String × Item)) → List Value
  | [] => []
  | entries :: rest => .table (valuesOf entries) :: tablesOf rest

end

/-! ## Changing entries -/

namespace Entries

/-- The entries with an item put in the place of its key. -/
def put (key : String) (item : Item) : Entries → Entries
  | [] => [(key, item)]
  | (k, i) :: rest => if k = key then (key, item) :: rest else (k, i) :: put key item rest

/-- The tables with a change made to the last of them. -/
def changeLast (change : Entries → Option Entries) : List Entries → Option (List Entries)
  | [] => none
  | [entries] => (change entries).map fun entries => [entries]
  | entries :: more => (changeLast change more).map (entries :: ·)

/-- Makes a change to the table at the end of a path, which is given its kind too. A step leads
into the last of several tables. Tables that are missing are made, of the kind `made`; through a
dotted key no table with a header of its own is entered. -/
def changeAt (made : TableKind) (change : TableKind → Entries → Option Entries) :
    List String → TableKind → Entries → Option Entries
  | [], kind, entries => change kind entries
  | key :: path, _, entries =>
    match entries.lookup key with
    | none => do
      some (put key (.table made (← changeAt made change path made [])) entries)
    | some (.value _) => none
    | some (.table kind inner) =>
      if made = .dotted && kind = .defined then none
      else do some (put key (.table kind (← changeAt made change path kind inner)) entries)
    | some (.tables elements) => do
      some (put key (.tables (← changeLast (changeAt made change path .defined) elements)) entries)

/-- Defines a key of the table at the end of a dotted key's path. -/
def define (path : List String) (key : String) (v : Value) : Entries → Option Entries :=
  changeAt .dotted (fun kind entries =>
    if decide (kind = .dotted) = path.isEmpty then none
    else if (entries.lookup key).isSome then none
    else some (put key (.value v) entries)) path .defined

/-- Defines a key under the header with the given path. -/
def defineUnder (header path : List String) (key : String) (v : Value) (root : Entries) :
    Option Entries :=
  changeAt .implied (fun _ entries => define path key v entries) header .defined root

/-- Opens the table of a header. A table that was there on the way to another becomes the last. -/
def openTable (path : List String) (key : String) (root : Entries) : Option Entries :=
  changeAt .implied (fun _ entries =>
    match entries.lookup key with
    | none => some (put key (.table .defined []) entries)
    | some (.table .implied inner) =>
      some (entries.filter (·.1 ≠ key) ++ [(key, .table .defined inner)])
    | some _ => none) path .defined root

/-- Opens a further one of several tables under the same header. -/
def openElement (path : List String) (key : String) (root : Entries) : Option Entries :=
  changeAt .implied (fun _ entries =>
    match entries.lookup key with
    | none => some (put key (.tables [[]]) entries)
    | some (.tables elements) => some (put key (.tables (elements ++ [[]])) entries)
    | some _ => none) path .defined root

end Entries

end FieldList.Toml
