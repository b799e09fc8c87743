import FieldList.Decimal.Shortest
import FieldList.Settings.Value
import FieldList.Text.Quoted

/-!
# Errors of settings

Everything that can be wrong with settings, and how it is said.
-/

namespace FieldList.Settings

/-- A group of settings that belong together: the key of its table, the name by which errors call
it, and the number of its settings. -/
structure Group where
  key : String
  title : String
  size : Nat
  deriving DecidableEq, Repr

namespace Group

def document : Group := ⟨"document", "DocumentConfig", 3⟩

def exporting : Group := ⟨"export", "ExportConfig", 2⟩

end Group

/-- What stands where a text should. -/
inductive Misfit where
  | nil
  | list
  | table
  deriving DecidableEq, Repr

namespace Misfit

def name : Misfit → String
  | nil => "unit value"
  | list => "sequence"
  | table => "map"

end Misfit

inductive SettingsError where
  /-- a key that is no key path -/
  | key (e : KeyPathError)
  /-- a required file that is not there -/
  | fileNotFound (path : String)
  /-- a required file that is not UTF-8 -/
  | notUtf8
  /-- a file that breaks the rules of its format -/
  | malformed (file : String)
  | notText (found : Misfit) (key : String) (origin : Option String)
  | missing (field : String)
  | tooShort (length : Nat) (group : Group)
  | noGroup (found : Scalar) (group : Group)
  | unknownOrientation (given : String)
  | noOrientation
  deriving DecidableEq, Repr

namespace SettingsError

/-- A number with at least one place after its point. -/
def decimalText (x : Decimal.Binary64) : String :=
  match x with
  | .finite _ _ _ => if x.text.toList.contains '.' then x.text else x.text ++ ".0"
  | _ => x.text

/-- How an error shows a value. -/
def describe : Scalar → String
  | .nil => "unit value"
  | .boolean b => "boolean `" ++ (if b then "true" else "false") ++ "`"
  | .integer n => "integer `" ++ n.repr ++ "`"
  | .float x => "floating point `" ++ decimalText x ++ "`"
  | .text s => "string " ++ Text.quoted s

def message : SettingsError → String
  | key e => e.message
  | fileNotFound path => "configuration file \"" ++ path ++ "\" not found"
  | notUtf8 => "stream did not contain valid UTF-8"
  | malformed file => "invalid TOML in " ++ file
  | notText found place origin =>
    "invalid type: " ++ found.name ++ ", expected a string for key `" ++ place ++ "`" ++
      (origin.elim "" (" in " ++ ·))
  | missing field => "missing field `" ++ field ++ "`"
  | tooShort length group =>
    "invalid length " ++ length.repr ++ ", expected struct " ++ group.title ++ " with " ++
      group.size.repr ++ " elements"
  | noGroup found group =>
    "invalid type: " ++ describe found ++ ", expected struct " ++ group.title
  | unknownOrientation given =>
    "enum PageOrientation does not have variant constructor " ++ given
  | noOrientation =>
    "value of enum PageOrientation should be represented by either string or table with " ++
      "exactly one key"

end SettingsError

end FieldList.Settings
