import FieldList.Docx.Page
import FieldList.Settings.Error

/-!
# Settings

The five settings, read from layered values. Each of the two groups is a table with the settings
under their keys or a list of them in order; what else it holds is passed over.
-/

namespace FieldList

structure Settings where
  title : String
  fileName : String
  orientation : Docx.Orientation
  label : String
  format : String
  deriving DecidableEq, Repr

namespace Settings

/-! ## Single settings -/

/-- The text of a value, which stands under a key. Numbers and truth values are read as the texts
that they are written as. -/
def decodeText (key : String) : Value → Except SettingsError String
  | .scalar _ (.text s) => .ok s
  | .scalar _ (.boolean b) => .ok (if b then "true" else "false")
  | .scalar _ (.integer n) => .ok n.repr
  | .scalar _ (.float x) => .ok x.text
  | .scalar origin .nil => .error (.notText .nil key origin)
  | .list origin _ => .error (.notText .list key origin)
  | .table origin _ => .error (.notText .table key origin)

/-- The orientation that a keyword in any case stands for. -/
def orientationOf (given : String) : Except SettingsError Docx.Orientation :=
  match Docx.Orientation.ofKeyword? (Value.lowerKey given) with
  | some o => .ok o
  | none => .error (.unknownOrientation given)

/-- The orientation that a value stands for: its keyword, or a table with it as its only key. -/
def decodeOrientation : Value → Except SettingsError Docx.Orientation
  | .scalar _ (.text s) => orientationOf s
  | .table _ [(key, _)] => orientationOf key
  | _ => .error .noOrientation

/-! ## Groups -/

/-- The value of a group's setting at a place and under a name, and the key of that value. -/
def member (group : Group) (v : Value) (place : Nat) (name : String) :
    Except SettingsError (String × Value) :=
  match v with
  | .table _ entries =>
    match entries.lookup name with
    | some inner => .ok (group.key ++ "." ++ name, inner)
    | none => .error (.missing name)
  | .list _ items =>
    match items[place]? with
    | some inner => .ok (group.key ++ "[" ++ place.repr ++ "]", inner)
    | none => .error (.tooShort place group)
  | .scalar _ found => .error (.noGroup found group)

/-- The text of a group's setting. -/
def textMember (group : Group) (v : Value) (place : Nat) (name : String) :
    Except SettingsError String := do
  let (key, inner) ← member group v place name
  decodeText key inner

/-- The table's group. -/
def groupValue (root : Value) (group : Group) : Except SettingsError Value :=
  match root.entries.lookup group.key with
  | some v => .ok v
  | none => .error (.missing group.key)

/-- The settings that a value holds. -/
def decode (root : Value) : Except SettingsError Settings := do
  let document ← groupValue root .document
  let exporting ← groupValue root .exporting
  let title ← textMember .document document 0 "title"
  let fileName ← textMember .document document 1 "file_name"
  let (_, orientation) ← member .document document 2 "orientation"
  let orientation ← decodeOrientation orientation
  let label ← textMember .exporting exporting 0 "label_prefix"
  let format ← textMember .exporting exporting 1 "format"
  return { title, fileName, orientation, label, format }

end Settings

end FieldList
