import FieldList.DateFormat
import FieldList.Text.Search

/-!
# What a line says about a field

A line can carry a description, a date format, a mark that forbids null, and a declaration. Each
of the four is looked for anywhere in the trimmed line and found where it first stands complete;
quotes and comments are not told from code. The declaration comes last, so that annotations on
its line belong to it.
-/

namespace FieldList.Source

open Text

inductive Event where
  | description (text : String)
  | dateFormat (format : DateFormat)
  | notNull
  | declaration (dataType name : String)
  deriving DecidableEq, Repr

/-! ## Descriptions -/

/-- The text up to the first quote that closes the annotation. It does not go past a line end. -/
def textToClose : List Char → Option (List Char)
  | [] => none
  | c :: rest =>
    if (afterTokens ["\"", ")"] (c :: rest)).isSome then some []
    else if c = '\n' then none
    else (textToClose rest).map (c :: ·)

/-- The text of a description after its opening quote. It has at least one character, which may
itself be a quote. -/
def descriptionText : List Char → Option (List Char)
  | [] => none
  | c :: rest => if c = '\n' then none else (textToClose rest).map (c :: ·)

/-- The description of an annotation that starts here. -/
def descriptionAt (s : List Char) : Option (List Char) := do
  descriptionText (← afterTokens ["@Schema", "(", "description", "=", "\""] s)

/-! ## Date formats -/

/-- The constant named by a date format annotation that starts here. -/
def constantAt (s : List Char) : Option (List Char) := do
  let (name, rest) ← wordRun (← afterTokens ["@JsonFormat", "(", "pattern", "=", "Const."] s)
  let _ ← afterLiteral [')'] (skipBlanks rest)
  some ("Const.".toList ++ name)

/-! ## Declarations -/

/-- What follows a visibility keyword that stands here. -/
def afterVisibility (s : List Char) : Option (List Char) :=
  ["private", "protected", "public"].findSome? fun keyword => afterLiteral keyword.toList s

/-- The type and the name of a declaration that starts here. Its keyword starts a word, so the
character before it is no word character. -/
def declarationAt (before : Option Char) (s : List Char) : Option (List Char × List Char) :=
  if before.any isWord then none
  else do
    let (dataType, rest) ← wordRun (← afterBlanks (← afterVisibility s))
    let (name, rest) ← wordRun (← afterBlanks rest)
    let _ ← afterLiteral [';'] rest
    some (dataType, name)

/-! ## Lines -/

def description? (text : List Char) : Option Event :=
  (leftmost (fun _ => descriptionAt) none text).map fun t => .description (String.ofList t)

def dateFormat? (text : List Char) : Option Event :=
  (leftmost (fun _ => constantAt) none text).map fun c =>
    .dateFormat (DateFormat.ofConstant (String.ofList c))

def notNull? (text : List Char) : Option Event :=
  (leftmost (fun _ => afterLiteral "@NotNull".toList) none text).map fun _ => .notNull

def declaration? (text : List Char) : Option Event :=
  (leftmost declarationAt none text).map fun (dataType, name) =>
    .declaration (String.ofList dataType) (String.ofList name)

/-- What a line says, the declaration last. -/
def Event.ofLine (line : List Char) : List Event :=
  [description?, dateFormat?, notNull?, declaration?].filterMap fun find? => find? (trim line)

end FieldList.Source
