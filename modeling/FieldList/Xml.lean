/-!
# XML

Elements with attributes and children, and text. A document is written as the tags and texts met
on the way through it: an element without children is one tag that closes itself, any other has an
opening and a closing tag. In text the five characters that can be taken for markup are written as
entities, so a text never adds a tag.
-/

namespace FieldList.Xml

inductive Node where
  | text (s : String)
  | element (name : String) (attributes : List (String × String)) (children : List Node)

namespace Node

/-- An element without children. -/
def leaf (name : String) (attributes : List (String × String)) : Node := element name attributes []

/-- An element without attributes. -/
def group (name : String) (children : List Node) : Node := element name [] children

end Node

/-! ## Tags and texts -/

inductive Token where
  | opening (name : String) (attributes : List (String × String))
  | closing (name : String)
  | alone (name : String) (attributes : List (String × String))
  | text (s : String)
  deriving DecidableEq, Repr

mutual

/-- The tags and texts of a node, in order. -/
def Node.tokens : Node → List Token
  | .text s => [.text s]
  | .element name attributes [] => [.alone name attributes]
  | .element name attributes (child :: children) =>
    .opening name attributes :: (child.tokens ++ tokensOf children) ++ [.closing name]

/-- The tags and texts of some nodes, in order. -/
def tokensOf : List Node → List Token
  | [] => []
  | node :: nodes => node.tokens ++ tokensOf nodes

end

/-! ## Writing -/

/-- A character as it is written in text. -/
def escapeChar (c : Char) : List Char :=
  match c with
  | '&' => "&amp;".toList
  | '<' => "&lt;".toList
  | '>' => "&gt;".toList
  | '"' => "&quot;".toList
  | '\'' => "&apos;".toList
  | c => [c]

def escape (s : String) : List Char := s.toList.flatMap escapeChar

/-- An attribute after a space. -/
def writeAttribute : String × String → List Char
  | (name, value) => ' ' :: name.toList ++ ['=', '"'] ++ escape value ++ ['"']

/-- The name and the attributes of a tag. -/
def writeHead (name : String) (attributes : List (String × String)) : List Char :=
  name.toList ++ attributes.flatMap writeAttribute

def Token.write : Token → List Char
  | opening name attributes => '<' :: writeHead name attributes ++ ['>']
  | closing name => '<' :: '/' :: name.toList ++ ['>']
  | alone name attributes => '<' :: writeHead name attributes ++ [' ', '/', '>']
  | text s => escape s

def Node.write (node : Node) : List Char := node.tokens.flatMap Token.write

end FieldList.Xml
