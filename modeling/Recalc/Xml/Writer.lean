import Recalc.Xml.Node

/-!
# Writing documents

A tree as text. Elements without content have one tag, and what would be taken for markup, or lost
when a reader cleans up line ends, is written as references.
-/

namespace Recalc.Xml

def declarationLine : String := "<?xml version='1.0' encoding='utf-8'?>\n"

/-- A character of text. -/
def escapeText : Char → List Char
  | '&' => "&amp;".toList
  | '<' => "&lt;".toList
  | '>' => "&gt;".toList
  | '\r' => "&#13;".toList
  | c => [c]

/-- A character of an attribute value in double quotes. -/
def escapeValue : Char → List Char
  | '&' => "&amp;".toList
  | '<' => "&lt;".toList
  | '>' => "&gt;".toList
  | '"' => "&quot;".toList
  | '\r' => "&#13;".toList
  | '\n' => "&#10;".toList
  | '\t' => "&#09;".toList
  | c => [c]

def escapedText (s : String) : List Char :=
  s.toList.flatMap escapeText

def attributeChars (a : String × String) : List Char :=
  ' ' :: a.1.toList ++ '=' :: '"' :: a.2.toList.flatMap escapeValue ++ ['"']

mutual
def Node.chars : Node → List Char
  | .text s => escapedText s
  | .element name attributes content =>
    let opening := '<' :: name.toList ++ attributes.flatMap attributeChars
    match contentChars content with
    | [] => opening ++ " />".toList
    | inside => opening ++ '>' :: inside ++ '<' :: '/' :: name.toList ++ ['>']

def contentChars : List Node → List Char
  | [] => []
  | n :: rest => n.chars ++ contentChars rest
end

/-- The text of a document. -/
def Element.document (e : Element) : String :=
  declarationLine ++ String.ofList e.toNode.chars

end Recalc.Xml
