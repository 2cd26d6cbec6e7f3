/-!
# Documents as trees

An element has a name, attributes, and content of text and elements. Comments and instructions are
not kept.
-/

namespace Recalc.Xml

inductive Node where
  | text (s : String)
  | element (name : String) (attributes : List (String × String)) (content : List Node)
  deriving Inhabited

/-- An element of a tree. -/
structure Element where
  name : String
  attributes : List (String × String)
  content : List Node
  deriving Inhabited

namespace Element

def toNode (e : Element) : Node :=
  .element e.name e.attributes e.content

def attribute? (e : Element) (name : String) : Option String :=
  e.attributes.lookup name

/-- The elements directly inside. -/
def children (e : Element) : List Element :=
  e.content.filterMap fun
    | .text _ => none
    | .element name attributes content => some ⟨name, attributes, content⟩

/-- The text before the first element of some content. -/
def textBefore : List Node → String
  | .text s :: rest => s ++ textBefore rest
  | _ => ""

/-- The text before the first element inside. -/
def leadingText (e : Element) : String :=
  textBefore e.content

end Element

end Recalc.Xml
