/-
  Elements

  A document is a tree of elements with text between them. The name of an
  element or an attribute may belong to a namespace; one that does not has an
  empty one.

  What is proved:
    1. `allText_append` — the text of neighbours is the text of each in turn.
-/

namespace RackElevation.Xml

/-- A name in a namespace. -/
structure Name where
  space : List Char := []
  base : List Char
  deriving DecidableEq, Repr

/-- An attribute of an element. -/
structure Attribute where
  name : Name
  value : List Char
  deriving DecidableEq, Repr

/-- A text or an element. -/
inductive Node
  | text (s : List Char)
  | element (name : Name) (attributes : List Attribute) (content : List Node)
  deriving Repr

mutual
/-- All text inside a node, in document order. -/
def Node.allText : Node → List Char
  | .text s => s
  | .element _ _ content => allText content

/-- All text inside nodes, in document order. -/
def allText : List Node → List Char
  | [] => []
  | n :: rest => n.allText ++ allText rest
end

/-- The value of the attribute of a name that belongs to no namespace. -/
def attributeValue? (name : String) (attributes : List Attribute) : Option (List Char) :=
  (attributes.find? fun a => a.name.space.isEmpty && a.name.base == name.toList).map Attribute.value

theorem allText_append (a b : List Node) : allText (a ++ b) = allText a ++ allText b := by
  induction a with
  | nil => simp [allText]
  | cons n a ih => simp [allText, ih]

end RackElevation.Xml
