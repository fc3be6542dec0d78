import RackElevation.Text.Entity

/-
  Document nodes

  A document is a tree of elements. Attribute values and texts are held in the
  form in which they are written; `Attribute.escaped` and `Node.label` build
  that form from arbitrary text. A group has its children on lines of their
  own; any other element is written on one line.

  What is proved:
    1. `Attribute.escaped_clean` — an escaped value cannot end its quotes or
       start a tag.
-/

namespace RackElevation.Svg

/-- A name with a value in the form in which it is written. -/
structure Attribute where
  name : String
  value : List Char
  deriving DecidableEq, Repr

/-- An attribute whose value may be any text. -/
def Attribute.escaped (name : String) (value : List Char) : Attribute :=
  ⟨name, Entity.escape value⟩

/-- An attribute whose value is written as it stands. -/
def Attribute.plain (name value : String) : Attribute := ⟨name, value.toList⟩

/-- Whether a written value cannot end its quotes or start a tag. -/
def Attribute.Clean (a : Attribute) : Prop := '"' ∉ a.value ∧ '<' ∉ a.value

/-- The name of an element with its attributes. -/
structure Tag where
  name : String
  attributes : List Attribute := []
  deriving DecidableEq, Repr

/-- A part of a document. -/
inductive Node
  /-- An element without content. -/
  | leaf (tag : Tag)
  /-- An element with text in it. -/
  | text (tag : Tag) (content : List Char)
  /-- An element around another, on the same line. -/
  | around (tag : Tag) (child : Node)
  /-- An element with its children on lines of their own. -/
  | group (tag : Tag) (children : List Node)
  deriving Repr

/-- An attribute as it is written, after a blank. -/
def Attribute.write (a : Attribute) : List Char :=
  ' ' :: (a.name.toList ++ '=' :: '"' :: (a.value ++ ['"']))

/-- The name and the attributes of a tag. -/
def Tag.writeInner (t : Tag) : List Char := t.name.toList ++ t.attributes.flatMap Attribute.write

/-- A start tag. -/
def Tag.writeStart (t : Tag) : List Char := '<' :: (t.writeInner ++ ['>'])

/-- An end tag. -/
def Tag.writeEnd (t : Tag) : List Char := '<' :: '/' :: (t.name.toList ++ ['>'])

/-- A tag that is start and end at once. -/
def Tag.writeEmpty (t : Tag) : List Char := '<' :: (t.writeInner ++ ['/', '>'])

mutual
/-- A node as it is written. -/
def Node.write : Node → List Char
  | .leaf tag => tag.writeEmpty
  | .text tag content => tag.writeStart ++ content ++ tag.writeEnd
  | .around tag child => tag.writeStart ++ child.write ++ tag.writeEnd
  | .group tag children => tag.writeStart ++ '\n' :: (Node.writeLines children ++ tag.writeEnd)

/-- Nodes as they are written, each on lines of its own. -/
def Node.writeLines : List Node → List Char
  | [] => []
  | child :: rest => child.write ++ '\n' :: Node.writeLines rest
end

/-- An element with any text in it. -/
def Node.label (tag : Tag) (content : List Char) : Node := .text tag (Entity.escape content)

theorem Attribute.escaped_clean (name : String) (value : List Char) :
    (Attribute.escaped name value).Clean :=
  ⟨Entity.not_mem_escape value (by simp), Entity.not_mem_escape value (by simp)⟩

theorem Node.writeLines_append (a b : List Node) :
    Node.writeLines (a ++ b) = Node.writeLines a ++ Node.writeLines b := by
  induction a with
  | nil => simp [Node.writeLines]
  | cons n a ih => simp [Node.writeLines, ih]

end RackElevation.Svg
