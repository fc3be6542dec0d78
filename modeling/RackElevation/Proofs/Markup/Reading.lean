import RackElevation.Proofs.Markup.Pieces
import RackElevation.Proofs.Markup.Tags

/-
  Reading a document

  The pieces of a document are read one after the other with a stack of the
  elements that are open. A tag that closes has to close the innermost of them,
  and at the end one element is left, the root. What is read is a tree of
  elements and texts in which every entity is replaced.

  A node that is legible (its tags are, and its texts were escaped) is read back
  as `Node.tree`, wherever it stands in a document.

  What is proved:
    1. `pieces_write` — the pieces of a written node are its own, whatever
       follows it.
    2. `readPieces_node` — reading them adds the tree of the node to the
       innermost open element and leaves the others alone.
    3. `read_write` — so a legible element is read back as a document.
-/

namespace RackElevation.Markup

open Svg

/-- A document as it is read. -/
inductive Tree
  | text (content : List Char)
  | element (name : String) (attributes : List Pair) (children : List Tree)
  deriving Repr

/-- An element that is open, with what it holds so far, the last child first. -/
structure Frame where
  name : String
  attributes : List Pair := []
  children : List Tree := []

/-- The element with one more child. -/
def Frame.push (f : Frame) (t : Tree) : Frame := { f with children := t :: f.children }

/-- The element when it is closed. -/
def Frame.tree (f : Frame) : Tree := .element f.name f.attributes f.children.reverse

/-- The open elements, the innermost first, after one more piece. -/
def readPiece : List Frame → Piece → Option (List Frame)
  | f :: outer, .text content => (Entity.unescape content).map fun s => f.push (.text s) :: outer
  | f :: outer, .tag body =>
    match mark? body, outer with
    | some (.opens name attributes), _ => some ({ name, attributes } :: f :: outer)
    | some (.stands name attributes), _ => some (f.push (.element name attributes []) :: outer)
    | some (.closes name), g :: rest => if name = f.name then some (g.push f.tree :: rest) else none
    | _, _ => none
  | [], _ => none

/-- The open elements after some pieces. -/
def readPieces (frames : List Frame) (ps : List Piece) : Option (List Frame) :=
  ps.foldlM readPiece frames

/-- What stands around the root. -/
def outside : Frame := { name := "" }

/-- The root of a document, if there is nothing else. -/
def root? : List Frame → Option Tree
  | [{ children := [.element name attributes children], .. }] => some (.element name attributes children)
  | _ => none

/-- The root element of a document. -/
def read (s : List Char) : Option Tree := do
  root? (← readPieces [outside] (← pieces s))

/-! ## The tree of a node -/

/-- A text as a child, if there is some. -/
def textTree (s : List Char) : List Tree := if s.isEmpty then [] else [.text s]

/-- Children on lines of their own. -/
def onLines (children : List Tree) : List Tree :=
  .text ['\n'] :: children.flatMap fun t => [t, .text ['\n']]

/-- The element of a tag. -/
def element (t : Tag) (children : List Tree) : Tree :=
  .element t.name (t.attributes.map pair) children

mutual
/-- What is read of a node. -/
def tree : Node → Tree
  | .leaf tag => element tag []
  | .text tag content => element tag (if content.isEmpty then [] else [.text (meaning content)])
  | .around tag child => element tag [tree child]
  | .group tag children => element tag (onLines (trees children))

/-- What is read of nodes. -/
def trees : List Node → List Tree
  | [] => []
  | n :: rest => tree n :: trees rest
end

mutual
/-- A node can be read back. -/
def Clear : Node → Prop
  | .leaf tag => Legible tag
  | .text tag content => Legible tag ∧ Escaped content
  | .around tag child => Legible tag ∧ Clear child
  | .group tag children => Legible tag ∧ ClearAll children

/-- Nodes can be read back. -/
def ClearAll : List Node → Prop
  | [] => True
  | n :: rest => Clear n ∧ ClearAll rest
end

/-! ## The pieces of a node -/

mutual
/-- The pieces of a node. -/
def nodePieces : Node → List Piece
  | .leaf tag => [.tag (tag.writeInner ++ ['/'])]
  | .text tag content =>
    .tag tag.writeInner :: (textPiece content ++ [.tag ('/' :: tag.name.toList)])
  | .around tag child => .tag tag.writeInner :: (nodePieces child ++ [.tag ('/' :: tag.name.toList)])
  | .group tag children =>
    .tag tag.writeInner :: .text ['\n'] :: (linePieces children ++ [.tag ('/' :: tag.name.toList)])

/-- The pieces of nodes on lines of their own. -/
def linePieces : List Node → List Piece
  | [] => []
  | n :: rest => nodePieces n ++ .text ['\n'] :: linePieces rest
end

theorem bracketless_of_isName {s : List Char} (h : isName s = true) : Bracketless s :=
  ⟨not_mem_of_isName h (by decide), not_mem_of_isName h (by decide)⟩

theorem Legible.bracketless {t : Tag} (h : Legible t) : Bracketless t.writeInner := by
  have hattribute : ∀ a ∈ t.attributes, Bracketless a.write := by
    intro a ha
    have hkey := bracketless_of_isName (h.attributes a ha).name
    have hvalue := (h.attributes a ha).value.bracketless
    simp only [Bracketless] at hkey
    constructor <;> simp [Svg.Attribute.write, hkey, hvalue]
  have hname := bracketless_of_isName h.name
  constructor
  · simp only [Tag.writeInner, List.mem_append, List.mem_flatMap, not_or, not_exists, not_and]
    exact ⟨hname.1, fun a ha => (hattribute a ha).1⟩
  · simp only [Tag.writeInner, List.mem_append, List.mem_flatMap, not_or, not_exists, not_and]
    exact ⟨hname.2, fun a ha => (hattribute a ha).2⟩

theorem Legible.pieces_start {t : Tag} (h : Legible t) (r : List Char) :
    pieces (t.writeStart ++ r) = (pieces r).map (.tag t.writeInner :: ·) := by
  rw [← pieces_tag h.bracketless]
  simp [Tag.writeStart]

theorem Legible.pieces_end {t : Tag} (h : Legible t) (r : List Char) :
    pieces (t.writeEnd ++ r) = (pieces r).map (.tag ('/' :: t.name.toList) :: ·) := by
  have hname := bracketless_of_isName h.name
  have hbody : Bracketless ('/' :: t.name.toList) := by
    simp only [Bracketless] at hname
    constructor <;> simp [hname]
  rw [← pieces_tag hbody]
  simp [Tag.writeEnd]

theorem Legible.pieces_empty {t : Tag} (h : Legible t) (r : List Char) :
    pieces (t.writeEmpty ++ r) = (pieces r).map (.tag (t.writeInner ++ ['/']) :: ·) := by
  have hbody : Bracketless (t.writeInner ++ ['/']) :=
    h.bracketless.append (by simp [Bracketless])
  rw [← pieces_tag hbody]
  simp [Tag.writeEmpty]

/-- A line break before a tag is a piece. -/
theorem pieces_break (r : List Char) :
    pieces ('\n' :: '<' :: r) = (pieces ('<' :: r)).map (.text ['\n'] :: ·) :=
  pieces_text (show Bracketless ['\n'] by simp [Bracketless]) r

theorem write_head (n : Node) : ∃ r, n.write = '<' :: r := by
  cases n <;> exact ⟨_, rfl⟩

/-- Lines of nodes before an end tag start with an angle bracket. -/
theorem writeLines_head (l : List Node) (t : Tag) (r : List Char) :
    ∃ q, Node.writeLines l ++ (t.writeEnd ++ r) = '<' :: q := by
  cases l with
  | nil => exact ⟨_, rfl⟩
  | cons n l =>
    obtain ⟨q, hq⟩ := write_head n
    exact ⟨q ++ '\n' :: Node.writeLines l ++ (t.writeEnd ++ r), by simp [Node.writeLines, hq]⟩

/-- The line break before a line or an end tag is a piece. -/
theorem pieces_breakLines (l : List Node) (t : Tag) (r : List Char) :
    pieces ('\n' :: (Node.writeLines l ++ (t.writeEnd ++ r))) =
      (pieces (Node.writeLines l ++ (t.writeEnd ++ r))).map (.text ['\n'] :: ·) := by
  obtain ⟨q, hq⟩ := writeLines_head l t r
  rw [hq, pieces_break]

mutual
theorem pieces_write (n : Node) (h : Clear n) (r : List Char) :
    pieces (n.write ++ r) = (pieces r).map (nodePieces n ++ ·) := by
  match n, h with
  | .leaf tag, h =>
    rw [Node.write, Legible.pieces_empty h]
    rfl
  | .text tag content, ⟨ht, hc⟩ =>
    have hb : Bracketless content := ⟨hc.bracketless.1, hc.bracketless.2.1⟩
    -- text is cut off only before a bracket, so the end tag has to show its own
    have hend : tag.writeEnd ++ r = '<' :: ('/' :: (tag.name.toList ++ ['>']) ++ r) := rfl
    rw [Node.write, List.append_assoc, List.append_assoc, ht.pieces_start, hend, pieces_text hb,
      ← hend, ht.pieces_end]
    simp only [Option.map_map, nodePieces]
    congr 1
    funext ps
    simp
  | .around tag child, ⟨ht, hc⟩ =>
    rw [Node.write, List.append_assoc, List.append_assoc, ht.pieces_start,
      pieces_write child hc, ht.pieces_end]
    simp only [Option.map_map, nodePieces]
    congr 1
    funext ps
    simp
  | .group tag children, ⟨ht, hc⟩ =>
    have hlines := pieces_writeLines children hc tag ht r
    rw [Node.write, List.append_assoc, ht.pieces_start, List.cons_append, List.append_assoc,
      pieces_breakLines, hlines]
    simp only [Option.map_map, nodePieces]
    congr 1
    funext ps
    simp

theorem pieces_writeLines (l : List Node) (h : ClearAll l) (t : Tag) (ht : Legible t)
    (r : List Char) :
    pieces (Node.writeLines l ++ (t.writeEnd ++ r)) =
      (pieces r).map (linePieces l ++ .tag ('/' :: t.name.toList) :: ·) := by
  match l, h with
  | [], _ =>
    rw [Node.writeLines, List.nil_append, ht.pieces_end]
    rfl
  | n :: l, ⟨hn, hl⟩ =>
    have hrest := pieces_writeLines l hl t ht r
    rw [Node.writeLines, List.append_assoc, pieces_write n hn, List.cons_append, pieces_breakLines,
      hrest]
    simp only [Option.map_map, linePieces]
    congr 1
    funext ps
    simp
end

/-! ## Reading the pieces of a node -/

theorem readPieces_append (frames : List Frame) (ps qs : List Piece) :
    readPieces frames (ps ++ qs) = (readPieces frames ps).bind (readPieces · qs) :=
  List.foldlM_append

theorem readPieces_cons (frames : List Frame) (p : Piece) (ps : List Piece) :
    readPieces frames (p :: ps) = (readPiece frames p).bind (readPieces · ps) :=
  List.foldlM_cons

theorem readPiece_start {t : Tag} (h : Legible t) (f : Frame) (outer : List Frame) :
    readPiece (f :: outer) (.tag t.writeInner) =
      some ({ name := t.name, attributes := t.attributes.map pair } :: f :: outer) := by
  simp [readPiece, mark?_writeInner h]

theorem readPiece_empty {t : Tag} (h : Legible t) (f : Frame) (outer : List Frame) :
    readPiece (f :: outer) (.tag (t.writeInner ++ ['/'])) =
      some (f.push (element t []) :: outer) := by
  simp [readPiece, mark?_empty h, element]

theorem readPiece_end {t : Tag} (h : Legible t) (attributes : List Pair) (children : List Tree)
    (g : Frame) (outer : List Frame) :
    readPiece (⟨t.name, attributes, children⟩ :: g :: outer) (.tag ('/' :: t.name.toList)) =
      some (g.push (.element t.name attributes children.reverse) :: outer) := by
  simp [readPiece, mark?_end h, Frame.tree]

theorem readPiece_break (f : Frame) (outer : List Frame) :
    readPiece (f :: outer) (.text ['\n']) = some (f.push (.text ['\n']) :: outer) := rfl

mutual
theorem readPieces_node (n : Node) (h : Clear n) (f : Frame) (outer : List Frame) :
    readPieces (f :: outer) (nodePieces n) = some (f.push (tree n) :: outer) := by
  match n, h with
  | .leaf tag, h =>
    rw [nodePieces, readPieces_cons, readPiece_empty h]
    rfl
  | .text tag content, ⟨ht, hc⟩ =>
    rw [nodePieces, readPieces_cons, readPiece_start ht, Option.bind_some]
    -- an empty text leaves no piece
    cases content with
    | nil =>
      rw [textPiece, if_pos (by rfl), List.nil_append, readPieces_cons, readPiece_end ht]
      rfl
    | cons c r =>
      rw [textPiece, if_neg (by simp), List.singleton_append, readPieces_cons, readPiece,
        unescape_of_escaped hc, Option.map_some, Option.bind_some, readPieces_cons, Frame.push,
        readPiece_end ht]
      rfl
  | .around tag child, ⟨ht, hc⟩ =>
    rw [nodePieces, readPieces_cons, readPiece_start ht, Option.bind_some, readPieces_append,
      readPieces_node child hc, Option.bind_some, readPieces_cons, Frame.push, readPiece_end ht]
    rfl
  | .group tag children, ⟨ht, hc⟩ =>
    rw [nodePieces, readPieces_cons, readPiece_start ht, Option.bind_some, readPieces_cons,
      readPiece_break, Option.bind_some, readPieces_append, Frame.push, readPieces_lines children hc,
      Option.bind_some, readPieces_cons, readPiece_end ht]
    simp [tree, element, onLines, readPieces]

theorem readPieces_lines (l : List Node) (h : ClearAll l) (name : String) (attributes : List Pair)
    (children : List Tree) (outer : List Frame) :
    readPieces (⟨name, attributes, children⟩ :: outer) (linePieces l) =
      some (⟨name, attributes,
        ((trees l).flatMap fun t => [t, .text ['\n']]).reverse ++ children⟩ :: outer) := by
  match l, h with
  | [], _ => rfl
  | n :: l, ⟨hn, hl⟩ =>
    rw [linePieces, readPieces_append, readPieces_node n hn, Option.bind_some, readPieces_cons,
      readPiece_break, Option.bind_some, Frame.push, Frame.push, readPieces_lines l hl]
    simp [trees]
end

/-! ## The whole document -/

theorem pieces_of_clear {n : Node} (h : Clear n) : pieces n.write = some (nodePieces n) := by
  have := pieces_write n h []
  rwa [List.append_nil, pieces_nil, Option.map_some, List.append_nil] at this

theorem read_write {n : Node} (h : Clear n) : read n.write = some (tree n) := by
  have hroot : root? [outside.push (tree n)] = some (tree n) := by
    cases n <;> simp [tree, element, outside, Frame.push, root?]
  simp only [read, pieces_of_clear h, Option.bind_eq_bind, Option.bind_some,
    readPieces_node n h, hroot]

end RackElevation.Markup
