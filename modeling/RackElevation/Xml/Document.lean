import RackElevation.Xml.Content
import RackElevation.Xml.Doctype
import RackElevation.Xml.Growth
import RackElevation.Xml.Namespace

/-
  Documents

  A text is read as a document: what stands before the root element, the root
  with everything in it, and what may follow. Entities are replaced by what they
  stand for, which has to be balanced by itself.

  A text whose first bytes hold a NUL is taken for text of two bytes a
  character; any other text is taken as it is, without a byte order mark.
-/

namespace RackElevation.Xml

/-- An element that is open, its content last node first. -/
structure Frame where
  rawName : List Char
  name : Name
  attributes : List Attribute
  scope : Bindings
  nodes : List Node := []
  text : List Char := []

/-- The element with its text so far as a node. -/
def Frame.flush (f : Frame) : Frame :=
  if f.text.isEmpty then f else { f with nodes := .text f.text.reverse :: f.nodes, text := [] }

/-- The element after one more child. -/
def Frame.add (f : Frame) (n : Node) : Frame := { f.flush with nodes := n :: f.flush.nodes }

/-- The node of an element that is closed. -/
def Frame.close (f : Frame) : Node := .element f.name f.attributes f.flush.nodes.reverse

/-- How far content has been read. -/
inductive Progress
  /-- The elements that are open, the innermost first. -/
  | inside (frames : List Frame)
  /-- The root is closed, and the text goes on. -/
  | closed (root : Node) (on : List Char)

/-- Adds text to the innermost element. -/
def addText (s : List Char) : List Frame → List Frame
  | f :: outer => { f with text := s.reverse ++ f.text } :: outer
  | [] => []

/-- Adds a node to the innermost element; without one it is the root. -/
def addNode (n : Node) (on : List Char) : List Frame → Progress
  | f :: outer => .inside (f.add n :: outer)
  | [] => .closed n on

/-- Where content stands. -/
inductive Level
  /-- In the document. -/
  | document
  /-- In an entity that was entered with this many elements open, and is referred to at a place. -/
  | entity (depth : Nat) (place : Nat)

/-- The place of a token. -/
def Level.place (level : Level) (on : List Char) : Nat :=
  match level with
  | .document => on.length
  | .entity _ place => place

/-- Whether content stands in an entity. -/
def Level.isEntity : Level → Bool
  | .document => false
  | .entity .. => true

/-- The bindings inside the innermost element. -/
def innerScope : List Frame → Bindings
  | f :: _ => f.scope
  | [] => initialBindings

/-- The end of content. -/
def finish (level : Level) (place : Nat) (frames : List Frame) : Except Failure Progress :=
  match level with
  | .document => .error ⟨.noElement, place⟩
  | .entity depth place =>
    if frames.length = depth then .ok (.inside frames) else .error ⟨.unbalancedEntity, place⟩

/-- Opens the element of a tag. -/
def openElement (d : Doctype) (opened : List (List Char)) (level : Level) (on : List Char)
    (tag : RawTag) (after : List Char) (frames : List Frame) : Except Failure Progress := do
  let (scope, name, attributes) ←
    resolveTag d (innerScope frames) opened (level.place on) level.isEntity tag
  let frame : Frame := { rawName := tag.name, name, attributes, scope }
  if tag.isEmpty then return addNode frame.close after frames
  return .inside (frame :: frames)

/-- Closes the innermost element. -/
def closeElement (level : Level) (on name after : List Char) (frames : List Frame) :
    Except Failure Progress :=
  let isOutermost := match level with
    | .document => false
    | .entity depth _ => frames.length == depth
  match frames with
  | f :: outer =>
    if isOutermost then .error ⟨.unbalancedEntity, level.place on⟩
    else if f.rawName = name then .ok (addNode f.close after outer)
    else .error ⟨.mismatchedTag, level.place (on.drop 2)⟩
  | [] => .error ⟨.unbalancedEntity, level.place on⟩

/-- What a token changes; `enter` reads the content of an entity. -/
def readToken (d : Doctype) (opened : List (List Char)) (level : Level)
    (enter : List Char → List Char → Nat → List Frame → Except Failure Progress)
    (t : Token) (after : List Char) (frames : List Frame) : Except Failure Progress :=
  let fail (fault : Fault) : Except Failure Progress := .error ⟨fault, level.place t.on⟩
  match t.content with
  | .char c => .ok (.inside (addText [c] frames))
  | .finalBreak =>
    match level with
    | .document => fail .noElement
    | .entity .. => .ok (.inside (addText ['\n'] frames))
  | .cdata text => .ok (.inside (addText text frames))
  | .ignored => .ok (.inside frames)
  | .declaration => fail .misplacedDeclaration
  | .broken fault on => .error ⟨fault, level.place on⟩
  | .reference (.character none) => fail .invalidCharacterNumber
  | .reference (.character (some c)) => .ok (.inside (addText [c] frames))
  | .reference (.entity name) =>
    match namedCharacter? name, d.entity? name with
    | some c, _ => .ok (.inside (addText [c] frames))
    | none, none => fail (if d.isClosed then .undefinedEntity else .unknownEntity name)
    | none, some entity =>
      if opened.contains name then fail .recursiveEntity
      else match entity with
        | .unparsed => fail .unparsedEntity
        | .external => fail (.unknownEntity name)
        | .internal text => enter name text (level.place t.on) frames
  | .openTag tag => openElement d opened level t.on tag after frames
  | .closeTag name => closeElement level t.on name after frames

/-- Reads content token by token. -/
def readTokens (d : Doctype) (opened : List (List Char)) (level : Level)
    (enter : List Char → List Char → Nat → List Frame → Except Failure Progress) :
    List Token → List Frame → Except Failure Progress
  | [], frames => finish level (level.place []) frames
  | t :: rest, frames =>
    let after := (rest.head?.map Token.on).getD []
    match readToken d opened level enter t after frames with
    | .error f => .error f
    | .ok (.closed root on) => .ok (.closed root on)
    | .ok (.inside frames) => readTokens d opened level enter rest frames

/-- Reads the content of an entity; `depth` is a bound on the entities that may still be entered. -/
def enterEntity (d : Doctype) (depth : Nat) (opened : List (List Char)) (name text : List Char)
    (place : Nat) (frames : List Frame) : Except Failure Progress :=
  match depth with
  | 0 => .error ⟨.recursiveEntity, place⟩
  | depth + 1 =>
    readTokens d (name :: opened) (.entity frames.length place)
      (enterEntity d depth (name :: opened)) (tokens text) frames

/-- Reads what follows the root. -/
def readEpilog : List Placed → Except Failure Unit
  | [] => .ok ()
  | p :: rest =>
    match p.mark with
    | .space | .ignored => readEpilog rest
    | .broken fault on => .error ⟨fault, on.length⟩
    | _ => .error ⟨.junkAfterRoot, p.on.length⟩

/-- Reads a document without a byte order mark. -/
def readDocument (s : List Char) : Except Failure Node := do
  let (d, on) ← readProlog {} .start (marks s)
  let enter := enterEntity d d.entities.length []
  match ← readTokens d [] .document enter (limitGrowth d (byteCount s) (tokens on)) [] with
  | .inside _ => .error ⟨.noElement, 0⟩
  | .closed root after =>
    readEpilog (marks after)
    return root

/-- The character of two bytes; one that stands for no character becomes one that no document may
hold. -/
def pairChar (high low : UInt8) : Char :=
  let n := high.toNat * 0x100 + low.toNat
  if n.isValidChar then Char.ofNat n else '\uffff'

/-- The characters of bytes taken two by two; a byte left over is dropped. -/
def pairs (bigEndian : Bool) : List UInt8 → List Char
  | a :: b :: rest => (if bigEndian then pairChar a b else pairChar b a) :: pairs bigEndian rest
  | _ => []

/-- A text as it is read. -/
structure Source where
  /-- The characters that positions count. -/
  counted : List Char
  /-- The document. -/
  text : List Char
  /-- Whether the last character is only half there. -/
  isCut : Bool

/-- Whether a text starts as if each of its characters had two bytes. -/
def startsWithPair (s : List Char) : Bool :=
  match s with
  | c :: d :: _ => c.toNat = 0 || (c.toNat < 0x80 && d.toNat = 0)
  | [c] => c.toNat = 0
  | [] => false

/-- How a text is read. -/
def sourceOf (s : List Char) : Source :=
  if startsWithPair s then
    let bytes := Utf8.encode s
    let text := pairs (s.head? == some '\x00') bytes
    ⟨text, text, bytes.length % 2 == 1⟩
  else match s with
    | '\ufeff' :: r => ⟨s, r, false⟩
    | s => ⟨s, s, false⟩

/-- Why a text is no document, and where. -/
structure Malformed where
  fault : Fault
  position : Position
  deriving DecidableEq, Repr

/-- What is said of a text that is no document. -/
def Malformed.message (m : Malformed) : String :=
  m.fault.phrase ++ ": line " ++ toString m.position.line ++ ", column " ++ toString m.position.column

/-- Reads a source; a character that is only half there is a token without an end. -/
def readSource (s : Source) : Except Failure Node :=
  match readDocument s.text, s.isCut with
  | .error ⟨.noElement, 0⟩, true => .error ⟨.unclosedToken, 0⟩
  | .ok _, true => .error ⟨.unclosedToken, 0⟩
  | result, _ => result

/-- The root element of a document. -/
def parse (s : List Char) : Except Malformed Node :=
  let source := sourceOf s
  (readSource source).mapError fun f => ⟨f.fault, positionBefore source.counted f.left⟩

end RackElevation.Xml
