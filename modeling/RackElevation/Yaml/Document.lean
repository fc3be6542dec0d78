import RackElevation.Yaml.Node
import RackElevation.Yaml.Token

/-
  YAML documents

  The tree of the one document in a stream of tokens. A node may be named by an
  anchor, once, and an alias stands for the node that was named, which may be one
  around the alias. Reading a node takes a level of the stack for each node around
  it, and the stack allows only so many levels.
-/

namespace RackElevation.Yaml

/-- A document being read: the tokens to come, the handles of tags, and the nodes with a name. -/
structure Document where
  tokens : List Token
  error : Option Error
  handles : List (List Char × List Char) := []
  anchors : List (String × Node) := []

/-- A reading of a part of a document. -/
abbrev Part := StateT Document (Except Error)

namespace Document

/-- The next token. -/
def peek : Part Token := do
  let d ← get
  match d.tokens, d.error with
  | t :: _, _ => return t
  | [], some e => throw e
  | [], none => return ⟨.streamEnd, {}, {}⟩

/-- Goes on behind the next token. -/
def advance : Part Unit := modify fun d => { d with tokens := d.tokens.drop 1 }

/-- Fails at a mark while doing something that began at `start`. -/
def fail {α : Type} (activity : Activity) (start : Mark) (problem : Problem) (mark : Mark) : Part α :=
  throw (.fault ⟨some ⟨activity, some start⟩, problem, mark⟩)

/-- Fails at a mark. -/
def failAt {α : Type} (problem : Problem) (mark : Mark) : Part α :=
  throw (.fault ⟨none, problem, mark⟩)

/-- The node that stands where nothing is written. -/
def emptyNode (mark : Mark) : Node := .scalar (plainTag []) [] mark

/-- The handles that need no directive. -/
def defaultHandles : List (List Char × List Char) :=
  [(['!'], ['!']), (['!', '!'], Node.tagRoot.toList)]

/-- The properties in front of a node. -/
structure Properties where
  start : Option Mark := none
  anchor : Option String := none
  tag : Option (Tag × Mark) := none

/-- An anchor and a tag, in either order. -/
def properties : Part Properties := do
  let t ← peek
  match t.lexeme with
  | .anchor name =>
    advance
    let u ← peek
    match u.lexeme with
    | .tag tag => advance; return ⟨some t.start, some name, some (tag, u.start)⟩
    | _ => return ⟨some t.start, some name, none⟩
  | .tag tag =>
    advance
    let u ← peek
    match u.lexeme with
    | .anchor name => advance; return ⟨some t.start, some name, some (tag, t.start)⟩
    | _ => return ⟨some t.start, none, some (tag, t.start)⟩
  | _ => return {}

/-- The tag as a whole, its handle put in full; none for the tag that leaves the choice open. -/
def fullTag (start : Mark) (tag : Tag) (mark : Mark) : Part (Option String) := do
  let text ← match tag.handle with
    | none => pure tag.address
    | some handle =>
      match (← get).handles.lookup handle with
      | some address => pure (address ++ tag.address)
      | none => fail .node start (.unknownHandle (String.ofList handle)) mark
  return if text = ['!'] then none else some (String.ofList text)

/-- Refuses a name that is in use. -/
def checkAnchor (anchor : Option String) (start : Mark) : Part Unit := do
  match anchor with
  | none => return
  | some name =>
    match (← get).anchors.lookup name with
    | none => return
    | some first => fail (.firstAnchor name) first.start .secondAnchor start

/-- Gives a node its name. -/
def name (anchor : Option String) (node : Node) : Part Unit := do
  match anchor with
  | none => return
  | some name => modify fun d => { d with anchors := (name, node) :: d.anchors }

/-- Whether a token ends an entry of a block mapping. -/
def endsEntry : Lexeme → Bool
  | .key => true
  | .value => true
  | .blockEnd => true
  | _ => false

/-- The node after an indicator, unless one of the given tokens follows. -/
def nodeOr (stop : Lexeme → Bool) (mark : Mark) (node : Part Node) : Part Node := do
  if stop (← peek).lexeme then return emptyNode mark else node

/-- The value of an entry after its key; nothing if there is no colon. -/
def entryValue (stop : Lexeme → Bool) (node : Part Node) : Part Node := do
  let t ← peek
  match t.lexeme with
  | .value => advance; nodeOr stop t.stop node
  | _ => return emptyNode t.start

/-- The items of a block sequence that began at `start`. -/
def blockItems (node : Part Node) (start : Mark) : Nat → Part (List Node)
  | 0 => return []
  | n + 1 => do
    let t ← peek
    match t.lexeme with
    | .blockEntry =>
      advance
      let item ← nodeOr (fun l => l == .blockEntry || l == .blockEnd) t.stop node
      return item :: (← blockItems node start n)
    | .blockEnd => advance; return []
    | l => fail .blockCollection start (.noBlockEnd l.name) t.start

/-- The items of a sequence that is indented no further than the mapping around it. -/
def flatItems (node : Part Node) : Nat → Part (List Node)
  | 0 => return []
  | n + 1 => do
    let t ← peek
    match t.lexeme with
    | .blockEntry =>
      advance
      let item ← nodeOr (fun l => l == .blockEntry || endsEntry l) t.stop node
      return item :: (← flatItems node n)
    | _ => return []

/-- The entries of a block mapping that began at `start`. -/
def blockEntries (node : Part Node) (start : Mark) : Nat → Part (List (Node × Node))
  | 0 => return []
  | n + 1 => do
    let t ← peek
    match t.lexeme with
    | .key =>
      advance
      let key ← nodeOr endsEntry t.stop node
      let value ← entryValue endsEntry node
      return (key, value) :: (← blockEntries node start n)
    | .blockEnd => advance; return []
    | l => fail .blockMapping start (.noBlockEnd l.name) t.start

/-- Whether a token ends an item of a flow collection. -/
def endsItem (close : Lexeme) (l : Lexeme) : Bool := l == .flowEntry || l == close

/-- The items of a flow sequence that began at `start`; an item may be a single entry. -/
def flowItems (node : Part Node) (start : Mark) (first : Bool) : Nat → Part (List Node)
  | 0 => return []
  | n + 1 => do
    let t ← peek
    if t.lexeme == .flowSequenceEnd then
      advance
      return []
    if !first then
      if t.lexeme == .flowEntry then advance
      else fail .flowSequence start (.noSequenceEnd t.lexeme.name) t.start
    let t ← peek
    match t.lexeme with
    | .flowSequenceEnd => advance; return []
    | .key =>
      advance
      let stop := endsItem .flowSequenceEnd
      let key ← nodeOr (fun l => l == .value || stop l) t.stop node
      let value ← entryValue stop node
      let item := Node.mapping (Node.coreTag "map") [(key, value)] t.start
      return item :: (← flowItems node start false n)
    | _ =>
      let item ← node
      return item :: (← flowItems node start false n)

/-- The entries of a flow mapping that began at `start`. -/
def flowEntries (node : Part Node) (start : Mark) (first : Bool) : Nat → Part (List (Node × Node))
  | 0 => return []
  | n + 1 => do
    let t ← peek
    if t.lexeme == .flowMappingEnd then
      advance
      return []
    if !first then
      if t.lexeme == .flowEntry then advance
      else fail .flowMapping start (.noMappingEnd t.lexeme.name) t.start
    let t ← peek
    match t.lexeme with
    | .flowMappingEnd => advance; return []
    | .key =>
      advance
      let stop := endsItem .flowMappingEnd
      let key ← nodeOr (fun l => l == .value || stop l) t.stop node
      let value ← entryValue stop node
      return (key, value) :: (← flowEntries node start false n)
    | _ =>
      let key ← node
      return (key, emptyNode (← peek).start) :: (← flowEntries node start false n)

/-- A sequence whose items are still to be read. -/
def sequence (p : Properties) (tag : Option String) (start : Mark) (items : Part (List Node)) :
    Part Node := do
  checkAnchor p.anchor start
  let tag := tag.getD (Node.coreTag "seq")
  name p.anchor (.around true tag start)
  let node := Node.sequence tag (← items) start
  name p.anchor node
  return node

/-- A mapping whose entries are still to be read. -/
def mapping (p : Properties) (tag : Option String) (start : Mark)
    (entries : Part (List (Node × Node))) : Part Node := do
  checkAnchor p.anchor start
  let tag := tag.getD (Node.coreTag "map")
  name p.anchor (.around false tag start)
  let node := Node.mapping tag (← entries) start
  name p.anchor node
  return node

/-- A scalar; without a tag it is text unless its text may tell what it is. -/
def scalar (p : Properties) (tag : Option String) (start : Mark) (text : List CodePoint)
    (implicit : Bool) : Part Node := do
  checkAnchor p.anchor start
  let node := Node.scalar
    (tag.getD (if implicit then plainTag text else Node.coreTag "str")) text start
  name p.anchor node
  return node

/-- A node, for which `n` levels are left on the stack. `block` allows block collections, `flat` a
sequence that is indented no further than the mapping around it. -/
def node : Nat → Bool → Bool → Part Node
  | 0, _, _ => throw .tooDeep
  | n + 1, block, flat => do
    let t ← peek
    match t.lexeme with
    | .alias name =>
      advance
      match (← get).anchors.lookup name with
      | some node => return node
      | none => failAt (.unknownAlias name) t.start
    | _ =>
      let p ← properties
      let start := p.start.getD t.start
      let tag ← match p.tag with
        | some (tag, mark) => fullTag start tag mark
        | none => pure none
      let t ← peek
      let limit := (← get).tokens.length + 1
      match t.lexeme with
      | .scalar text plain =>
        advance
        scalar p tag start text (plain || p.tag.isSome)
      | .flowSequenceStart =>
        advance
        sequence p tag start (flowItems (node n false false) t.start true limit)
      | .flowMappingStart =>
        advance
        mapping p tag start (flowEntries (node n false false) t.start true limit)
      | l =>
        if l == .blockEntry && flat then
          sequence p tag start (flatItems (node n true false) limit)
        else if l == .blockSequenceStart && block then
          advance
          sequence p tag start (blockItems (node n true false) t.start limit)
        else if l == .blockMappingStart && block then
          advance
          mapping p tag start (blockEntries (node n true true) t.start limit)
        else if p.start.isSome then
          scalar p tag start [] true
        else fail (if block then .blockNode else .flowNode) start (.noContent l.name) t.start

/-- The directives of a document: whether there was a version, and the handles. -/
def directives (version : Bool) (handles : List (List Char × List Char)) :
    Nat → Part (List (List Char × List Char))
  | 0 => return handles
  | n + 1 => do
    let t ← peek
    match t.lexeme with
    | .directive d =>
      advance
      match d with
      | .version major _ =>
        if version then failAt .secondVersion t.start
        if major != 1 then failAt .otherVersion t.start
        directives true handles n
      | .handle handle address =>
        if (handles.lookup handle).isSome then
          failAt (.repeatedHandle (String.ofList handle)) t.start
        directives version ((handle, address) :: handles) n
      | .other => directives version handles n
    | _ => return handles

/-- Skips the ends of documents. -/
def skipEnds : Nat → Part Unit
  | 0 => return
  | n + 1 => do
    if (← peek).lexeme == .documentEnd then
      advance
      skipEnds n

/-- The start of the next document that is marked as one, if there is one. -/
def explicitStart : Part (Option Mark) := do
  let limit := (← get).tokens.length + 1
  skipEnds limit
  let t ← peek
  if t.lexeme == .streamEnd then return none
  let handles ← directives false [] limit
  let u ← peek
  if u.lexeme != .documentStart then failAt (.noDocumentStart u.lexeme.name) u.start
  advance
  modify fun d => { d with handles := handles ++ defaultHandles }
  return some t.start

/-- Whether a token ends a document without content. -/
def endsDocument : Lexeme → Bool
  | .directive _ => true
  | .documentStart => true
  | .documentEnd => true
  | .streamEnd => true
  | _ => false

/-- The first document, if there is one. -/
def first (levels : Nat) : Part (Option Node) := do
  advance
  let t ← peek
  match t.lexeme with
  | .streamEnd => return none
  | .directive _ | .documentStart =>
    discard explicitStart
    return some (← nodeOr endsDocument (← peek).start (node levels true false))
  | _ =>
    modify fun d => { d with handles := defaultHandles }
    return some (← node levels true false)

/-- The one document of the stream, if there is one. -/
def single (levels : Nat) : Part (Option Node) := do
  match ← first levels with
  | none => return none
  | some node =>
    match ← explicitStart with
    | none => return some node
    | some mark => fail .singleDocument node.start .secondDocument mark

/-- The one document of a text, if it has one, where the stack allows so many levels of nodes. -/
def ofText (levels : Nat) (text : List Char) : Except Error (Option Node) :=
  let s := TokenStream.ofText text
  ((single levels).run { tokens := s.tokens, error := s.error }).map Prod.fst

end Document

end RackElevation.Yaml
