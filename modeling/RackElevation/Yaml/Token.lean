import RackElevation.Yaml.Lexeme
import RackElevation.Yaml.Scalar

/-
  Tokens of YAML

  A text becomes a stream of tokens in which indentation and simple keys are
  explicit. Whether a scalar is a simple key shows only at the colon behind it,
  so tokens that may have to be preceded by a key mark are held back until that
  is settled. A stream that breaks off says why; what was held back then is not
  part of it.

  What is proved:
    1. `Reader.release_append` — releasing tokens loses none.
-/

namespace RackElevation.Yaml

open Scan

/-- A kind of token, with what it carries. -/
inductive Lexeme
  | streamStart
  | streamEnd
  | directive (d : Directive)
  | documentStart
  | documentEnd
  | blockSequenceStart
  | blockMappingStart
  | blockEnd
  | flowSequenceStart
  | flowSequenceEnd
  | flowMappingStart
  | flowMappingEnd
  | key
  | value
  | blockEntry
  | flowEntry
  | alias (name : String)
  | anchor (name : String)
  | tag (t : Tag)
  | scalar (text : List CodePoint) (plain : Bool)
  deriving DecidableEq, Repr

/-- How a kind of token is named. -/
def Lexeme.name : Lexeme → String
  | .streamStart => "<stream start>"
  | .streamEnd => "<stream end>"
  | .directive _ => "<directive>"
  | .documentStart => "<document start>"
  | .documentEnd => "<document end>"
  | .blockSequenceStart => "<block sequence start>"
  | .blockMappingStart => "<block mapping start>"
  | .blockEnd => "<block end>"
  | .flowSequenceStart => "["
  | .flowSequenceEnd => "]"
  | .flowMappingStart => "\x7b"
  | .flowMappingEnd => "\x7d"
  | .key => "?"
  | .value => ":"
  | .blockEntry => "-"
  | .flowEntry => ","
  | .alias _ => "<alias>"
  | .anchor _ => "<anchor>"
  | .tag _ => "<tag>"
  | .scalar _ _ => "<scalar>"

/-- A token and the marks around it. -/
structure Token where
  lexeme : Lexeme
  start : Mark
  stop : Mark
  deriving Repr

/-- A place where a simple key may begin: which token it would be, and whether there has to be one. -/
structure Candidate where
  flow : Nat
  number : Nat
  required : Bool
  mark : Mark
  deriving Repr

/-- A text being read: the indentation of the blocks around the cursor (the innermost first), the
depth of flow collections, and the tokens held back. -/
structure Reader where
  cursor : Cursor
  flow : Nat := 0
  indent : Int := -1
  outer : List Int := []
  keyAllowed : Bool := true
  candidates : List Candidate := []
  released : Nat := 0
  held : List Token := []
  done : Bool := false

/-- A step of a reader. -/
abbrev Step := StateT Reader (Except Error)

namespace Reader

/-- Reads at the cursor. -/
def scan {α : Type} (s : Scan α) : Step α := do
  let r ← get
  let (a, c) ← s.run r.cursor
  set { r with cursor := c }
  return a

/-- Where the reader is. -/
def here : Step Mark := do return (← get).cursor.mark

/-- The column the reader is at. -/
def column : Step Int := do return ((← here).column : Int)

/-- Adds a token that began at a mark and ends here. -/
def emit (lexeme : Lexeme) (start : Mark) : Step Unit := do
  let stop ← here
  modify fun r => { r with held := r.held ++ [⟨lexeme, start, stop⟩] }

/-- Adds a token of no width. -/
def emitHere (lexeme : Lexeme) : Step Unit := do emit lexeme (← here)

/-- Takes `n` characters as a token. -/
def emitNext (n : Nat) (lexeme : Lexeme) : Step Unit := do
  let start ← here
  discard (scan (take n))
  emit lexeme start

/-- Fails here, without a context. -/
def fail (problem : Problem) : Step Unit := do throw (.fault ⟨none, problem, ← here⟩)

/-- Allows or forbids a simple key at the next token. -/
def allowKey (b : Bool) : Step Unit := modify fun r => { r with keyAllowed := b }

/-- Gives up candidates, which is a fault if one of them is required. -/
def giveUp (which : Reader → Candidate → Bool) : Step Unit := do
  let r ← get
  match r.candidates.find? fun k => which r k && k.required with
  | some k => throw (.fault ⟨some ⟨.simpleKey, some k.mark⟩, .noColon, r.cursor.mark⟩)
  | none => set { r with candidates := r.candidates.filter fun k => !which r k }

/-- Gives up the candidates that are on another line, or too far back. -/
def giveUpStale : Step Unit :=
  giveUp fun r k => k.mark.line != r.cursor.mark.line || 1024 < r.cursor.mark.index - k.mark.index

/-- Gives up the candidate at this depth. -/
def giveUpKey : Step Unit := giveUp fun r k => k.flow == r.flow

/-- Notes that the next token may begin a simple key. -/
def noteKey : Step Unit := do
  let r ← get
  if r.keyAllowed then
    giveUpKey
    let required := r.flow == 0 && r.indent == (r.cursor.mark.column : Int)
    modify fun r => { r with candidates := r.candidates ++
      [⟨r.flow, r.released + r.held.length, required, r.cursor.mark⟩] }

/-- The indentations that a column closes, and what is left. -/
def unwound (column : Int) (indent : Int) : List Int → Nat × Int × List Int
  | [] => if column < indent then (1, -1, []) else (0, indent, [])
  | i :: outer =>
    if column < indent then
      let (n, indent, outer) := unwound column i outer
      (n + 1, indent, outer)
    else (0, indent, i :: outer)

/-- Closes the blocks that are indented further than a column. -/
def unwind (column : Int) : Step Unit := do
  let r ← get
  if r.flow == 0 then
    let (n, indent, outer) := unwound column r.indent r.outer
    let m := r.cursor.mark
    set { r with indent := indent, outer := outer, held := r.held ++ List.replicate n (Token.mk .blockEnd m m) }

/-- Whether a column is further in than the current block, which it then starts. -/
def indentTo (column : Int) : Step Bool := do
  let r ← get
  if r.indent < column then
    set { r with indent := column, outer := r.indent :: r.outer }
    return true
  else return false

/-- Skips blanks, comments and line breaks; outside flow collections a line break allows a key. -/
def skip : Nat → Step Unit
  | 0 => return
  | n + 1 => do
    discard (scan (takeWhile (· == ' ')))
    scan comment
    let b ← scan lineBreak
    if !b.isEmpty then
      if (← get).flow == 0 then allowKey true
      skip n

/-- Ends all blocks and forgets the candidate of this depth, before what is no part of a block. -/
def leaveBlocks : Step Unit := do
  unwind (-1)
  giveUpKey
  allowKey false

/-- The end of the text. -/
def readEnd : Step Unit := do
  leaveBlocks
  emitHere .streamEnd
  modify fun r => { r with candidates := [], done := true }

/-- A directive. -/
def readDirective : Step Unit := do
  leaveBlocks
  let start ← here
  let d ← scan Directive.scan
  emit (.directive d) start

/-- A document separator. -/
def readSeparator (lexeme : Lexeme) : Step Unit := do
  leaveBlocks
  emitNext 3 lexeme

/-- An opening bracket. -/
def readOpening (lexeme : Lexeme) : Step Unit := do
  noteKey
  modify fun r => { r with flow := r.flow + 1 }
  allowKey true
  emitNext 1 lexeme

/-- A closing bracket. -/
def readClosing (lexeme : Lexeme) : Step Unit := do
  giveUpKey
  modify fun r => { r with flow := r.flow - 1 }
  allowKey false
  emitNext 1 lexeme

/-- A comma. -/
def readComma : Step Unit := do
  allowKey true
  giveUpKey
  emitNext 1 .flowEntry

/-- An indicator of block collections, which opens one where it is further in. -/
def openBlock (problem : Problem) (lexeme : Lexeme) : Step Unit := do
  let r ← get
  if r.flow == 0 then
    if !r.keyAllowed then fail problem
    if ← indentTo (← column) then emitHere lexeme

/-- A dash. -/
def readDash : Step Unit := do
  openBlock .misplacedEntry .blockSequenceStart
  allowKey true
  giveUpKey
  emitNext 1 .blockEntry

/-- A question mark. -/
def readKey : Step Unit := do
  openBlock .misplacedKey .blockMappingStart
  allowKey ((← get).flow == 0)
  giveUpKey
  emitNext 1 .key

/-- Puts a token of no width in front of a candidate. -/
def insertBefore (k : Candidate) (lexeme : Lexeme) : Step Unit :=
  modify fun r => { r with
    held := r.held.insertIdx (k.number - r.released) ⟨lexeme, k.mark, k.mark⟩ }

/-- A colon: the candidate of this depth is a key, or else a key with a question mark ends here. -/
def readColon : Step Unit := do
  let r ← get
  match r.candidates.find? fun k => k.flow == r.flow with
  | some k =>
    set { r with candidates := r.candidates.filter fun k => k.flow != r.flow }
    insertBefore k .key
    if r.flow == 0 then
      if ← indentTo k.mark.column then insertBefore k .blockMappingStart
    allowKey false
  | none =>
    openBlock .misplacedValue .blockMappingStart
    allowKey (r.flow == 0)
    giveUpKey
  emitNext 1 .value

/-- A token that may be a simple key. -/
def readAtom {α : Type} (s : Scan α) (lexeme : α → Lexeme) : Step Unit := do
  noteKey
  allowKey false
  let start ← here
  let a ← scan s
  emit (lexeme a) start

/-- A block scalar. -/
def readBlock (folded : Bool) : Step Unit := do
  allowKey true
  giveUpKey
  let start ← here
  let text ← scan (blockScalar folded (← get).indent)
  emit (.scalar (CodePoint.ofChars text) false) start

/-- A plain scalar; a key may follow if a line ends after it. -/
def readPlain : Step Unit := do
  noteKey
  let r ← get
  let start ← here
  let (text, ended) ← scan (plainScalar (r.flow != 0) (r.indent + 1))
  allowKey ended
  emit (.scalar (CodePoint.ofChars text) true) start

/-- Characters that a plain scalar does not start with. -/
def indicators : List Char := "-?:,[]\x7b\x7d#&*!|>'\"%@\x60".toList

/-- Whether a plain scalar starts with `c`, followed by `next`. -/
def startsPlain (inFlow : Bool) (c : Char) (next : Option Char) : Bool :=
  (!endsWord (some c) && !indicators.contains c) ||
    (!endsWord next && (c == '-' || (!inFlow && (c == '?' || c == ':'))))

/-- The next token, and those that have to come before it. -/
def readToken (c : Char) (next : Option Char) : Step Unit := do
  let inFlow := (← get).flow != 0
  let atStart := (← column) == 0
  if c == '%' && atStart then readDirective
  else if atStart && (c == '-' || c == '.') && (← scan atSeparator) then
    readSeparator (if c == '-' then .documentStart else .documentEnd)
  else if c == '[' then readOpening .flowSequenceStart
  else if c == '{' then readOpening .flowMappingStart
  else if c == ']' then readClosing .flowSequenceEnd
  else if c == '}' then readClosing .flowMappingEnd
  else if c == ',' then readComma
  else if c == '-' && endsWord next then readDash
  else if c == '?' && (inFlow || endsWord next) then readKey
  else if c == ':' && (inFlow || endsWord next) then readColon
  else if c == '*' then readAtom (nodeName .alias) fun name => .alias (String.ofList name)
  else if c == '&' then readAtom (nodeName .anchor) fun name => .anchor (String.ofList name)
  else if c == '!' then readAtom Tag.scan .tag
  else if (c == '|' || c == '>') && !inFlow then readBlock (c == '>')
  else if c == '\'' || c == '"' then readAtom (quotedScalar (c == '"')) fun text => .scalar text false
  else if startsPlain inFlow c next then readPlain
  else throw (.fault ⟨some ⟨.nextToken, none⟩, .noToken c, ← here⟩)

/-- Reads on to the next token. -/
def read : Step Unit := do
  skip ((← get).cursor.rest.length + 1)
  giveUpStale
  unwind (← column)
  match (← get).cursor.rest with
  | [] => readEnd
  | c :: r => readToken c r.head?
  giveUpStale

/-- The tokens that no key mark can come before any more, and the reader without them. -/
def release (r : Reader) : List Token × Reader :=
  let number := (r.candidates.map Candidate.number).min?
  let n := match number with
    | some k => k - r.released
    | none => r.held.length
  (r.held.take n, { r with held := r.held.drop n, released := r.released + (r.held.take n).length })

theorem release_append (r : Reader) : r.release.1 ++ r.release.2.held = r.held := by
  simp [release]

end Reader

/-- Tokens, and why there are no more unless the last is the end of the stream. -/
structure TokenStream where
  tokens : List Token
  error : Option Error

namespace TokenStream

/-- The tokens that a reader gives in at most `n` steps. -/
def ofReader : Nat → Reader → TokenStream
  | 0, _ => ⟨[], none⟩
  | n + 1, r =>
    let (tokens, r) := r.release
    if r.done then ⟨tokens, none⟩
    else match Reader.read.run r with
      | .error e => ⟨tokens, some e⟩
      | .ok (_, r) =>
        let rest := ofReader n r
        ⟨tokens ++ rest.tokens, rest.error⟩

/-- Whether a character may be part of a document. -/
def isAcceptable (c : Char) : Bool :=
  let n := c.toNat
  n == 0x09 || n == 0x0A || n == 0x0D || (0x20 ≤ n && n ≤ 0x7E) || n == 0x85 ||
    (0xA0 ≤ n && n ≤ 0xFFFD) || 0x10000 ≤ n

/-- The tokens of a text. A byte order mark at its start is passed over. -/
def ofText (text : List Char) : TokenStream :=
  match text.findIdx? fun c => !isAcceptable c with
  | some i => ⟨[], some (.unacceptable (text[i]?.getD '\x00') i)⟩
  | none =>
    let start : Reader := { cursor := ⟨text, {}⟩, held := [⟨.streamStart, {}, {}⟩] }
    let bom := text.head? == some '\ufeff'
    ofReader (text.length + 2) { start with cursor := start.cursor.advance (if bom then 1 else 0) }

end TokenStream

end RackElevation.Yaml
