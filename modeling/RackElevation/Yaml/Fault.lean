import RackElevation.Decimal.Binary64
import RackElevation.Decimal.Numeral
import RackElevation.Text.CodePoint
import RackElevation.Text.Utf8
import RackElevation.Yaml.Mark

/-
  Faults of a YAML document

  A fault says what is wrong and where, and mostly also what was being read and
  where that began. A misfit is a scalar that does not have the form its kind
  asks for; it is told without a place. A document whose nodes are nested too
  deep for the stack of the reader is not read to its end.
-/

namespace RackElevation.Yaml

open Text

/-- What was being read. -/
inductive Activity
  | nextToken
  | simpleKey
  | directive
  | directiveAddress
  | alias
  | anchor
  | tag
  | tagAddress
  | blockScalar
  | doubleQuoted
  | quoted
  | node
  | blockNode
  | flowNode
  | blockCollection
  | blockMapping
  | flowSequence
  | flowMapping
  | mapping
  | orderedMap
  | pairs
  | firstAnchor (name : String)
  | singleDocument
  deriving DecidableEq, Repr

/-- How an activity is named. -/
def Activity.text : Activity → String
  | .nextToken => "while scanning for the next token"
  | .simpleKey => "while scanning a simple key"
  | .directive => "while scanning a directive"
  | .directiveAddress => "while parsing a directive"
  | .alias => "while scanning an alias"
  | .anchor => "while scanning an anchor"
  | .tag => "while scanning a tag"
  | .tagAddress => "while parsing a tag"
  | .blockScalar => "while scanning a block scalar"
  | .doubleQuoted => "while scanning a double-quoted scalar"
  | .quoted => "while scanning a quoted scalar"
  | .node => "while parsing a node"
  | .blockNode => "while parsing a block node"
  | .flowNode => "while parsing a flow node"
  | .blockCollection => "while parsing a block collection"
  | .blockMapping => "while parsing a block mapping"
  | .flowSequence => "while parsing a flow sequence"
  | .flowMapping => "while parsing a flow mapping"
  | .mapping => "while constructing a mapping"
  | .orderedMap => "while constructing an ordered map"
  | .pairs => "while constructing pairs"
  | .firstAnchor name => "found duplicate anchor " ++ Text.quoted name ++ "; first occurrence"
  | .singleDocument => "expected a single document in the stream"

/-- What should have stood where another character, or the end, was found. -/
inductive Wanted
  | nameCharacter
  | digit
  | digitOrPoint
  | digitOrBlank
  | blank
  | commentOrBreak
  | exclamation
  | closingAngle
  | address
  | addressEscape
  | blockIndicator
  | escapeDigits (n : Nat)
  deriving DecidableEq, Repr

/-- How a wanted thing is named. -/
def Wanted.text : Wanted → String
  | .nameCharacter => "alphabetic or numeric character"
  | .digit => "a digit"
  | .digitOrPoint => "a digit or '.'"
  | .digitOrBlank => "a digit or ' '"
  | .blank => "' '"
  | .commentOrBreak => "a comment or a line break"
  | .exclamation => "'!'"
  | .closingAngle => "'>'"
  | .address => "URI"
  | .addressEscape => "URI escape sequence of 2 hexadecimal numbers"
  | .blockIndicator => "chomping or indentation indicators"
  | .escapeDigits n => "escape sequence of " ++ toString n ++ " hexadecimal numbers"

/-- What is wrong. -/
inductive Problem
  | noToken (c : Char)
  | noColon
  | misplacedEntry
  | misplacedKey
  | misplacedValue
  | expected (wanted : Wanted) (found : Option Char)
  | undecodable (fault : Utf8.Fault)
  | zeroIndentation
  | unknownEscape (found : Option Char)
  | endInQuotes
  | separatorInQuotes
  | noDocumentStart (found : String)
  | secondVersion
  | otherVersion
  | repeatedHandle (handle : String)
  | unknownHandle (handle : String)
  | noContent (found : String)
  | noBlockEnd (found : String)
  | noSequenceEnd (found : String)
  | noMappingEnd (found : String)
  | unknownAlias (name : String)
  | secondAnchor
  | secondDocument
  | unknownTag (tag : String)
  | notOfKind (kind found : String)
  | unhashableKey
  | unmergeableItem (found : String)
  | unmergeable (found : String)
  | notSequence (found : String)
  | notPair (found : String)
  | notSingle (n : Nat)
  | notAscii (detail : String)
  | notBase64 (detail : String)
  deriving DecidableEq, Repr

/-- A character in quotes, the end as the null character. -/
def shownChar (c : Option Char) : String := quoted (String.ofList [c.getD '\x00'])

/-- The sentence for a problem. -/
def Problem.text : Problem → String
  | .noToken c => "found character " ++ shownChar (some c) ++ " that cannot start any token"
  | .noColon => "could not find expected ':'"
  | .misplacedEntry => "sequence entries are not allowed here"
  | .misplacedKey => "mapping keys are not allowed here"
  | .misplacedValue => "mapping values are not allowed here"
  | .expected wanted found => "expected " ++ wanted.text ++ ", but found " ++ shownChar found
  | .undecodable fault => fault.message
  | .zeroIndentation => "expected indentation indicator in the range 1-9, but found 0"
  | .unknownEscape found => "found unknown escape character " ++ shownChar found
  | .endInQuotes => "found unexpected end of stream"
  | .separatorInQuotes => "found unexpected document separator"
  | .noDocumentStart found => "expected '<document start>', but found " ++ quoted found
  | .secondVersion => "found duplicate YAML directive"
  | .otherVersion => "found incompatible YAML document (version 1.* is required)"
  | .repeatedHandle handle => "duplicate tag handle " ++ quoted handle
  | .unknownHandle handle => "found undefined tag handle " ++ quoted handle
  | .noContent found => "expected the node content, but found " ++ quoted found
  | .noBlockEnd found => "expected <block end>, but found " ++ quoted found
  | .noSequenceEnd found => "expected ',' or ']', but got " ++ quoted found
  | .noMappingEnd found => "expected ',' or '\x7d', but got " ++ quoted found
  | .unknownAlias name => "found undefined alias " ++ quoted name
  | .secondAnchor => "second occurrence"
  | .secondDocument => "but found another document"
  | .unknownTag tag => "could not determine a constructor for the tag " ++ quoted tag
  | .notOfKind kind found => "expected a " ++ kind ++ " node, but found " ++ found
  | .unhashableKey => "found unhashable key"
  | .unmergeableItem found => "expected a mapping for merging, but found " ++ found
  | .unmergeable found => "expected a mapping or list of mappings for merging, but found " ++ found
  | .notSequence found => "expected a sequence, but found " ++ found
  | .notPair found => "expected a mapping of length 1, but found " ++ found
  | .notSingle n => "expected a single mapping item, but found " ++ toString n ++ " items"
  | .notAscii detail => "failed to convert base64 data into ascii: " ++ detail
  | .notBase64 detail => "failed to decode base64 data: " ++ detail

/-- What was being read, and where it began if that is told. -/
structure Context where
  activity : Activity
  start : Option Mark
  deriving DecidableEq, Repr

/-- A fault. -/
structure Fault where
  context : Option Context
  problem : Problem
  mark : Mark
  deriving DecidableEq, Repr

/-- The lines for a context; its place only where it is another than the fault's. -/
def Context.display (text : List Char) (mark : Mark) (c : Context) : List String :=
  match c.start with
  | none => [c.activity.text]
  | some m =>
    if m.line = mark.line ∧ m.column = mark.column then [c.activity.text]
    else [c.activity.text, m.display text]

/-- The fault of a document with the given text. -/
def Fault.display (text : List Char) (f : Fault) : String :=
  String.intercalate "\n"
    (((f.context.map (Context.display text f.mark)).getD []) ++ [f.problem.text, f.mark.display text])

/-- A scalar that does not have the form its kind asks for. -/
inductive Misfit
  /-- There is no character with this number. -/
  | character (code : Nat)
  | truth (text : List CodePoint)
  | integer (base : Nat) (text : List CodePoint)
  | real (text : List CodePoint)
  | time
  /-- A number without a single character. -/
  | empty
  /-- A part of a date or a time is outside its range. -/
  | moment (reason : String)
  | numeral (fault : Numeral.Fault)
  | overflow (fault : Binary64.Overflow)
  deriving DecidableEq, Repr

/-- The sentence for a misfit. -/
def Misfit.message : Misfit → String
  | .character code =>
    if code < 0x80000000 then "chr() arg not in range(0x110000)"
    else "Python int too large to convert to C int"
  | .truth text => CodePoint.quote text
  | .integer base text =>
    "invalid literal for int() with base " ++ toString base ++ ": " ++
      String.ofList ((CodePoint.quote text).toList.take 200)
  | .real text => "could not convert string to float: " ++ CodePoint.quote text
  | .time => "'NoneType' object has no attribute 'groupdict'"
  | .empty => "string index out of range"
  | .moment reason => reason
  | .numeral fault => fault.message
  | .overflow fault => fault.message

/-- Why there is no document. -/
inductive Error
  /-- A character that no document may hold. -/
  | unacceptable (c : Char) (position : Nat)
  | fault (f : Fault)
  | misfit (m : Misfit)
  /-- Nodes are nested deeper than the stack allows. -/
  | tooDeep
  deriving DecidableEq, Repr

/-- Whether an error is one of the document, which is told with its place. -/
def Error.isPlaced : Error → Bool
  | .unacceptable _ _ => true
  | .fault _ => true
  | .misfit _ => false
  | .tooDeep => false

/-- Hexadecimal digits, at least four. -/
def codeText (n : Nat) : String :=
  let digits := Nat.toDigits 16 n
  String.ofList (List.replicate (4 - digits.length) '0' ++ digits)

/-- The text for an error in a document with the given text. -/
def Error.display (text : List Char) : Error → String
  | .unacceptable c position =>
    "unacceptable character #x" ++ codeText c.toNat ++ ": special characters are not allowed\n" ++
      "  in \"<unicode string>\", position " ++ toString position
  | .fault f => f.display text
  | .misfit m => m.message
  | .tooDeep => "maximum recursion depth exceeded"

end RackElevation.Yaml
