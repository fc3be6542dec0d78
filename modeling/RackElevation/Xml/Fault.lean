import RackElevation.Text.Utf8

/-
  Faults of XML

  Why a document is not well formed, and at which place. A place is kept as the
  number of characters from it to the end of the document; its line and its
  column are counted when a fault is shown. A line ends at CR LF, at a lone CR
  or at LF; lines count from one, columns from zero.

  What is proved:
    1. `position_line_pos` — every place has a line from one on.
-/

namespace RackElevation.Xml

/-- What is wrong with a document. -/
inductive Fault
  | noElement
  | invalidToken
  | unclosedToken
  | syntaxError
  | mismatchedTag
  | duplicateAttribute
  | junkAfterRoot
  | parameterReference
  | undefinedEntity
  /-- An entity that is known to exist elsewhere, but not what it stands for. -/
  | unknownEntity (name : List Char)
  | recursiveEntity
  | unbalancedEntity
  /-- What entities stand for is too long for the document. -/
  | growth
  | invalidCharacterNumber
  | unparsedEntity
  | externalEntityInAttribute
  | misplacedDeclaration
  | unclosedCdata
  | malformedDeclaration
  | illegalPublicId
  | unboundShorthand
  | emptyNamespace
  | reboundXml
  | reboundXmlns
  | reservedNamespace
  deriving DecidableEq, Repr

/-- The phrase for an unknown entity, whose reference is cut off after 100 bytes. -/
def unknownEntityPhrase (name : List Char) : String :=
  let reference := Utf8.encode ('&' :: (name ++ [';']))
  "undefined entity " ++ String.ofList (Utf8.decodeLossy (reference.take 100))

/-- The phrase for a fault. -/
def Fault.phrase : Fault → String
  | .noElement => "no element found"
  | .invalidToken => "not well-formed (invalid token)"
  | .unclosedToken => "unclosed token"
  | .syntaxError => "syntax error"
  | .mismatchedTag => "mismatched tag"
  | .duplicateAttribute => "duplicate attribute"
  | .junkAfterRoot => "junk after document element"
  | .parameterReference => "illegal parameter entity reference"
  | .undefinedEntity => "undefined entity"
  | .unknownEntity name => unknownEntityPhrase name
  | .recursiveEntity => "recursive entity reference"
  | .unbalancedEntity => "asynchronous entity"
  | .growth => "limit on input amplification factor (from DTD and entities) breached"
  | .invalidCharacterNumber => "reference to invalid character number"
  | .unparsedEntity => "reference to binary entity"
  | .externalEntityInAttribute => "reference to external entity in attribute"
  | .misplacedDeclaration => "XML or text declaration not at start of entity"
  | .unclosedCdata => "unclosed CDATA section"
  | .malformedDeclaration => "XML declaration not well-formed"
  | .illegalPublicId => "illegal character(s) in public id"
  | .unboundShorthand => "unbound prefix"
  | .emptyNamespace => "must not undeclare prefix"
  | .reboundXml => "reserved prefix (xml) must not be undeclared or bound to another namespace name"
  | .reboundXmlns => "reserved prefix (xmlns) must not be declared or undeclared"
  | .reservedNamespace => "prefix must not be bound to one of the reserved namespace names"

/-- A fault and the number of characters from its place to the end. -/
structure Failure where
  fault : Fault
  left : Nat
  deriving DecidableEq, Repr

/-- A line and a column. -/
structure Position where
  line : Nat
  column : Nat
  deriving DecidableEq, Repr

/-- The position after some text that starts at a position. -/
def Position.after (p : Position) : List Char → Position
  | [] => p
  | '\r' :: '\n' :: r => Position.after ⟨p.line + 1, 0⟩ r
  | c :: r => Position.after (if c = '\r' ∨ c = '\n' then ⟨p.line + 1, 0⟩ else ⟨p.line, p.column + 1⟩) r

/-- The position before the last `left` characters of a document. -/
def positionBefore (document : List Char) (left : Nat) : Position :=
  Position.after ⟨1, 0⟩ (document.take (document.length - left))

theorem Position.line_le_after (p : Position) (s : List Char) : p.line ≤ (p.after s).line := by
  fun_induction Position.after p s with
  | case1 => exact Nat.le_refl _
  | case2 p r ih => exact Nat.le_trans (Nat.le_succ _) ih
  | case3 p c r _ ih =>
    refine Nat.le_trans ?_ ih
    split
    · exact Nat.le_succ _
    · exact Nat.le_refl _

theorem position_line_pos (document : List Char) (left : Nat) :
    1 ≤ (positionBefore document left).line :=
  Position.line_le_after ⟨1, 0⟩ _

end RackElevation.Xml
