import RackElevation.Xml.Declaration
import RackElevation.Xml.Entity

/-
  The type of a document

  Before the root element may stand a declaration of the document and the
  declaration of its type. They are read mark by mark: an expectation says which
  marks may come next, blanks are allowed between any two, and a mark that does
  not fit is a fault at that mark. What is declared is collected on the way.

  A reference to a parameter entity stands for declarations that are not seen:
  from then on an undeclared entity is no fault, and declarations no longer
  count, unless the document says that it stands alone.
-/

namespace RackElevation.Xml

/-- What a declared entity is for: the name under which it is kept, none if the declaration does
not count, and whether it is a general entity. -/
structure EntityTarget where
  name : Option (List Char)
  isGeneral : Bool

/-- The attribute that is being declared. -/
structure AttributeTarget where
  element : List Char
  name : List Char

/-- How the items of a group are joined: not yet known, in sequence or as alternatives. -/
inductive Joint
  | unknown
  | sequence
  | choice
  deriving DecidableEq

/-- What may come next. -/
inductive Expect
  | start
  | doctypeOrRoot
  | root
  | doctypeName
  | doctypeStart
  | doctypePublicId
  | doctypeSystemId
  | doctypeSubset
  | doctypeEnd
  | subset
  | entityName
  | parameterName
  | entityValue (e : EntityTarget)
  | entityPublicId (e : EntityTarget)
  | entitySystemId (e : EntityTarget)
  | entityEnd (e : EntityTarget)
  | entityNote (e : EntityTarget)
  | noteName
  | noteStart
  | notePublicId
  | noteSystemId
  | noteEnd
  | attributesElement
  | attributeName (element : List Char)
  | attributeType (a : AttributeTarget)
  | choiceValue (a : AttributeTarget)
  | choiceNext (a : AttributeTarget)
  | notesOpen (a : AttributeTarget)
  | notesValue (a : AttributeTarget)
  | notesNext (a : AttributeTarget)
  | attributeDefault (a : AttributeTarget) (isCdata : Bool)
  | fixedDefault (a : AttributeTarget) (isCdata : Bool)
  | elementName
  | elementContent
  | groupFirst
  | mixedNext
  | mixedName
  | mixedMore
  | groupItem (joints : List Joint)
  | groupNext (joints : List Joint)
  | declarationEnd

/-- The fault of a mark that does not fit. -/
def misfit : Mark → Fault
  | .broken fault _ => fault
  | .parameterReference => .parameterReference
  | .declaration .. => .misplacedDeclaration
  | _ => .syntaxError

/-- Whether a character may stand in a public identifier. -/
def isPublicIdChar (c : Char) : Bool :=
  c.isAlphanum || c == ' ' || c == '\r' || c == '\n' || "-'()+,./:=?;!*#@$_%".toList.contains c

/-- Checks a public identifier that ends where the document goes on with `valueEnd`. -/
def checkPublicId (value valueEnd : List Char) : Except Failure Unit :=
  match value.dropWhile isPublicIdChar with
  | [] => .ok ()
  | on => .error ⟨.illegalPublicId, on.length + valueEnd.length⟩

/-- The target of a general entity: only the first declaration of a name counts. -/
def Doctype.generalTarget (d : Doctype) (name : List Char) : EntityTarget :=
  if d.isReading && (namedCharacter? name).isNone && (d.entity? name).isNone then ⟨some name, true⟩
  else ⟨none, true⟩

/-- Declares an entity. -/
def Doctype.addEntity (d : Doctype) (e : EntityTarget) (text : EntityText) : Doctype :=
  match e.name with
  | some name => { d with entities := (name, text) :: d.entities.filter (·.1 != name) }
  | none => d

/-- Declares an attribute; only the first declaration of its name counts. -/
def Doctype.addAttribute (d : Doctype) (a : AttributeTarget) (isCdata : Bool)
    (value : Option (List Char)) : Doctype :=
  if d.isReading && (d.declared? a.element a.name).isNone then
    { d with attributes := d.attributes ++ [⟨a.element, a.name, isCdata, value⟩] }
  else d

/-- Declares an attribute with a default that stands in quotes in the declaration at `place`. -/
def Doctype.addDefault (d : Doctype) (a : AttributeTarget) (isCdata : Bool) (place : Nat)
    (value valueEnd : List Char) : Except Failure Doctype :=
  if d.isReading then do
    let text ← attributeValue d isCdata [] ⟨place, some valueEnd⟩ value
    return d.addAttribute a isCdata (some text)
  else .ok d

/-- The types of attributes that are named by a word, and whether they hold plain character data. -/
def attributeTypes : List (String × Bool) :=
  [("CDATA", true), ("ID", false), ("IDREF", false), ("IDREFS", false), ("ENTITY", false),
   ("ENTITIES", false), ("NMTOKEN", false), ("NMTOKENS", false)]

/-- What is expected after the end of a group, the innermost of those that are open. -/
def afterGroup : List Joint → Expect
  | _ :: outer :: rest => .groupNext (outer :: rest)
  | _ => .declarationEnd

/-- The items of a group joined in one more place, if they are joined in the same way everywhere. -/
def joined (joint : Joint) : List Joint → Option Expect
  | j :: rest => if j = .unknown ∨ j = joint then some (.groupItem (joint :: rest)) else none
  | [] => none

/-- What is expected after the keyword of a declaration in the internal subset. -/
def declarationOf (keyword : List Char) : Option Expect :=
  if keyword = "ENTITY".toList then some .entityName
  else if keyword = "ATTLIST".toList then some .attributesElement
  else if keyword = "ELEMENT".toList then some .elementName
  else if keyword = "NOTATION".toList then some .noteName
  else none

/-- What is expected after a mark that changes nothing that is known, none if it does not fit. -/
def follow (e : Expect) (m : Mark) : Option Expect :=
  match e, m with
  | .start, .ignored => some .doctypeOrRoot
  | .start, .openDeclaration keyword | .doctypeOrRoot, .openDeclaration keyword =>
    if keyword = "DOCTYPE".toList then some .doctypeName else none
  | .doctypeOrRoot, .ignored | .root, .ignored | .subset, .ignored => some e
  | .doctypeName, .name kind _ => if kind = .token then none else some .doctypeStart
  | .doctypeStart, .openBracket | .doctypeSubset, .openBracket => some .subset
  | .doctypeStart, .close | .doctypeSubset, .close | .doctypeEnd, .close => some .root
  | .doctypeStart, .name .plain word =>
    if word = "SYSTEM".toList then some .doctypeSystemId
    else if word = "PUBLIC".toList then some .doctypePublicId
    else none
  | .subset, .openDeclaration keyword => declarationOf keyword
  | .subset, .closeBracket => some .doctypeEnd
  | .entityName, .percent => some .parameterName
  | .parameterName, .name .plain _ => some (.entityValue ⟨none, false⟩)
  | .entityValue t, .name .plain word =>
    if word = "SYSTEM".toList then some (.entitySystemId t)
    else if word = "PUBLIC".toList then some (.entityPublicId t)
    else none
  | .entityEnd _, .close => some .subset
  | .entityEnd t, .name .plain word =>
    if t.isGeneral && word == "NDATA".toList then some (.entityNote t) else none
  | .noteName, .name .plain _ => some .noteStart
  | .noteStart, .name .plain word =>
    if word = "SYSTEM".toList then some .noteSystemId
    else if word = "PUBLIC".toList then some .notePublicId
    else none
  | .noteSystemId, .literal .. | .noteEnd, .literal .. => some .declarationEnd
  | .noteEnd, .close | .declarationEnd, .close => some .subset
  | .attributesElement, .name kind n => if kind = .token then none else some (.attributeName n)
  | .attributeName _, .close => some .subset
  | .attributeName element, .name kind n =>
    if kind = .token then none else some (.attributeType ⟨element, n⟩)
  | .attributeType a, .openParen => some (.choiceValue a)
  | .attributeType a, .name .plain word =>
    if word = "NOTATION".toList then some (.notesOpen a)
    else (attributeTypes.find? fun t => t.1.toList == word).map fun t => .attributeDefault a t.2
  | .choiceValue a, .name _ _ => some (.choiceNext a)
  | .choiceNext a, .closeParen false _ | .notesNext a, .closeParen false _ =>
    some (.attributeDefault a false)
  | .choiceNext a, .bar => some (.choiceValue a)
  | .notesOpen a, .openParen => some (.notesValue a)
  | .notesValue a, .name .plain _ => some (.notesNext a)
  | .notesNext a, .bar => some (.notesValue a)
  | .attributeDefault a isCdata, .hashName word =>
    if word = "FIXED".toList then some (.fixedDefault a isCdata) else none
  | .elementName, .name kind _ => if kind = .token then none else some .elementContent
  | .elementContent, .openParen => some .groupFirst
  | .elementContent, .name .plain word =>
    if word = "EMPTY".toList ∨ word = "ANY".toList then some .declarationEnd else none
  | .groupFirst, .hashName word => if word = "PCDATA".toList then some .mixedNext else none
  | .groupFirst, .openParen => some (.groupItem [.unknown, .unknown])
  | .groupFirst, .name kind _ => if kind = .token then none else some (.groupNext [.unknown])
  | .groupFirst, .countedName => some (.groupNext [.unknown])
  | .mixedNext, .closeParen false _ | .mixedNext, .closeParen true true => some .declarationEnd
  | .mixedNext, .bar | .mixedMore, .bar => some .mixedName
  | .mixedName, .name kind _ => if kind = .token then none else some .mixedMore
  | .mixedMore, .closeParen true true => some .declarationEnd
  | .groupItem joints, .openParen => some (.groupItem (.unknown :: joints))
  | .groupItem joints, .name kind _ => if kind = .token then none else some (.groupNext joints)
  | .groupItem joints, .countedName => some (.groupNext joints)
  | .groupNext joints, .closeParen _ _ => some (afterGroup joints)
  | .groupNext joints, .comma => joined .sequence joints
  | .groupNext joints, .bar => joined .choice joints
  | _, _ => none

/-- What is known and what is expected after a mark at a place. -/
def step (d : Doctype) (e : Expect) (place : Nat) (m : Mark) : Except Failure (Doctype × Expect) :=
  match e, m with
  | .start, .space => .ok (d, .doctypeOrRoot)
  | _, .space => .ok (d, e)
  | .start, .declaration body rest =>
    match isStandalone body with
    | .ok standalone => .ok ({ d with isStandalone := standalone }, .doctypeOrRoot)
    | .error on => .error ⟨.malformedDeclaration, on.length + 2 + rest.length⟩
  | .doctypePublicId, .literal value valueEnd => do
    checkPublicId value valueEnd
    return ({ d with isIncomplete := true }, .doctypeSystemId)
  | .doctypeSystemId, .literal .. => .ok ({ d with isIncomplete := true }, .doctypeSubset)
  | .subset, .parameterReference =>
    .ok ({ d with isIncomplete := true, isReading := d.isStandalone }, .subset)
  | .entityName, .name .plain n => .ok (d, .entityValue (d.generalTarget n))
  | .entityValue t, .literal value valueEnd =>
    if d.isReading then do
      let text ← entityText ⟨place, some valueEnd⟩ value
      return (d.addEntity t (.internal text), .declarationEnd)
    else .ok (d, .declarationEnd)
  | .entityPublicId t, .literal value valueEnd => do
    checkPublicId value valueEnd
    return (d, .entitySystemId t)
  | .entitySystemId t, .literal .. => .ok (d.addEntity t .external, .entityEnd t)
  | .entityNote t, .name .plain _ => .ok (d.addEntity t .unparsed, .declarationEnd)
  | .notePublicId, .literal value valueEnd => do
    checkPublicId value valueEnd
    return (d, .noteEnd)
  | .attributeDefault a isCdata, .hashName word =>
    if word = "IMPLIED".toList ∨ word = "REQUIRED".toList then
      .ok (d.addAttribute a isCdata none, .attributeName a.element)
    else match follow e m with
      | some e => .ok (d, e)
      | none => .error ⟨misfit m, place⟩
  | .attributeDefault a isCdata, .literal value valueEnd
  | .fixedDefault a isCdata, .literal value valueEnd => do
    return (← d.addDefault a isCdata place value valueEnd, .attributeName a.element)
  | _, .broken fault on => .error ⟨fault, on.length⟩
  | e, m =>
    match follow e m with
    | some e => .ok (d, e)
    | none => .error ⟨misfit m, place⟩

/-- Whether the root element may come next. -/
def Expect.allowsRoot : Expect → Bool
  | .start | .doctypeOrRoot | .root => true
  | _ => false

/-- What is known once the root element is reached, and the text from the root on. -/
def readProlog (d : Doctype) (e : Expect) : List Placed → Except Failure (Doctype × List Char)
  | [] => .error ⟨.noElement, 0⟩
  | p :: rest =>
    match p.mark, e.allowsRoot with
    | .rootTag, true => .ok (d, p.on)
    | m, _ =>
      match step d e p.on.length m with
      | .ok (d, e) => readProlog d e rest
      | .error f => .error f

end RackElevation.Xml
