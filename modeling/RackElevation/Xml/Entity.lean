import RackElevation.Xml.Prolog

/-
  Entities and values

  What a document type declares, and the values that depend on it. In the value
  of an attribute each blank becomes a space and references are replaced; unless
  the attribute holds plain character data, runs of spaces then become one and
  none is left at either end. In the value of an entity only references to
  characters are replaced.
-/

namespace RackElevation.Xml

open Text

/-- What an entity stands for. -/
inductive EntityText
  | internal (text : List Char)
  | external
  | unparsed
  deriving DecidableEq, Repr

/-- An attribute as it is declared for an element. -/
structure AttributeDeclaration where
  element : List Char
  name : List Char
  /-- Whether the attribute holds plain character data. -/
  isCdata : Bool
  default : Option (List Char)
  deriving DecidableEq, Repr

/-- What is known of the type of a document. -/
structure Doctype where
  entities : List (List Char × EntityText) := []
  attributes : List AttributeDeclaration := []
  /-- Whether some declarations are kept outside the document, unseen. -/
  isIncomplete : Bool := false
  isStandalone : Bool := false
  /-- Whether declarations still count. -/
  isReading : Bool := true

/-- Whether an entity that is not declared is a fault. -/
def Doctype.isClosed (d : Doctype) : Bool := !d.isIncomplete || d.isStandalone

/-- What an entity was first declared to stand for. -/
def Doctype.entity? (d : Doctype) (name : List Char) : Option EntityText :=
  (d.entities.find? fun e => e.1 == name).map (·.2)

/-- The declaration of an attribute that counts: the first. -/
def Doctype.declared? (d : Doctype) (element name : List Char) : Option AttributeDeclaration :=
  d.attributes.find? fun a => a.element == element && a.name == name

/-- The characters that have names in every document. -/
def namedCharacter? (name : List Char) : Option Char :=
  match name with
  | ['l', 't'] => some '<'
  | ['g', 't'] => some '>'
  | ['a', 'm', 'p'] => some '&'
  | ['q', 'u', 'o', 't'] => some '"'
  | ['a', 'p', 'o', 's'] => some '\''
  | _ => none

/-- Where faults in a text are placed: in the document itself at the place of the fault, in the text
of an entity at the outermost reference to it. -/
structure Placing where
  /-- The place of what the text belongs to. -/
  whole : Nat
  /-- What follows the text if it stands in the document. -/
  after : Option (List Char)

/-- The place of the end of a text, `on` being what is left of it. -/
def Placing.at (p : Placing) (on : List Char) : Nat :=
  match p.after with
  | some after => on.length + after.length
  | none => p.whole

/-- The placing of a text that an entity stands for. -/
def Placing.inEntity (p : Placing) : Placing := ⟨p.whole, none⟩

/-- A part of a value. -/
inductive ValuePart
  | char (c : Char)
  | blank
  | reference (ref : Reference)
  | broken (on : List Char)

/-- The part of a value that starts with a character, and what follows it. -/
def valuePartAt (c : Char) (r : List Char) : ValuePart × List Char :=
  match c, r with
  | '&', r =>
    match reference r with
    | .found ref rest => (.reference ref, rest)
    | .invalid on => (.broken on, [])
    | .cutShort => (.broken (c :: r), [])
  | '<', r => (.broken (c :: r), [])
  | '\r', '\n' :: r => (.blank, r)
  | c, r => (if isSpace c then .blank else .char c, r)

/-- The parts of a value, each with the text from it on. -/
def valueParts (s : List Char) : List (List Char × ValuePart) :=
  walk (fun c r =>
    let (part, rest) := valuePartAt c r
    ((c :: r, part), r.length - rest.length)) s

/-- A value, last character first, after one more space. -/
def pushSpace (isCdata : Bool) (out : List Char) : List Char :=
  if !isCdata && (out.isEmpty || out.head? == some ' ') then out else ' ' :: out

/-- A value, last character first, after one part of a text; `opened` are the entities that the text
is part of, and `enter` goes on with what another one stands for. -/
def appendPart (d : Doctype) (isCdata : Bool) (opened : List (List Char)) (p : Placing)
    (enter : List Char → List Char → List Char → Except Failure (List Char)) (out : List Char)
    (part : List Char × ValuePart) : Except Failure (List Char) :=
  match part.2 with
  | .char c => .ok (c :: out)
  | .blank => .ok (pushSpace isCdata out)
  | .broken on => .error ⟨.invalidToken, p.at on⟩
  | .reference (.character none) => .error ⟨.invalidCharacterNumber, p.at part.1⟩
  | .reference (.character (some c)) => .ok (if c = ' ' then pushSpace isCdata out else c :: out)
  | .reference (.entity name) =>
    match namedCharacter? name, d.entity? name with
    | some c, _ => .ok (c :: out)
    | none, none => if d.isClosed then .error ⟨.undefinedEntity, p.whole⟩ else .ok out
    | none, some entity =>
      if opened.contains name then .error ⟨.recursiveEntity, p.whole⟩
      else match entity with
        | .unparsed => .error ⟨.unparsedEntity, p.at part.1⟩
        | .external => .error ⟨.externalEntityInAttribute, p.at part.1⟩
        | .internal inner => enter name inner out

/-- A value, last character first, after the parts of a text; `depth` is a bound on the entities
that may still be entered. -/
def appendValue (d : Doctype) (isCdata : Bool) (depth : Nat) (opened : List (List Char))
    (p : Placing) (out text : List Char) : Except Failure (List Char) :=
  match depth with
  | 0 =>
    let enter (_ _ _ : List Char) : Except Failure (List Char) := .error ⟨.recursiveEntity, p.whole⟩
    (valueParts text).foldlM (appendPart d isCdata opened p enter) out
  | depth + 1 =>
    let enter (name inner out : List Char) : Except Failure (List Char) :=
      appendValue d isCdata depth (name :: opened) p.inEntity out inner
    (valueParts text).foldlM (appendPart d isCdata opened p enter) out

/-- The value that a text in quotes stands for. -/
def attributeValue (d : Doctype) (isCdata : Bool) (opened : List (List Char)) (p : Placing)
    (text : List Char) : Except Failure (List Char) := do
  let out ← appendValue d isCdata d.entities.length opened p [] text
  return (if !isCdata && out.head? == some ' ' then out.drop 1 else out).reverse

/-- A part of the value of an entity. -/
def entityPartAt (c : Char) (r : List Char) : Except (Fault × List Char) (List Char) × List Char :=
  match c, r with
  | '&', r =>
    match reference r with
    | .found (.entity name) rest => (.ok ('&' :: (name ++ [';'])), rest)
    | .found (.character (some c)) rest => (.ok [c], rest)
    | .found (.character none) _ => (.error (.invalidCharacterNumber, c :: r), [])
    | .invalid on => (.error (.invalidToken, on), [])
    | .cutShort => (.error (.invalidToken, c :: r), [])
  | '%', r =>
    match percentMark r with
    | .found .parameterReference _ => (.error (.parameterReference, c :: r), [])
    | .found _ on => (.error (.invalidToken, on), [])
    | .invalid on => (.error (.invalidToken, on), [])
    | .cutShort => (.error (.invalidToken, c :: r), [])
  | '\r', '\n' :: r => (.ok ['\n'], r)
  | c, r => (.ok [if c = '\r' then '\n' else c], r)

/-- The text that the value of an entity stands for. -/
def entityText (p : Placing) (text : List Char) : Except Failure (List Char) := do
  let parts := walk (fun c r =>
    let (part, rest) := entityPartAt c r
    (part, r.length - rest.length)) text
  let pieces ← parts.mapM fun part => part.mapError fun (fault, on) => ⟨fault, p.at on⟩
  return pieces.flatten

end RackElevation.Xml
