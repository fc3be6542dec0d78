import RackElevation.Decimal.Numeral
import RackElevation.Diagnostic
import RackElevation.Rack
import RackElevation.Text.Blank
import RackElevation.Text.Quoted
import RackElevation.Xml.Document

/-
  RackML

  Racks as an XML document: a root `racks` with a `rack` for each rack, and in
  it an element for each device, named for its kind and with the name of the
  device as its text. An element `gap` stands for nothing, and namespaces do not
  count. A height or a position is the integer its attribute starts with;
  without one the attribute counts as absent.
-/

namespace RackElevation.RackML

open Text Xml

/-- Why a document is refused. -/
inductive Error
  | malformed (fault : Malformed)
  /-- The root element is not named racks. -/
  | notRacks
  /-- A height or a position is below one. -/
  | tooLow (key : String) (element value : List Char)
  | numeral (fault : Numeral.Fault)
  deriving DecidableEq, Repr

/-- What is reported for an error, if it is one of the document. -/
def Error.diagnostic? : Error → Option Diagnostic
  | .malformed m => some ⟨"failed to parse RackML: " ++ m.message, some m.position.line⟩
  | .notRacks => some ⟨"root element must be racks", none⟩
  | .tooLow key element value =>
    some ⟨key ++ " must be at least 1 on <" ++ String.ofList element ++ ">, got " ++
      String.ofList (quote value), none⟩
  | .numeral _ => none

/-- The sign and the digits of the integer that a text starts with, after blanks. -/
def leadingInteger? (s : List Char) : Option (List Char) :=
  match trimStart s with
  | [] => none
  | c :: r =>
    if c = '+' ∨ c = '-' then
      match r.takeWhile isDigit with
      | [] => none
      | digits => some (c :: digits)
    else match (c :: r).takeWhile isDigit with
      | [] => none
      | digits => some digits

/-- The integer from one on that an attribute holds, if it holds one. -/
def integer? (key : String) (element : Name) (attributes : List Attribute) :
    Except Error (Option Int) :=
  match attributeValue? key attributes with
  | none => .ok none
  | some value =>
    match leadingInteger? value with
    | none => .ok none
    | some s => do
      let n ← (Numeral.read s).mapError Error.numeral
      if n < 1 then throw (.tooLow key element.base value)
      return some n

/-- The text of an attribute. -/
def text? (key : String) (attributes : List Attribute) : Option String :=
  (attributeValue? key attributes).map String.ofList

/-- The device of an element. -/
def device (name : Name) (attributes : List Attribute) (content : List Node) :
    Except Error Device := do
  let height ← integer? "height" name attributes
  let position ← integer? "at" name attributes
  return { kind := String.ofList name.base, name := String.ofList (trim (allText content)),
           height := height.getD 1, href := text? "href" attributes,
           color := text? "color" attributes, position := position }

/-- The devices of the children of a rack. -/
def rackChildren : List Node → Except Error (List Device)
  | [] => .ok []
  | .text _ :: rest => rackChildren rest
  | .element name attributes content :: rest =>
    if name.base = "gap".toList then rackChildren rest
    else do
      let d ← device name attributes content
      return d :: (← rackChildren rest)

/-- The rack of an element. -/
def rack (name : Name) (attributes : List Attribute) (content : List Node) : Except Error Rack := do
  let height ← integer? "height" name attributes
  let devices ← rackChildren content
  return { name := (text? "name" attributes).getD "", height := height.getD defaultRackHeight,
           devices := devices }

/-- The racks of the children of the root. -/
def rootChildren : List Node → Except Error (List Rack)
  | [] => .ok []
  | .text _ :: rest => rootChildren rest
  | .element name attributes content :: rest =>
    if name.base = "rack".toList then do
      let r ← rack name attributes content
      return r :: (← rootChildren rest)
    else rootChildren rest

/-- The rack set of an element tree. -/
def decode : Node → Except Error RackSet
  | .text _ => .error .notRacks
  | .element name attributes content =>
    if name.base = "racks".toList then do
      let racks ← rootChildren content
      return { base := text? "base" attributes, id := text? "id" attributes, racks := racks }
    else .error .notRacks

/-- The word that starts the declaration of a document. -/
def declarationStart : List Char := ['<', '?', 'x', 'm', 'l']

/-- The text that is read as a document: blanks before a declaration do not count. -/
def document (s : List Char) : List Char :=
  if declarationStart.isPrefixOf (trimStart s) then trimStart s else s

/-- The rack set of a document. -/
def parse (text : String) : Except Error RackSet := do
  let root ← (Xml.parse (document text.toList)).mapError Error.malformed
  decode root

end RackElevation.RackML
