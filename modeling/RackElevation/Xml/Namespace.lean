import RackElevation.Xml.Element
import RackElevation.Xml.Entity

/-
  Namespaces

  A name may start with a shorthand for a namespace and a colon. Attributes of
  an element bind shorthands, or the namespace of elements without one, for the
  element and what is in it. The shorthands xml and xmlns are reserved.
-/

namespace RackElevation.Xml

/-- The namespace of the shorthand xml. -/
def xmlNamespace : List Char := "http://www.w3.org/XML/1998/namespace".toList

/-- The namespace of the shorthand xmlns. -/
def xmlnsNamespace : List Char := "http://www.w3.org/2000/xmlns/".toList

/-- The namespaces of shorthands, the innermost binding first; the empty shorthand is that of
elements without one. -/
abbrev Bindings := List (List Char × List Char)

/-- The bindings of every document. -/
def initialBindings : Bindings := [(['x', 'm', 'l'], xmlNamespace)]

/-- The namespace that a shorthand is bound to. -/
def Bindings.space? (b : Bindings) (shorthand : List Char) : Option (List Char) :=
  (b.find? fun e => e.1 == shorthand).map (·.2)

/-- Checks that a shorthand may be bound to a namespace. -/
def checkBinding (shorthand space : List Char) : Except Fault Unit :=
  if space.isEmpty && !shorthand.isEmpty then .error .emptyNamespace
  else if shorthand = "xmlns".toList then .error .reboundXmlns
  else if space.contains '}' then .error .syntaxError
  else if shorthand = "xml".toList then
    if space = xmlNamespace then .ok () else .error .reboundXml
  else if space = xmlNamespace ∨ space = xmlnsNamespace then .error .reservedNamespace
  else .ok ()

/-- A name as it stands, cut at its colon. -/
def cutName (name : List Char) : List Char × List Char :=
  match name.dropWhile (· != ':') with
  | _ :: base => (name.takeWhile (· != ':'), base)
  | [] => ([], name)

/-- The shorthand that an attribute binds, if it is such an attribute. -/
def boundShorthand? (name : List Char) : Option (List Char) :=
  if name = "xmlns".toList then some []
  else match cutName name with
    | (shorthand, base) => if shorthand = "xmlns".toList then some base else none

/-- An attribute after its value is known, its name as it stands. -/
structure PlainAttribute where
  name : List Char
  value : List Char

/-- The attributes of a tag with their values, where `whole` is the place of the tag. -/
def specified (d : Doctype) (element : List Char) (opened : List (List Char))
    (whole : Nat) (inEntity : Bool) (seen : List (List Char)) :
    Bindings → List RawAttribute → Except Failure (Bindings × List PlainAttribute × List (List Char))
  | scope, [] => .ok (scope, [], seen)
  | scope, a :: rest => do
    if seen.contains a.name then
      throw ⟨.duplicateAttribute, if inEntity then whole else a.nameOn.length⟩
    let isCdata := ((d.declared? element a.name).map (·.isCdata)).getD true
    let placing : Placing := ⟨whole, if inEntity then none else some a.valueEnd⟩
    let value ← attributeValue d isCdata opened placing a.value
    match boundShorthand? a.name with
    | some shorthand =>
      (checkBinding shorthand value).mapError fun fault => (⟨fault, whole⟩ : Failure)
      specified d element opened whole inEntity (a.name :: seen) ((shorthand, value) :: scope) rest
    | none =>
      let (scope, others, seen) ← specified d element opened whole inEntity (a.name :: seen) scope rest
      return (scope, ⟨a.name, value⟩ :: others, seen)

/-- The attributes that a tag has by default. -/
def defaulted (whole : Nat) (seen : List (List Char)) :
    Bindings → List AttributeDeclaration → Except Failure (Bindings × List PlainAttribute)
  | scope, [] => .ok (scope, [])
  | scope, a :: rest =>
    match a.default with
    | none => defaulted whole seen scope rest
    | some value =>
      if seen.contains a.name then defaulted whole seen scope rest
      else match boundShorthand? a.name with
        | some shorthand => do
          (checkBinding shorthand value).mapError fun fault => (⟨fault, whole⟩ : Failure)
          defaulted whole seen ((shorthand, value) :: scope) rest
        | none => do
          let (scope, others) ← defaulted whole seen scope rest
          return (scope, ⟨a.name, value⟩ :: others)

/-- Attributes with the namespaces of their names; two with a shorthand must not have one name. -/
def resolveAttributes (scope : Bindings) (whole : Nat) (seen : List Name) :
    List PlainAttribute → Except Failure (List Attribute)
  | [] => .ok []
  | a :: rest =>
    match cutName a.name with
    | ([], base) => do
      let others ← resolveAttributes scope whole seen rest
      return ⟨⟨[], base⟩, a.value⟩ :: others
    | (shorthand, base) =>
      match scope.space? shorthand with
      | none => .error ⟨.unboundShorthand, whole⟩
      | some space => do
        if seen.contains ⟨space, base⟩ then throw ⟨.duplicateAttribute, whole⟩
        let others ← resolveAttributes scope whole (⟨space, base⟩ :: seen) rest
        return ⟨⟨space, base⟩, a.value⟩ :: others

/-- The name of an element with its namespace. -/
def resolveElement (scope : Bindings) (whole : Nat) (name : List Char) : Except Failure Name :=
  match cutName name with
  | ([], base) => .ok ⟨(scope.space? []).getD [], base⟩
  | (shorthand, base) =>
    match scope.space? shorthand with
    | some space => .ok ⟨space, base⟩
    | none => .error ⟨.unboundShorthand, whole⟩

/-- The bindings inside the element of a tag, its name and its attributes. -/
def resolveTag (d : Doctype) (scope : Bindings) (opened : List (List Char)) (whole : Nat)
    (inEntity : Bool) (tag : RawTag) : Except Failure (Bindings × Name × List Attribute) := do
  let (scope, given, seen) ← specified d tag.name opened whole inEntity [] scope tag.attributes
  let declared := d.attributes.filter fun a => a.element == tag.name
  let (scope, extra) ← defaulted whole seen scope declared
  let attributes ← resolveAttributes scope whole [] (given ++ extra)
  let name ← resolveElement scope whole tag.name
  return (scope, name, attributes)

end RackElevation.Xml
