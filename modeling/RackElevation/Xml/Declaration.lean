import RackElevation.Xml.Prolog

/-
  The declaration of a document

  A declaration names a version, then perhaps an encoding, then perhaps whether
  the document stands alone, each a name and a value in quotes. The encoding is
  checked for its form only.
-/

namespace RackElevation.Xml

/-- A name with a value, and the text from each of the two on. -/
structure Setting where
  name : List Char
  nameOn : List Char
  value : List Char
  valueOn : List Char

/-- Whether a character may stand in a value of a declaration. -/
def isSettingChar (c : Char) : Bool := c.isAlphanum || c == '.' || c == '-' || c == '_'

/-- Whether a character may stand in the name of a setting. -/
def isSettingNameChar (c : Char) : Bool := c.toNat < 0x80 && c != '=' && !isSpace c

/-- The next setting and what follows it, none if only blanks are left; or the text from the
character on that cannot stand where it is. -/
def setting? (s : List Char) : Except (List Char) (Option (Setting × List Char)) :=
  match s with
  | [] => .ok none
  | c :: _ =>
    if !isSpace c then .error s
    else
      let nameOn := s.dropWhile isSpace
      if nameOn.isEmpty then .ok none
      else
        let name := nameOn.takeWhile isSettingNameChar
        match (nameOn.dropWhile isSettingNameChar).dropWhile isSpace with
        | '=' :: r =>
          if name.isEmpty then .error nameOn
          else match r.dropWhile isSpace with
            | [] => .error []
            | q :: valueOn =>
              if q ≠ '"' ∧ q ≠ '\'' then .error (q :: valueOn)
              else match valueOn.dropWhile isSettingChar with
                | [] => .error []
                | d :: rest =>
                  if d = q then
                    .ok (some (⟨name, nameOn, valueOn.takeWhile isSettingChar, valueOn⟩, rest))
                  else .error (d :: rest)
        | rest => .error rest

/-- The rest of a declaration from its last setting on: whether the document stands alone. -/
def lastSetting (s : Setting) (rest : List Char) : Except (List Char) Bool :=
  if s.name ≠ "standalone".toList then .error s.nameOn
  else if s.value ≠ "yes".toList ∧ s.value ≠ "no".toList then .error s.valueOn
  else if !(rest.dropWhile isSpace).isEmpty then .error (rest.dropWhile isSpace)
  else .ok (s.value = "yes".toList)

/-- Whether a declaration says that the document stands alone; or the part of its body from the
character on that cannot stand where it is. -/
def isStandalone (body : List Char) : Except (List Char) Bool := do
  match ← setting? body with
  | none => .error body
  | some (version, rest) =>
    if version.name ≠ "version".toList then .error version.nameOn
    else match ← setting? rest with
      | none => return false
      | some (second, rest) =>
        if second.name ≠ "encoding".toList then lastSetting second rest
        else if !(second.value.head?.any Char.isAlpha) then .error second.valueOn
        else match ← setting? rest with
          | none => return false
          | some (third, rest) => lastSetting third rest

end RackElevation.Xml
