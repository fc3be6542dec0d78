import RackElevation.Xml.Name

/-
  Lexemes of XML

  The units that are read character by character: comments, processing
  instructions, references, tags. Reading one ends in one of three ways: it is
  found, a character cannot go on with it, or the document ends inside it.

  What is proved:
    1. `takeName_append` — a name and what follows it give back the text.
-/

namespace RackElevation.Xml

/-- The outcome of reading a lexeme. -/
inductive Lex (α : Type)
  /-- The lexeme and what follows it. -/
  | found (a : α) (rest : List Char)
  /-- The first character of `rest` cannot stand where it is. -/
  | invalid (rest : List Char)
  /-- The text ends inside the lexeme. -/
  | cutShort

/-- Applies a function to what was found. -/
def Lex.map {α β : Type} (f : α → β) : Lex α → Lex β
  | .found a rest => .found (f a) rest
  | .invalid rest => .invalid rest
  | .cutShort => .cutShort

/-- Goes on with what was found and the text after it. -/
def Lex.bind {α β : Type} (x : Lex α) (f : α → List Char → Lex β) : Lex β :=
  match x with
  | .found a rest => f a rest
  | .invalid rest => .invalid rest
  | .cutShort => .cutShort

/-- The rest of a comment after its opening. -/
def commentBody : List Char → Lex Unit
  | [] => .cutShort
  | '-' :: '-' :: '>' :: r => .found () r
  | '-' :: '-' :: c :: r => .invalid (c :: r)
  | ['-', '-'] => .cutShort
  | c :: r => if isLegal c then commentBody r else .invalid (c :: r)

/-- A comment after its first hyphen. -/
def comment (s : List Char) : Lex Unit :=
  match s with
  | [] => .cutShort
  | '-' :: r => commentBody r
  | r => .invalid r

/-- The rest of an instruction after its target and a blank. -/
def instructionBody : List Char → Lex Unit
  | [] => .cutShort
  | '?' :: '>' :: r => .found () r
  | c :: r => if isLegal c then instructionBody r else .invalid (c :: r)

/-- A name without a colon. -/
def takeName (s : List Char) : Lex (List Char) :=
  match s with
  | [] => .cutShort
  | c :: r =>
    if isNameStart c then .found (c :: r.takeWhile isNameChar) (r.dropWhile isNameChar)
    else .invalid (c :: r)

/-- Whether the target of an instruction is the word xml in lower case. -/
def isDeclarationTarget (target : List Char) : Bool := target == ['x', 'm', 'l']

/-- Whether the target of an instruction is the word xml in other letters. -/
def isReservedTarget (target : List Char) : Bool :=
  target.map Char.toLower == ['x', 'm', 'l'] && !isDeclarationTarget target

/-- An instruction after `<?`, and whether it is a declaration. -/
def instruction (s : List Char) : Lex Bool :=
  (takeName s).bind fun target rest =>
    match rest with
    | [] => .cutShort
    | c :: r =>
      if isSpace c || c == '?' then
        if isReservedTarget target then .invalid rest
        else if isSpace c then (instructionBody r).map fun _ => isDeclarationTarget target
        else match r with
          | [] => .cutShort
          | '>' :: r => .found (isDeclarationTarget target) r
          | r => .invalid r
      else .invalid rest

/-- What a reference refers to: an entity, or a character by its number. -/
inductive Reference
  | entity (name : List Char)
  /-- No character has the number if there is no value. -/
  | character (c : Option Char)
  deriving DecidableEq, Repr

/-- The value of a hexadecimal digit. -/
def hexValue? (c : Char) : Option Nat :=
  if c.isDigit then some (c.toNat - 48)
  else if 'a' ≤ c && c ≤ 'f' then some (c.toNat - 87)
  else if 'A' ≤ c && c ≤ 'F' then some (c.toNat - 55)
  else none

/-- The character with a number, if a document may hold it. -/
def character? (n : Nat) : Option Char :=
  if n.isValidChar then
    let c := Char.ofNat n
    if isLegal c then some c else none
  else none

/-- Digits up to a semicolon. -/
def characterNumber (base : Nat) (isDigit : Char → Bool) (s : List Char) : Lex Reference :=
  match s.takeWhile isDigit, s.dropWhile isDigit with
  | _, [] => .cutShort
  | [], rest => .invalid rest
  | digits, ';' :: rest =>
    .found (.character (character? (digits.foldl (fun n c => base * n + (hexValue? c).getD 0) 0))) rest
  | _, rest => .invalid rest

/-- A reference after its ampersand. -/
def reference (s : List Char) : Lex Reference :=
  match s with
  | '#' :: 'x' :: r => characterNumber 16 (fun c => (hexValue? c).isSome) r
  | '#' :: r => characterNumber 10 Char.isDigit r
  | s => (takeName s).bind fun name rest =>
    match rest with
    | [] => .cutShort
    | ';' :: r => .found (.entity name) r
    | r => .invalid r

/-- A name with at most one colon, which has a name on both sides. -/
def qualifiedName (s : List Char) : Lex (List Char) :=
  (takeName s).bind fun first rest =>
    match rest with
    | ':' :: r => (takeName r).map fun second => first ++ ':' :: second
    | r => .found first r

/-- Where in a value a character stands with respect to references. -/
inductive RefState
  | outside
  | ampersand
  | name
  | hash
  | decimal
  | hexMark
  | hex
  deriving DecidableEq, Repr

/-- The state after one more character of a value, none if it cannot stand there. -/
def refStep (state : RefState) (c : Char) : Option RefState :=
  match state with
  | .outside =>
    if c = '&' then some .ampersand
    else if c = '<' then none
    else if isLegal c then some .outside
    else none
  | .ampersand => if c = '#' then some .hash else if isNameStart c then some .name else none
  | .name => if c = ';' then some .outside else if isNameChar c then some .name else none
  | .hash => if c = 'x' then some .hexMark else if c.isDigit then some .decimal else none
  | .decimal => if c = ';' then some .outside else if c.isDigit then some .decimal else none
  | .hexMark => if (hexValue? c).isSome then some .hex else none
  | .hex => if c = ';' then some .outside else if (hexValue? c).isSome then some .hex else none

/-- A value up to its closing quote. -/
def valueUpTo (quote : Char) (state : RefState) : List Char → Lex (List Char)
  | [] => .cutShort
  | c :: r =>
    if state = .outside ∧ c = quote then .found [] r
    else match refStep state c with
      | some state => (valueUpTo quote state r).map (c :: ·)
      | none => .invalid (c :: r)

/-- An attribute as it stands in a tag, with the text from its name on and from the end of its
value on. -/
structure RawAttribute where
  name : List Char
  nameOn : List Char
  value : List Char
  valueEnd : List Char

/-- A start tag as it stands. -/
structure RawTag where
  name : List Char
  attributes : List RawAttribute
  isEmpty : Bool

/-- A value in quotes, after blanks. -/
def quotedValue (s : List Char) : Lex (List Char) :=
  match s.dropWhile isSpace with
  | [] => .cutShort
  | c :: r => if c = '"' ∨ c = '\'' then valueUpTo c .outside r else .invalid (c :: r)

/-- An attribute; the text after it starts behind its closing quote. -/
def rawAttribute (s : List Char) : Lex RawAttribute :=
  (qualifiedName s).bind fun name rest =>
    match rest.dropWhile isSpace with
    | [] => .cutShort
    | '=' :: r => (quotedValue r).bind fun value rest =>
      .found ⟨name, s, value, r.drop (r.length - rest.length - 1)⟩ rest
    | r => .invalid r

/-- The end of a start tag: whether the element is empty. -/
def tagEnd (s : List Char) : Lex Bool :=
  match s with
  | [] => .cutShort
  | '>' :: r => .found false r
  | ['/'] => .cutShort
  | '/' :: '>' :: r => .found true r
  | '/' :: r => .invalid r
  | r => .invalid r

/-- What follows a part of a start tag: its end, or after blanks one more attribute. -/
def afterTagPart (s : List Char) : Lex (Option Bool) :=
  match s, s.dropWhile isSpace with
  | [], _ => .cutShort
  | c :: _, rest =>
    if isSpace c then
      match rest with
      | [] => .cutShort
      | d :: r => if isNameStart d then .found none (d :: r) else (tagEnd (d :: r)).map some
    else (tagEnd s).map some

/-- The attributes of a tag, the first starting `skip` characters further on, and its end. -/
def attributesFrom (skip : Nat) : List Char → Lex (List RawAttribute × Bool)
  | [] => .cutShort
  | c :: r =>
    match skip with
    | n + 1 => attributesFrom n r
    | 0 =>
      match rawAttribute (c :: r) with
      | .invalid rest => .invalid rest
      | .cutShort => .cutShort
      | .found a rest =>
        match afterTagPart rest with
        | .invalid rest => .invalid rest
        | .cutShort => .cutShort
        | .found (some isEmpty) rest => .found ([a], isEmpty) rest
        | .found none rest =>
          (attributesFrom (r.length - rest.length) r).map fun (l, isEmpty) => (a :: l, isEmpty)

/-- A start tag after its angle bracket. -/
def startTag (s : List Char) : Lex RawTag :=
  (qualifiedName s).bind fun name rest =>
    (afterTagPart rest).bind fun more rest =>
      match more with
      | some isEmpty => .found ⟨name, [], isEmpty⟩ rest
      | none => (attributesFrom 0 rest).map fun (l, isEmpty) => ⟨name, l, isEmpty⟩

/-- An end tag after its slash; colons may stand anywhere in its name but at the start. -/
def endTag (s : List Char) : Lex (List Char) :=
  match s with
  | [] => .cutShort
  | c :: r =>
    if isNameStart c then
      let goesOn (d : Char) : Bool := isNameChar d || d == ':'
      match (r.dropWhile goesOn).dropWhile isSpace with
      | [] => .cutShort
      | '>' :: rest => .found (c :: r.takeWhile goesOn) rest
      | rest => .invalid rest
    else .invalid (c :: r)

theorem takeName_append {s name rest : List Char} (h : takeName s = .found name rest) :
    name ++ rest = s := by
  unfold takeName at h
  split at h
  · cases h
  · split at h
    · simp only [Lex.found.injEq] at h
      rw [← h.1, ← h.2, List.cons_append, List.takeWhile_append_dropWhile]
    · cases h

end RackElevation.Xml
