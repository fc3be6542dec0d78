import RackElevation.Text.Walk
import RackElevation.Xml.Fault
import RackElevation.Xml.Lexeme

/-
  Marks before and after the root element

  What stands outside the root element is read as a list of marks, each with
  the text from it on: comments, declarations and the parts of declarations. A
  mark that cannot be read is the last one and holds the fault.
-/

namespace RackElevation.Xml

open Text

/-- How the colons of a name stand. -/
inductive NameKind
  /-- A name without a colon. -/
  | plain
  /-- Two names around a colon. -/
  | qualified
  /-- Any other run of name characters and colons. -/
  | token
  deriving DecidableEq, Repr

/-- A part of what stands outside the root element. -/
inductive Mark
  | space
  | ignored
  /-- The declaration of the document: what stands between its target and its end. -/
  | declaration (body : List Char) (rest : List Char)
  | openDeclaration (keyword : List Char)
  | openSection
  | closeSection
  | rootTag
  /-- A text in quotes, and the document from its closing quote on. -/
  | literal (value : List Char) (valueEnd : List Char)
  | name (kind : NameKind) (name : List Char)
  | countedName
  | hashName (name : List Char)
  | percent
  | parameterReference
  | openBracket
  | closeBracket
  | openParen
  | closeParen (counted : Bool) (starred : Bool)
  | bar
  | comma
  | close
  | broken (fault : Fault) (on : List Char)

/-- A mark and the text from it on. -/
structure Placed where
  on : List Char
  mark : Mark

/-- Whether a character may follow a name in a declaration. -/
def endsName (c : Char) : Bool :=
  isSpace c || c == '>' || c == ')' || c == ',' || c == '|' || c == '[' || c == '%'

/-- The rest of a name of a kind: the kind it turns out to be, its characters, and whether a
quantifier ends it. -/
def nameRest (kind : NameKind) : List Char → Lex (NameKind × List Char × Bool)
  | [] => .found (kind, [], false) []
  | c :: r =>
    if isNameChar c then (nameRest kind r).map fun (k, n, q) => (k, c :: n, q)
    else if c = ':' then
      match kind, r with
      | .plain, [] => .cutShort
      | .plain, d :: _ =>
        (nameRest (if isNameChar d then .qualified else .token) r).map fun (k, n, q) => (k, c :: n, q)
      | _, _ => (nameRest .token r).map fun (k, n, q) => (k, c :: n, q)
    else if endsName c then .found (kind, [], false) (c :: r)
    else if (c = '+' ∨ c = '*' ∨ c = '?') ∧ kind ≠ .token then .found (kind, [], true) r
    else .invalid (c :: r)

/-- A name that starts with a character. -/
def nameMark (c : Char) (r : List Char) : Lex Mark :=
  if isNameStart c ∨ isNameChar c ∨ c = ':' then
    (nameRest (if isNameStart c then .plain else .token) r).map fun (kind, n, counted) =>
      if counted then .countedName else .name kind (c :: n)
  else .invalid (c :: r)

/-- The text in quotes up to the closing one, which has to be followed by certain characters. -/
def literalUpTo (quote : Char) : List Char → Lex (List Char × List Char)
  | [] => .cutShort
  | c :: r =>
    if c = quote then
      match r with
      | [] => .found ([], c :: r) []
      | d :: _ =>
        if isSpace d || d == '>' || d == '%' || d == '[' then .found ([], c :: r) r else .invalid r
    else if isLegal c then (literalUpTo quote r).map fun (v, e) => (c :: v, e)
    else .invalid (c :: r)

/-- A percent sign, or the reference it starts. -/
def percentMark (s : List Char) : Lex Mark :=
  match s with
  | [] => .cutShort
  | c :: _ =>
    if isSpace c || c == '%' then .found .percent s
    else (takeName s).bind fun _ rest =>
      match rest with
      | [] => .cutShort
      | ';' :: r => .found .parameterReference r
      | r => .invalid r

/-- A name after a number sign. -/
def hashMark (s : List Char) : Lex Mark :=
  (takeName s).bind fun name rest =>
    match rest with
    | [] => .found (.hashName name) []
    | c :: _ =>
      if isSpace c || c == ')' || c == '>' || c == '%' || c == '|' then .found (.hashName name) rest
      else .invalid rest

/-- Whether a character may stand in the keyword of a declaration. -/
def isKeywordChar (c : Char) : Bool := c.isAlpha || c == '_'

/-- A declaration after `<!`. -/
def openingMark (s : List Char) : Lex Mark :=
  match s with
  | [] => .cutShort
  | '-' :: r => (comment r).map fun _ => .ignored
  | '[' :: r => .found .openSection r
  | c :: r =>
    if !isKeywordChar c then .invalid (c :: r)
    else
      let keyword := c :: r.takeWhile isKeywordChar
      match r.dropWhile isKeywordChar with
      | [] => .cutShort
      | ['%'] => .cutShort
      | '%' :: d :: rest =>
        if isSpace d || d == '%' then .invalid ('%' :: d :: rest)
        else .found (.openDeclaration keyword) ('%' :: d :: rest)
      | d :: rest =>
        if isSpace d then .found (.openDeclaration keyword) (d :: rest) else .invalid (d :: rest)

/-- An instruction or the declaration of the document, after `<?`. -/
def instructionMark (s : List Char) : Lex Mark :=
  match instruction s with
  | .found isDeclaration rest =>
    if isDeclaration then
      .found (.declaration ((s.drop 3).take (s.length - 3 - rest.length - 2)) rest) rest
    else .found .ignored rest
  | .invalid rest => .invalid rest
  | .cutShort => .cutShort

/-- Markup after its angle bracket, where `on` is the text from the bracket on. -/
def tagMark (on s : List Char) : Lex Mark :=
  match s with
  | [] => .cutShort
  | '!' :: r => openingMark r
  | '?' :: r => instructionMark r
  | c :: r => if isNameStart c ∨ 0x80 ≤ c.toNat then .found .rootTag on else .invalid (c :: r)

/-- A closing parenthesis with its quantifier. -/
def closeParenMark (s : List Char) : Lex Mark :=
  match s with
  | [] => .found (.closeParen false false) []
  | '*' :: r => .found (.closeParen true true) r
  | '?' :: r => .found (.closeParen true false) r
  | '+' :: r => .found (.closeParen true false) r
  | c :: r =>
    if isSpace c || c == '>' || c == ',' || c == '|' || c == ')' then
      .found (.closeParen false false) (c :: r)
    else .invalid (c :: r)

/-- The mark that starts with a character, and what follows it. -/
def markAt (c : Char) (r : List Char) : Lex Mark :=
  match c, r with
  | '"', r => (literalUpTo '"' r).map fun (v, e) => .literal v e
  | '\'', r => (literalUpTo '\'' r).map fun (v, e) => .literal v e
  | '<', r => tagMark (c :: r) r
  | '%', r => percentMark r
  | ',', r => .found .comma r
  | '[', r => .found .openBracket r
  | ']', ']' :: '>' :: r => .found .closeSection r
  | ']', [']'] => .cutShort
  | ']', r => .found .closeBracket r
  | '(', r => .found .openParen r
  | ')', r => closeParenMark r
  | '|', r => .found .bar r
  | '>', r => .found .close r
  | '#', r => hashMark r
  | c, r => if isSpace c then .found .space r else nameMark c r

/-- The marks of a text. -/
def marks (s : List Char) : List Placed :=
  walk (fun c r =>
    match markAt c r with
    | .found mark rest => (⟨c :: r, mark⟩, r.length - rest.length)
    | .invalid on => (⟨c :: r, .broken .invalidToken on⟩, r.length)
    | .cutShort => (⟨c :: r, .broken .unclosedToken (c :: r)⟩, r.length)) s

end RackElevation.Xml
