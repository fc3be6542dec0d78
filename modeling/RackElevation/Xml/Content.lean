import RackElevation.Text.Walk
import RackElevation.Xml.Fault
import RackElevation.Xml.Lexeme

/-
  Content of an element

  Content is read as a list of tokens, each with the text from it on. Character
  data comes one character at a time, with line breaks as LF. A token that
  cannot be read is the last one and holds the fault.
-/

namespace RackElevation.Xml

open Text

/-- A part of content. -/
inductive Content
  | char (c : Char)
  /-- A lone CR that ends the text. -/
  | finalBreak
  | reference (ref : Reference)
  | openTag (tag : RawTag)
  | closeTag (name : List Char)
  | cdata (text : List Char)
  | ignored
  | declaration
  /-- What stands here cannot be read; the fault lies before `on`. -/
  | broken (fault : Fault) (on : List Char)

/-- A part of content and the text from it on. -/
structure Token where
  on : List Char
  content : Content

/-- The text of a CDATA section after its opening, and what follows it; or a fault and the text
from it on. -/
def cdataBody : List Char → Except (Fault × List Char) (List Char × List Char)
  | [] => .error (.unclosedCdata, [])
  | ']' :: ']' :: '>' :: r => .ok ([], r)
  | [']', ']'] => .error (.unclosedCdata, [']', ']'])
  | [']'] => .error (.unclosedCdata, [']'])
  | ['\r'] => .error (.unclosedCdata, ['\r'])
  | '\r' :: '\n' :: r => (cdataBody r).map fun (t, rest) => ('\n' :: t, rest)
  | c :: r =>
    if isLegal c then
      (cdataBody r).map fun (t, rest) => ((if c = '\r' then '\n' else c) :: t, rest)
    else .error (.invalidToken, c :: r)

/-- The word that opens a CDATA section, after its first bracket. -/
def cdataWord : List Char := ['C', 'D', 'A', 'T', 'A', '[']

/-- What is left of a text and of a word when what both start with is dropped. -/
def dropCommon : List Char → List Char → List Char × List Char
  | c :: r, d :: word => if c = d then dropCommon r word else (c :: r, d :: word)
  | s, word => (s, word)

/-- A CDATA section after its first bracket. -/
def cdata (s : List Char) : Content × List Char :=
  if (Utf8.encode (s.take 6)).length < 6 then (.broken .unclosedToken [], [])
  else match dropCommon s cdataWord with
    | (rest, []) =>
      match cdataBody rest with
      | .ok (text, rest) => (.cdata text, rest)
      | .error (fault, on) => (.broken fault on, [])
    | (rest, _) => (.broken .invalidToken rest, [])

/-- A part of content made of a lexeme that starts where the text is `on`. -/
def ofLex {α : Type} (on : List Char) (f : α → Content) : Lex α → Content × List Char
  | .found a rest => (f a, rest)
  | .invalid rest => (.broken .invalidToken rest, [])
  | .cutShort => (.broken .unclosedToken on, [])

/-- Markup after its angle bracket, where `on` is the text from the bracket on. -/
def markup (on s : List Char) : Content × List Char :=
  match s with
  | [] => (.broken .unclosedToken on, [])
  | ['!'] => (.broken .unclosedToken on, [])
  | '!' :: '-' :: r => ofLex on (fun _ => .ignored) (comment r)
  | '!' :: '[' :: r =>
    match cdata r with
    | (.broken .unclosedToken _, rest) => (.broken .unclosedToken on, rest)
    | other => other
  | '!' :: r => (.broken .invalidToken r, [])
  | '?' :: r => ofLex on (fun isDeclaration => if isDeclaration then .declaration else .ignored)
      (instruction r)
  | '/' :: r => ofLex on .closeTag (endTag r)
  | r => ofLex on .openTag (startTag r)

/-- The part of content that starts with a character, and what follows it. -/
def contentAt (c : Char) (r : List Char) : Content × List Char :=
  match c, r with
  | '<', r => markup (c :: r) r
  | '&', r => ofLex (c :: r) .reference (reference r)
  | ']', ']' :: '>' :: r => (.broken .invalidToken ('>' :: r), [])
  | '\r', [] => (.finalBreak, [])
  | '\r', '\n' :: r => (.char '\n', r)
  | '\r', r => (.char '\n', r)
  | c, r => if isLegal c then (.char c, r) else (.broken .invalidToken (c :: r), [])

/-- The tokens of content. -/
def tokens (s : List Char) : List Token :=
  walk (fun c r =>
    let (content, rest) := contentAt c r
    (⟨c :: r, content⟩, r.length - rest.length)) s

end RackElevation.Xml
