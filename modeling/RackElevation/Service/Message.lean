import RackElevation.Data.Json
import RackElevation.Service.Form
import RackElevation.Service.Multipart
import RackElevation.Uri.Parts

/-
  Requests and responses

  A request names what it asks for by a URI and carries bytes, perhaps of a
  stated type; a response is a status, a type and a text. Responses to requests
  that lead nowhere are small pages, and all others but drawings are JSON.
-/

namespace RackElevation

open Text

/-- A request. -/
structure Request where
  method : String
  target : List Char
  body : List UInt8 := []
  contentType : Option String := none
  deriving DecidableEq, Repr

/-- A response. -/
structure Response where
  status : Nat
  mediaType : String
  body : String
  deriving DecidableEq, Repr

namespace Request

/-- The stated type of the body with its parameters. -/
def stated (r : Request) : HeaderValue := HeaderValue.ofText (r.contentType.getD "").toList

/-- The type of the body without its parameters, in small letters. -/
def mediaType (r : Request) : String := String.ofList (r.stated.word.map Char.toLower)

/-- The boundary between the parts of the body, if one is stated in ASCII. -/
def boundary? (r : Request) : Option (List UInt8) :=
  ((r.stated.option? "boundary").filter fun b => !b.isEmpty && b.all fun c => c.toNat < 0x80).map
    Utf8.encode

/-- What a body is to be read as. -/
inductive Content
  | plain
  /-- A form, with the text of the field for the source. -/
  | form (source : Option (List Char))
  /-- A form that is too long to be read. -/
  | tooLarge
  deriving DecidableEq, Repr

/-- The name of the field that holds a source. -/
def sourceName : String := "source"

/-- The longest form that is read. -/
def maxForm : Nat := 500000

/-- The form in a body; without fields where the body is no text. -/
def formContent (body : List UInt8) : Content :=
  if maxForm < body.length then .tooLarge
  else match Utf8.decode body with
    | .ok s => .form (Form.field? sourceName (Form.decode s))
    | .error _ => .form none

/-- The form in parts in a body; without fields where it is not well formed. -/
def partsContent (boundary body : List UInt8) : Content :=
  match Multipart.read boundary body with
  | .ok parts => .form (Multipart.field? sourceName parts)
  | .error .malformed => .form none
  | .error .tooLarge => .tooLarge

/-- What the body is. -/
def content (r : Request) : Content :=
  if r.mediaType = "application/x-www-form-urlencoded" then formContent r.body
  else if r.mediaType = "multipart/form-data" then
    match r.boundary? with
    | some boundary => partsContent boundary r.body
    | none => .plain
  else .plain

/-- Whether a body is too long to be read, where `limit` is the longest that is. -/
def isTooLong (limit : Int) (r : Request) : Bool := limit < r.body.length || r.content = .tooLarge

/-- The source that a request carries: the field of its form with that name, or else its body. The
body of a form is no source. -/
def source (r : Request) : String :=
  String.ofList <| match r.content with
    | .plain => Utf8.decodeLossy r.body
    | .form source => source.getD []
    | .tooLarge => []

end Request

namespace Response

/-- A page with a heading and a sentence. -/
def page (status : Nat) (name sentence : String) : Response :=
  ⟨status, "text/html",
    "<!doctype html>\n<html lang=en>\n<title>" ++ toString status ++ " " ++ name ++ "</title>\n<h1>" ++
      name ++ "</h1>\n<p>" ++ sentence ++ "</p>\n"⟩

/-- There is nothing of that name. -/
def notFound : Response :=
  page 404 "Not Found" ("The requested URL was not found on the server. " ++
    "If you entered the URL manually please check your spelling and try again.")

/-- The thing may not be asked for in this way. -/
def wrongMethod : Response :=
  page 405 "Method Not Allowed" "The method is not allowed for the requested URL."

/-- The body is too long. -/
def tooLarge : Response :=
  page 413 "Request Entity Too Large" "The data value transmitted exceeds the capacity limit."

/-- A character of a page. -/
def pageChar (c : Char) : List Char :=
  match c with
  | '&' => "&amp;".toList
  | '<' => "&lt;".toList
  | '>' => "&gt;".toList
  | '\'' => "&#39;".toList
  | '"' => "&#34;".toList
  | c => [c]

/-- The thing is to be asked for at another address. -/
def moved (address : List Char) : Response :=
  let shown := String.ofList (address.flatMap pageChar)
  ⟨308, "text/html",
    "<!doctype html>\n<html lang=en>\n<title>Redirecting...</title>\n<h1>Redirecting...</h1>\n" ++
      "<p>You should be redirected automatically to the target URL: <a href=\"" ++ shown ++ "\">" ++
      shown ++ "</a>. If not, click the link.\n"⟩

/-- A value as JSON. -/
def json (status : Nat) (v : Json) : Response := ⟨status, "application/json", v.write ++ "\n"⟩

/-- The response without its body. -/
def withoutBody (r : Response) : Response := { r with body := "" }

end Response

end RackElevation
