import RackElevation.Text.Cut

/-
  Routes

  What a path of the service asks for, and by which methods it may be asked. A
  path that leads somewhere only once doubled slashes are made one is answered
  with the better path.

  What is proved:
    1. `ofSegments?_render` — the path of the default dialect.
    2. `ofSegments?_dialect` — any other name below it is a dialect.
-/

namespace RackElevation

open Text

/-- What is asked for. -/
inductive Route
  | index
  | render
  | renderAs (dialect : List Char)
  /-- A file of the service, of which there are none. -/
  | asset
  deriving DecidableEq, Repr

namespace Route

/-- The name of the folder of files. -/
def assetFolder : List Char := "static".toList

/-- The name that drawings are asked for under. -/
def renderName : List Char := "render".toList

/-- The route of a path, given as the names behind its slashes. -/
def ofSegments? : List (List Char) → Option Route
  | [[]] => some .index
  | [a] => if a = renderName then some .render else none
  | a :: b :: rest =>
    if a = renderName then
      if rest.isEmpty ∧ !b.isEmpty then some (.renderAs b) else none
    else if a = assetFolder then
      if b.isEmpty ∨ ((join '/' (b :: rest)).drop 1).contains '\n' then none else some .asset
    else none
  | [] => none

/-- The methods of a route. -/
def methods : Route → List String
  | .index => ["GET", "HEAD", "OPTIONS"]
  | .asset => ["GET", "HEAD", "OPTIONS"]
  | .render => ["POST", "OPTIONS"]
  | .renderAs _ => ["POST", "OPTIONS"]

/-- A path in which two slashes in a row are made one, pair by pair. -/
def mergeSlashes : List Char → List Char
  | '/' :: '/' :: r => '/' :: mergeSlashes r
  | c :: r => c :: mergeSlashes r
  | [] => []

/-- The route of a path that starts with one slash. -/
def ofPath? (path : List Char) : Option Route := ofSegments? (fields '/' (path.drop 1))

/-- Where a request leads. -/
inductive Target
  | found (r : Route)
  | moved (path : List Char)
  | wrongMethod
  | nowhere
  deriving DecidableEq, Repr

/-- Where a request with a path leads. -/
def target (method : String) (path : List Char) : Target :=
  if path.isEmpty then
    if Route.index.methods.contains method then .moved ['/'] else .nowhere
  else
    let path := '/' :: path.dropWhile (· == '/')
    let merged := mergeSlashes path
    let allows (r : Route) : Bool := r.methods.contains method
    match ofPath? path, ofPath? merged with
    | some r, m =>
      if allows r then .found r
      else if m.any allows then .moved merged
      else .wrongMethod
    | none, some r => if allows r then .moved merged else .wrongMethod
    | none, none => .nowhere

theorem ofSegments?_render : ofSegments? [renderName] = some .render := by decide

theorem ofSegments?_dialect {dialect : List Char} (h : dialect ≠ []) :
    ofSegments? [renderName, dialect] = some (.renderAs dialect) := by
  simp [ofSegments?, h]

end Route

end RackElevation
