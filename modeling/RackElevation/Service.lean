import RackElevation.Conversion
import RackElevation.Layout
import RackElevation.Service.Message
import RackElevation.Service.Route
import RackElevation.Settings

/-
  The drawing service

  A request for a drawing is judged: the dialect has to be known, the source not
  blank and well formed, and no rack too high. Only then are links resolved and
  the racks drawn. What is wrong with a source is answered, and logged as a
  warning; any other failure ends the request without an answer.

  What is proved:
    1. `judge_unknown` — a dialect that is not known is refused before anything
       is read.
    2. `judge_drawing` — no drawing shows a rack above the limit.
-/

namespace RackElevation

open Text

namespace Service

/-- What becomes of a request for a drawing. -/
inductive Verdict
  | unknownDialect (name : String)
  | empty
  | malformed (dialect : String) (d : Diagnostic)
  | tooHigh (dialect : String) (height limit : Int)
  | drawing (svg : String)
  deriving DecidableEq, Repr

/-- The resolver for the base of the settings. -/
def resolver? (s : Settings) : Option Resolver :=
  (s.linkBase.filter fun b => !b.isEmpty).map fun base => Link.resolver base.toList

/-- Judges a rack set in a dialect, and draws it if it is not too high. -/
def judgeSet (s : Settings) (dialect : String) (set : RackSet) :
    Except Conversion.Failure Verdict :=
  if set.racks.any fun r => s.maxRackHeight < r.height then
    .ok (.tooHigh dialect set.tallest s.maxRackHeight)
  else .drawing <$> Conversion.render (resolver? s) set

/-- Judges a source in a dialect. -/
def judgeSource (s : Settings) (dialect : String) (d : Dialect) (source : String) :
    Except Conversion.Failure Verdict :=
  if isBlankText source.toList then .ok .empty
  else match Source.read d source with
    | .ok set => judgeSet s dialect set
    | .error e =>
      match e.diagnostic? with
      | some g => .ok (.malformed dialect g)
      | none => .error (.source e)

/-- Judges a source in the dialect with a name. -/
def judge (s : Settings) (dialect source : String) : Except Conversion.Failure Verdict :=
  match Dialect.ofName? dialect with
  | none => .ok (.unknownDialect dialect)
  | some d => judgeSource s dialect d source

/-- The response to an error. -/
def refusal (status : Nat) (fields : List (String × Json)) : Response :=
  .json status (.record fields)

/-- The sentence for a rack that is too high. -/
def tooHighText (height limit : Int) : String :=
  "rack height " ++ toString height ++ " exceeds limit of " ++ toString limit

/-- The response to a request that was judged. -/
def Verdict.response : Verdict → Response
  | .unknownDialect name => refusal 404 [("error", .text ("unsupported dialect: " ++ name))]
  | .empty => refusal 400 [("error", .text "empty source")]
  | .malformed _ d => refusal 400 [("error", .text d.message), ("line", Json.ofInt? d.line)]
  | .tooHigh _ height limit =>
    refusal 400 [("error", .text (tooHighText height limit)), ("line", .null)]
  | .drawing svg => ⟨200, "image/svg+xml", svg⟩

/-- The warning for a request that was judged, if there is one. -/
def Verdict.warning? : Verdict → Option String
  | .malformed dialect d => some ("rejected " ++ dialect ++ " source: " ++ d.display)
  | .tooHigh dialect height _ =>
    some ("rejected " ++ dialect ++ " source: rack height " ++ toString height ++ " over limit")
  | _ => none

/-- A response, and what is logged with it. -/
structure Reply where
  response : Response
  log : String := ""
  deriving DecidableEq, Repr

/-- The reply to a request that was judged. -/
def reply (s : Settings) (v : Verdict) : Reply :=
  match v.warning? with
  | some text =>
    ⟨v.response, if s.logLevel.logs .warning then "WARNING:app:" ++ text ++ "\n" else ""⟩
  | none => ⟨v.response, ""⟩

/-- What the service can draw, and in which dialect by default. -/
def index (s : Settings) : Response :=
  .json 200 (.record [("default_dialect", .text s.dialect),
    ("dialects", .list (Dialect.names.map .text))])

/-- Draws the source of a request in the dialect with a name. -/
def render (s : Settings) (dialect : String) (r : Request) : Except Conversion.Failure Reply :=
  if (Dialect.ofName? dialect).isSome && r.isTooLong s.maxContentLength then
    .ok ⟨.tooLarge, ""⟩
  else (judge s dialect r.source).map (reply s)

/-- Why a request has no reply. -/
inductive Failure
  | target (fault : Uri.Fault)
  | conversion (e : Conversion.Failure)
  deriving DecidableEq, Repr

/-- The characters of a path that are left as they are in an address. -/
def pathChars : List Char := "!$&'()*+,/:;=@".toList

/-- The address that a request is sent to instead. -/
def address (target : Uri.Parts) (path : List Char) : List Char :=
  let host := if target.authority.isEmpty then "localhost".toList else target.authority
  "http://".toList ++ host ++ Percent.encodeKeeping pathChars path ++ Uri.marked '?' target.query

/-- The path of a target, its escapes decoded. -/
def path (target : Uri.Parts) : List Char :=
  Utf8.decodeLossy (Percent.decode (Utf8.encode target.path))

/-- The reply of a route to a method that it allows. -/
def serve (s : Settings) (r : Request) (method : String) (route : Route) : Except Failure Reply :=
  if method = "OPTIONS" then .ok ⟨⟨200, "text/html", ""⟩, ""⟩
  else match route with
    | .index => .ok ⟨index s, ""⟩
    | .asset => .ok ⟨.notFound, ""⟩
    | .render => (render s s.dialect r).mapError .conversion
    | .renderAs dialect => (render s (String.ofList dialect) r).mapError .conversion

/-- The reply to a request. -/
def answer (s : Settings) (r : Request) : Except Failure Reply := do
  let target ← (Uri.splitWhole [] r.target).mapError .target
  let method := r.method.toUpper
  let reply ← match Route.target method (path target) with
    | .found route => serve s r method route
    | .moved path => .ok ⟨.moved (address target path), ""⟩
    | .wrongMethod => .ok ⟨.wrongMethod, ""⟩
    | .nowhere => .ok ⟨.notFound, ""⟩
  return if method = "HEAD" then { reply with response := reply.response.withoutBody } else reply

theorem judge_unknown (s : Settings) {dialect : String} (source : String)
    (h : dialect ∉ Dialect.names) : judge s dialect source = .ok (.unknownDialect dialect) := by
  have : Dialect.ofName? dialect = none := by
    rw [← Option.not_isSome_iff_eq_none, Dialect.ofName?_isSome]
    exact h
  simp [judge, this]

theorem judge_drawing {s : Settings} {dialect : String} {set : RackSet} {svg : String}
    (h : judgeSet s dialect set = .ok (.drawing svg)) :
    ∀ r ∈ set.racks, r.height ≤ s.maxRackHeight := by
  unfold judgeSet at h
  split at h
  · simp at h
  · next hn => simpa using hn

end Service

end RackElevation
