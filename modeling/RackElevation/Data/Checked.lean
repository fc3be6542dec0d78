import RackElevation.Text.Utf8
import RackElevation.Text.Blank
import RackElevation.Decimal.Numeral
import RackElevation.Data.Value

/-
  Checked data

  Untyped data is checked against what it should be. A check gives a value or
  every issue it found, each with the path of fields and indexes that leads to
  it. Integers may also be given as booleans, whole fractions and numerals. Only
  settings, which come from YAML, have texts in which surrogates are let through.

  What is proved:
    1. `atLeast_bound` — a checked bound holds.
-/

namespace RackElevation.Data

open Text

/-- One step of a path into data. -/
inductive Step
  | field (name : String)
  | index (n : Nat)
  deriving DecidableEq, Repr

/-- What is wrong with a value. -/
inductive Problem
  | missing
  | extra
  | notText
  | undecodableText
  | notInteger
  | unreadableInteger
  | oversizedInteger
  | fractional
  | notFinite
  | tooLow (least : Int)
  | notAbove (bound : Int)
  | notList
  | notRecord (model : String)
  | keyNotText
  | rejected (reason : String)
  deriving DecidableEq, Repr

/-- The name of a kind of problem. -/
def Problem.code : Problem → String
  | .missing => "missing"
  | .extra => "extra_forbidden"
  | .notText => "string_type"
  | .undecodableText => "string_unicode"
  | .notInteger => "int_type"
  | .unreadableInteger => "int_parsing"
  | .oversizedInteger => "int_parsing_size"
  | .fractional => "int_from_float"
  | .notFinite => "finite_number"
  | .tooLow _ => "greater_than_equal"
  | .notAbove _ => "greater_than"
  | .notList => "list_type"
  | .notRecord _ => "model_type"
  | .keyNotText => "invalid_key"
  | .rejected _ => "value_error"

/-- The sentence for a problem. -/
def Problem.message : Problem → String
  | .missing => "Field required"
  | .extra => "Extra inputs are not permitted"
  | .notText => "Input should be a valid string"
  | .undecodableText => "Input should be a valid string, unable to parse raw data as a unicode string"
  | .notInteger => "Input should be a valid integer"
  | .unreadableInteger => "Input should be a valid integer, unable to parse string as an integer"
  | .oversizedInteger => "Unable to parse input string as an integer, exceeded maximum size"
  | .fractional => "Input should be a valid integer, got a number with a fractional part"
  | .notFinite => "Input should be a finite number"
  | .tooLow n => "Input should be greater than or equal to " ++ toString n
  | .notAbove n => "Input should be greater than " ++ toString n
  | .notList => "Input should be a valid list"
  | .notRecord model => "Input should be a valid dictionary or instance of " ++ model
  | .keyNotText => "Keys should be strings"
  | .rejected reason => "Value error, " ++ reason

/-- A problem and where it is. -/
structure Issue where
  path : List Step
  problem : Problem
  deriving DecidableEq, Repr

/-- The outcome of a check. -/
inductive Checked (α : Type)
  | accepted (a : α)
  | refused (issues : List Issue)
  deriving Repr

namespace Checked

/-- Both outcomes together. -/
def seq {α β : Type} (f : Checked (α → β)) (a : Unit → Checked α) : Checked β :=
  match f, a () with
  | .accepted f, .accepted a => .accepted (f a)
  | .accepted _, .refused y => .refused y
  | .refused x, .accepted _ => .refused x
  | .refused x, .refused y => .refused (x ++ y)

instance : Applicative Checked where
  pure := .accepted
  seq := seq

/-- One issue. -/
def fail {α : Type} (problem : Problem) : Checked α := .refused [⟨[], problem⟩]

/-- An outcome found one step further in. -/
def under {α : Type} (step : Step) : Checked α → Checked α
  | .accepted a => .accepted a
  | .refused issues => .refused (issues.map fun i => { i with path := step :: i.path })

/-- A check that depends on an accepted value. -/
def andThen {α β : Type} (a : Checked α) (f : α → Checked β) : Checked β :=
  match a with
  | .accepted a => f a
  | .refused issues => .refused issues

/-- All elements checked, the first having index `n`. -/
def each {α : Type} (check : Value → Checked α) (n : Nat) : List Value → Checked (List α)
  | [] => .accepted []
  | v :: rest => List.cons <$> under (.index n) (check v) <*> each check (n + 1) rest

/-- The outcome as a result. -/
def toExcept {α : Type} : Checked α → Except (List Issue) α
  | .accepted a => .ok a
  | .refused issues => .error issues

end Checked

/-- Any text; bytes count as the text they encode. -/
def checkText : Value → Checked String
  | .text s => .accepted s
  | .bytes b =>
    match Utf8.decode b with
    | .ok s => .accepted (String.ofList s)
    | .error _ => .fail .undecodableText
  | .codes _ => .fail .undecodableText
  | _ => .fail .notText

/-- Any text, with or without surrogates. -/
def checkCodes : Value → Checked (List CodePoint)
  | .codes s => .accepted s
  | v => CodePoint.ofString <$> checkText v

/-- Whether a character is trimmed from a numeral. -/
def isNumeralBlank (c : Char) : Bool := isBlank c && !(0x1C ≤ c.toNat && c.toNat ≤ 0x1F)

/-- A numeral without the zeros it starts with; a zero before a point stays, and so does the last
character of a numeral of zeros and underscores. `previous` is the character before the text. -/
def dropLeadingZeros (previous : Char) : List Char → Option (List Char)
  | [] => some [previous]
  | c :: r =>
    if c = '0' ∨ c = '_' then dropLeadingZeros c r
    else if c = '.' then some (previous :: c :: r)
    else if c.isDigit then some (c :: r)
    else none

/-- A numeral without a point and the zeros after it. -/
def dropFraction (s : List Char) : Option (List Char) :=
  match s.takeWhile (· != '.'), s.dropWhile (· != '.') with
  | whole, '.' :: zeros => if !zeros.isEmpty && zeros.all (· == '0') then some whole else none
  | whole, _ => some whole

/-- Whether an underscore stands next to another. -/
def hasDoubleUnderscore : List Char → Bool
  | '_' :: '_' :: _ => true
  | _ :: r => hasDoubleUnderscore r
  | [] => false

/-- A numeral without the underscores between its digits. -/
def dropUnderscores (s : List Char) : Option (List Char) :=
  if s.head? == some '_' || s.getLast? == some '_' || hasDoubleUnderscore s then none
  else some (s.filter (· != '_'))

/-- A numeral without what may surround its plain form. -/
def plainNumeral? (s : List Char) : Option (List Char) := do
  let s := ((s.dropWhile isNumeralBlank).reverse.dropWhile isNumeralBlank).reverse
  let s ← match s with
    | '+' :: '-' :: _ => none
    | '+' :: r => some r
    | r => some r
  let s ← match s with
    | '0' :: r => dropLeadingZeros '0' r
    | c :: r => if c.isDigit || c == '-' then some (c :: r) else none
    | [] => none
  dropUnderscores (← dropFraction s)

/-- Whether a text is zero or digits that do not start with zero. -/
def isPlainNatural (s : List Char) : Bool :=
  s == ['0'] || (!s.isEmpty && s.all Char.isDigit && s.head? != some '0')

/-- An integer given as text. -/
def checkNumeral (s : List Char) : Checked Int :=
  match plainNumeral? s with
  | none => .fail .unreadableInteger
  | some t =>
    let digits := if t.head? == some '-' then t.drop 1 else t
    if !isPlainNatural digits then .fail .unreadableInteger
    else if Numeral.maxDigits < t.length then .fail .oversizedInteger
    else if t.head? == some '-' then .accepted (-(Numeral.valueOf digits : Int))
    else .accepted (Numeral.valueOf digits)

/-- Whether an integer is between the bounds of 64 bits, neither of them reached. -/
def fitsWord (n : Int) : Bool := -0x8000000000000000 < n && n < 0x8000000000000000

/-- Any integer. -/
def checkInt : Value → Checked Int
  | .int n => .accepted n
  | .bool b => .accepted (if b then 1 else 0)
  | .real (.finite x) =>
    match x.toInt? with
    | some n => if fitsWord n then .accepted n else .fail .oversizedInteger
    | none => .fail .fractional
  | .real _ => .fail .notFinite
  | .text s => checkNumeral s.toList
  | .bytes b =>
    match Utf8.decode b with
    | .ok s => checkNumeral s
    | .error _ => .fail .unreadableInteger
  | .codes _ => .fail .undecodableText
  | _ => .fail .notInteger

/-- An integer from `least` on. -/
def atLeast (least : Int) (v : Value) : Checked Int :=
  (checkInt v).andThen fun n => if least ≤ n then .accepted n else .fail (.tooLow least)

/-- An integer above `bound`. -/
def above (bound : Int) (v : Value) : Checked Int :=
  (checkInt v).andThen fun n => if bound < n then .accepted n else .fail (.notAbove bound)

/-- Null, or what the check accepts. -/
def orNull {α : Type} (check : Value → Checked α) : Value → Checked (Option α)
  | .null => .accepted none
  | v => some <$> check v

/-- A list of what the check accepts. -/
def listOf {α : Type} (check : Value → Checked α) : Value → Checked (List α)
  | .list items => Checked.each check 0 items
  | _ => .fail .notList

/-- A field that has to be there. -/
def required {α : Type} (name : String) (check : Value → Checked α) (v : Value) : Checked α :=
  match v.field? name with
  | some x => (check x).under (.field name)
  | none => .refused [⟨[.field name], .missing⟩]

/-- A field that may be absent. -/
def withDefault {α : Type} (name : String) (default : α) (check : Value → Checked α) (v : Value) :
    Checked α :=
  match v.field? name with
  | some x => (check x).under (.field name)
  | none => .accepted default

/-- The issues of the keys that are not among the names of the fields. -/
def extraIssues (names : List String) : List (Value × Value) → List Issue
  | [] => []
  | (.text k, _) :: rest =>
    if names.contains k then extraIssues names rest
    else ⟨[.field k], .extra⟩ :: extraIssues names rest
  | _ :: rest => ⟨[], .keyNotText⟩ :: extraIssues names rest

/-- A record of a model with no other fields than the named ones. -/
def recordOf {α : Type} (model : String) (names : List String) (check : Value → Checked α)
    (v : Value) : Checked α :=
  match v with
  | .record fields =>
    match check v, extraIssues names fields with
    | .accepted a, [] => .accepted a
    | .accepted _, issues => .refused issues
    | .refused found, issues => .refused (found ++ issues)
  | _ => .fail (.notRecord model)

theorem atLeast_bound {least n : Int} {v : Value} (h : atLeast least v = .accepted n) :
    least ≤ n := by
  unfold atLeast Checked.andThen at h
  split at h
  · dsimp only at h
    split at h
    · next hle => simp only [Checked.accepted.injEq] at h; exact h ▸ hle
    · simp [Checked.fail] at h
  · simp at h

end RackElevation.Data
