import RackElevation.Decimal.Binary64
import RackElevation.Text.CodePoint

/-
  Untyped data

  A value as a data document can hold it, before anything is known about what
  it should be: what comes from JSON uses the first seven forms, a YAML document
  can hold them all. A text with surrogates is none of the texts, and has a form
  of its own.
-/

namespace RackElevation.Data

/-- A day, or a moment with or without a known offset from universal time, counted in days or in
microseconds. -/
inductive Time
  | day (n : Int)
  | naive (n : Int)
  | aware (n : Int)
  deriving DecidableEq, Repr

/-- An untyped value. -/
inductive Value
  | null
  | bool (b : Bool)
  | int (n : Int)
  | real (x : Real64)
  | text (s : String)
  | list (items : List Value)
  | record (fields : List (Value × Value))
  | bytes (b : List UInt8)
  | time (t : Time)
  | set (items : List Value)
  | codes (s : List CodePoint)
  deriving Inhabited

namespace Value

/-- The text of code points. -/
def ofCodes (s : List CodePoint) : Value :=
  match CodePoint.chars s with
  | .ok s => .text (String.ofList s)
  | .error _ => .codes s

/-- The value that a field of a record has. -/
def field? (name : String) (v : Value) : Option Value :=
  match v with
  | .record fields => fields.findSome? fun f =>
      match f.1 with
      | .text k => if k = name then some f.2 else none
      | _ => none
  | _ => none

end Value

end RackElevation.Data
