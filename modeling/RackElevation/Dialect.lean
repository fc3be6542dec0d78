import RackElevation.RackML
import RackElevation.RackText.Cursor

/-
  Dialects

  A source is written in one of two formats, and each format has two names.
  Reading a source goes by the name.

  What is proved:
    1. `Dialect.ofName?_isSome` — a name means a dialect exactly if it is listed.
    2. `Source.parse_unknown` — a source under any other name is refused for it.
-/

namespace RackElevation

open Text

/-- A format of sources. -/
inductive Dialect
  | markup
  | lines
  deriving DecidableEq, Repr

namespace Dialect

/-- The names of dialects, in order. -/
def table : List (String × Dialect) :=
  [("rack", .lines), ("rack-text", .lines), ("rack-xml", .markup), ("rackml", .markup)]

/-- The names alone. -/
def names : List String := table.map Prod.fst

/-- The dialect that a name means. -/
def ofName? (name : String) : Option Dialect := table.lookup name

/-- The list of names at the end of a message. -/
def allowed : String := "; allowed: " ++ quotedList names

theorem ofName?_isSome (name : String) : (ofName? name).isSome = true ↔ name ∈ names := by
  simp only [ofName?, names, table, List.lookup_cons, List.lookup_nil, List.map_cons, List.map_nil, List.mem_cons,
    List.not_mem_nil, or_false]
  repeat' split
  all_goals simp_all

end Dialect

namespace Source

/-- Why a source is not read. -/
inductive Error
  | unknownDialect (name : String)
  | lines (e : RackText.Error)
  | markup (e : RackML.Error)
  deriving DecidableEq, Repr

/-- What is reported for an error of the source itself. -/
def Error.diagnostic? : Error → Option Diagnostic
  | .unknownDialect _ => none
  | .lines (.format fault line) => some (fault.diagnostic line)
  | .lines (.numeral _) => none
  | .markup e => e.diagnostic?

/-- The sentence for an error. -/
def Error.message : Error → String
  | .unknownDialect name => "unsupported dialect: " ++ quoted name ++ Dialect.allowed
  | .lines (.format fault line) => (fault.diagnostic line).display
  | .lines (.numeral fault) => fault.message
  | .markup (.numeral fault) => fault.message
  | .markup e => (e.diagnostic?.map Diagnostic.display).getD ""

/-- Reads a source in a dialect. -/
def read (d : Dialect) (text : String) : Except Error RackSet :=
  match d with
  | .lines => (RackText.parse text).mapError .lines
  | .markup => (RackML.parse text).mapError .markup

/-- Reads a source in the dialect with a name. -/
def parse (dialect text : String) : Except Error RackSet :=
  match Dialect.ofName? dialect with
  | some d => read d text
  | none => .error (.unknownDialect dialect)

theorem parse_unknown {dialect text : String} (h : dialect ∉ Dialect.names) :
    parse dialect text = .error (.unknownDialect dialect) := by
  have : Dialect.ofName? dialect = none := by
    rw [← Option.not_isSome_iff_eq_none, Dialect.ofName?_isSome]
    exact h
  simp [parse, this]

end Source

end RackElevation
