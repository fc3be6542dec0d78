import RackElevation.Decimal.Numeral
import RackElevation.Diagnostic

/-
  Faults of rack-text

  Why a document in rack-text is refused. A fault belongs to a line; a numeral
  that is too long to be read is a failure without one.
-/

namespace RackElevation.RackText

/-- What is wrong with a line. -/
inductive Fault
  /-- There is no line left to read. -/
  | endOfInput
  /-- The line does not start with the keyword. -/
  | expected (keyword line : String)
  /-- The height of the rack is not an integer. -/
  | invalidHeight (text : String)
  /-- The height of the rack is below one. -/
  | rackTooLow (height : Int)
  /-- The item has no colon. -/
  | noColon
  /-- What stands before the colon is no key of an item. -/
  | invalidKey (key : String)
  /-- The height of the item is below one. -/
  | itemTooLow (height : Int)
  deriving DecidableEq, Repr

/-- The sentence for a fault. -/
def Fault.message : Fault → String
  | .endOfInput => "unexpected end of input"
  | .expected keyword line => "expected '" ++ keyword ++ "', got: " ++ line
  | .invalidHeight text => "invalid height value: " ++ text
  | .rackTooLow height => "rack height must be at least 1, got " ++ toString height
  | .noColon => "expected ':' in item entry"
  | .invalidKey key => "invalid identifier: " ++ key
  | .itemTooLow height => "item height must be at least 1, got " ++ toString height

/-- Why a document is refused. -/
inductive Error
  | format (fault : Fault) (line : Nat)
  | numeral (fault : Numeral.Fault)
  deriving DecidableEq, Repr

/-- What is reported for a fault of a line. -/
def Fault.diagnostic (fault : Fault) (line : Nat) : Diagnostic := ⟨fault.message, some line⟩

end RackElevation.RackText
