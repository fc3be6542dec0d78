/-
  Diagnostics

  What is wrong with a document, and in which of its lines if that is known.
-/

namespace RackElevation

/-- A message about a document. -/
structure Diagnostic where
  message : String
  line : Option Int := none
  deriving DecidableEq, Repr

/-- The message, after the number of its line. -/
def Diagnostic.display (d : Diagnostic) : String :=
  match d.line with
  | none => d.message
  | some n => "line " ++ toString n ++ ": " ++ d.message

end RackElevation
