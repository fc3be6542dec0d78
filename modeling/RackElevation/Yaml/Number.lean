import RackElevation.Text.Blank
import RackElevation.Text.Cut
import RackElevation.Text.Upper
import RackElevation.Yaml.Fault

/-
  Numbers of YAML

  Integers in decimal, binary, octal, hexadecimal and base sixty, and fractions
  in decimal and base sixty. An underscore anywhere in a number is passed over,
  and a surrogate is part of no number.
-/

namespace RackElevation.Yaml.Number

open Text

/-- The value of a digit in bases up to sixteen. -/
def digit? (base : Nat) (c : Char) : Option Nat :=
  let n := match digitValue? c with
    | some n => some n
    | none =>
      if 'a' ≤ c ∧ c ≤ 'f' then some (c.toNat - 87)
      else if 'A' ≤ c ∧ c ≤ 'F' then some (c.toNat - 55) else none
  n.filter (· < base)

/-- The letter of the two characters that may come before digits of a base. -/
def baseLetter? (base : Nat) : Option Char :=
  if base = 2 then some 'b' else if base = 8 then some 'o' else if base = 16 then some 'x' else none

/-- The text without a base mark at its start. -/
def withoutBaseMark (base : Nat) (s : List Char) : List Char :=
  match baseLetter? base, s with
  | some letter, '0' :: c :: r => if lowerChar c = letter then r else s
  | _, s => s

/-- A sign at the start of a text, and what follows. -/
def signed (s : List Char) : Bool × List Char :=
  match s with
  | '-' :: r => (true, r)
  | '+' :: r => (false, r)
  | r => (false, r)

/-- A sign at the start of a scalar, and what follows. -/
def signedScalar (s : List CodePoint) : Bool × List CodePoint :=
  match s with
  | .char '-' :: r => (true, r)
  | .char '+' :: r => (false, r)
  | r => (false, r)

/-- What is read of the characters of a part of a scalar, which is refused if it has surrogates. -/
def ofPart {α : Type} (refusal : List CodePoint → Misfit) (read : List Char → Except Misfit α)
    (part : List CodePoint) : Except Misfit α :=
  match CodePoint.chars part with
  | .ok s => read s
  | .error _ => .error (refusal part)

/-- The integer that a text is in a base, blanks around it and a sign allowed. -/
def natural (base : Nat) (text : List Char) : Except Misfit Int :=
  let (negative, s) := signed (trim text)
  let s := withoutBaseMark base s
  let run := s.takeWhile fun c => (digit? base c).isSome
  if base = 10 ∧ Numeral.maxDigits < run.length then
    .error (.numeral (.tooLongToRead run.length))
  else if run.isEmpty ∨ run.length < s.length then
    .error (.integer base (CodePoint.ofChars text))
  else
    let n : Nat := run.foldl (fun n c => base * n + (digit? base c).getD 0) 0
    .ok (if negative then -(n : Int) else n)

/-- The value of parts in base sixty. -/
def sixty (parts : List Int) : Int := parts.foldl (fun n part => 60 * n + part) 0

/-- A negative integer if the first argument says so. -/
def negateIf (negative : Bool) (n : Int) : Int := if negative then -n else n

/-- The integer that a scalar is. -/
def integer (text : List CodePoint) : Except Misfit Int :=
  let part (base : Nat) := ofPart (.integer base) (natural base)
  match text.filter (· != .char '_') with
  | [] => .error .empty
  | s =>
    let (negative, s) := signedScalar s
    negateIf negative <$> match s with
      | [] => .error .empty
      | [.char '0'] => .ok 0
      | .char '0' :: .char 'b' :: r => part 2 r
      | .char '0' :: .char 'x' :: r => part 16 r
      | .char '0' :: r => part 8 (.char '0' :: r)
      | s =>
        if s.contains (.char ':') then sixty <$> (fields (.char ':') s).mapM (part 10) else part 10 s

/-- A number with its sign turned. -/
def negate : Real64 → Real64
  | .finite x => .finite { x with negative := !x.negative }
  | .infinite negative => .infinite (!negative)
  | .undefined => .undefined

/-- The fraction that digits with a point and an exponent are. -/
def decimal? (s : List Char) : Option Real64 :=
  let whole := s.takeWhile isDigit
  let s := s.dropWhile isDigit
  let (part, s) := match s with
    | '.' :: r => (r.takeWhile isDigit, r.dropWhile isDigit)
    | r => ([], r)
  if whole.isEmpty ∧ part.isEmpty then none
  else
    let value (e : Int) : Real64 :=
      .ofDecimal false (Numeral.valueOf (whole ++ part)) (e - part.length)
    match s with
    | [] => some (value 0)
    | c :: r =>
      if c = 'e' ∨ c = 'E' then
        let (negative, digits) := signed r
        if digits.isEmpty ∨ !digits.all isDigit then none
        else some (value (negateIf negative (Numeral.valueOf digits)))
      else none

/-- The number that a text is, blanks around it and a sign allowed. -/
def fraction (text : List Char) : Except Misfit Real64 :=
  let (negative, s) := signed (trim text)
  let magnitude := match String.ofList (s.map lowerChar) with
    | "inf" => some (.infinite false)
    | "infinity" => some (.infinite false)
    | "nan" => some .undefined
    | _ => decimal? s
  match magnitude with
  | some x => .ok (if negative then negate x else x)
  | none => .error (.real (CodePoint.ofChars text))

/-- The sum of two numbers. -/
def add : Real64 → Real64 → Real64
  | .finite x, .finite y => .ofRounded (x.scaled + y.scaled < 0) (x.add? y)
  | .infinite a, .infinite b => if a = b then .infinite a else .undefined
  | .undefined, _ => .undefined
  | _, .undefined => .undefined
  | .infinite a, .finite _ => .infinite a
  | .finite _, .infinite b => .infinite b

/-- A number times a positive one. -/
def times (x : Real64) (y : Binary64) : Real64 :=
  match x with
  | .finite x => .ofRounded x.negative (x.mul? y)
  | x => x

/-- The value of parts in base sixty, the last first, where the last counts `unit`. -/
def sixtyFraction (unit : Int) (sum : Real64) : List Real64 → Except Misfit Real64
  | [] => .ok sum
  | part :: rest =>
    match Binary64.ofInt? unit with
    | none => .error (.overflow .integer)
    | some y => sixtyFraction (unit * 60) (add sum (times part y)) rest

/-- The fraction that a scalar is. -/
def real (text : List CodePoint) : Except Misfit Real64 :=
  let part := ofPart .real fraction
  match (text.filter (· != .char '_')).map CodePoint.lower with
  | [] => .error .empty
  | s =>
    let (negative, s) := signedScalar s
    if s = CodePoint.ofChars ['.', 'i', 'n', 'f'] then .ok (.infinite negative)
    else if s = CodePoint.ofChars ['.', 'n', 'a', 'n'] then .ok .undefined
    else do
      let x ← if s.contains (.char ':') then do
          let parts ← (fields (.char ':') s).mapM part
          sixtyFraction 1 (.finite ⟨false, 0, 0⟩) parts.reverse
        else part s
      return if negative then negate x else x

end RackElevation.Yaml.Number
