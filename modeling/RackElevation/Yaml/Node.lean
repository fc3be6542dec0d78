import RackElevation.Yaml.Moment
import RackElevation.Yaml.Number

/-
  Nodes of YAML

  A document is a tree of scalars, sequences and mappings, each with a tag that
  tells what it is. A plain scalar without a tag gets one from its text: it may
  be a truth value, a number, a date, null, or one of two signs with a meaning
  in mappings; anything else is text.
-/

namespace RackElevation.Yaml

open Text

/-- A node with its tag and the place where it starts. -/
inductive Node
  | scalar (tag : String) (text : List CodePoint) (start : Mark)
  | sequence (tag : String) (items : List Node) (start : Mark)
  | mapping (tag : String) (entries : List (Node × Node)) (start : Mark)
  /-- A sequence, or else a mapping, as an alias inside it stands for it. -/
  | around (isSequence : Bool) (tag : String) (start : Mark)
  deriving Inhabited

namespace Node

/-- The start of the tags of the kinds that every document knows. -/
def tagRoot : String := "tag:yaml.org,2002:"

/-- The tag of a known kind. -/
def coreTag (kind : String) : String := tagRoot ++ kind

/-- The tag of a node. -/
def tag : Node → String
  | .scalar t _ _ => t
  | .sequence t _ _ => t
  | .mapping t _ _ => t
  | .around _ t _ => t

/-- Where a node starts. -/
def start : Node → Mark
  | .scalar _ _ m => m
  | .sequence _ _ m => m
  | .mapping _ _ m => m
  | .around _ _ m => m

/-- How the form of a node is named. -/
def form : Node → String
  | .scalar _ _ _ => "scalar"
  | .sequence _ _ _ => "sequence"
  | .mapping _ _ _ => "mapping"
  | .around isSequence _ _ => if isSequence then "sequence" else "mapping"

/-- The items of a sequence; of one around the node, none. -/
def items? : Node → Option (List Node)
  | .sequence _ items _ => some items
  | .around true _ _ => some []
  | _ => none

/-- The entries of a mapping; of one around the node, none. -/
def entries? : Node → Option (List (Node × Node))
  | .mapping _ entries _ => some entries
  | .around false _ _ => some []
  | _ => none

end Node

namespace Plain

/-- The words for truth values, in small letters. -/
def truthWords : List (String × Bool) :=
  [("yes", true), ("no", false), ("true", true), ("false", false), ("on", true), ("off", false)]

/-- A word as it is, with a capital, and in capitals. -/
def spellings (word : String) : List String :=
  match word.toList with
  | [] => [word]
  | c :: r => [word, String.ofList (c.toUpper :: r), String.ofList (word.toList.map Char.toUpper)]

/-- Whether a text is a truth value. -/
def isTruth (s : List Char) : Bool :=
  truthWords.any fun w => (spellings w.1).contains (String.ofList s)

/-- Whether a text is null. -/
def isNull (s : List Char) : Bool :=
  s.isEmpty || s == ['~'] || (spellings "null").contains (String.ofList s)

/-- Whether a character is a digit or an underscore. -/
def isSpacedDigit (c : Char) : Bool := c.isDigit || c == '_'

/-- Whether a text starts with a digit and goes on with digits and underscores. -/
def isDigits (s : List Char) : Bool :=
  match s with
  | c :: r => c.isDigit && r.all isSpacedDigit
  | [] => false

/-- Whether a text is a part below sixty of a number. -/
def isSixtieth (s : List Char) : Bool :=
  match s with
  | [c] => c.isDigit
  | [c, d] => '0' ≤ c && c ≤ '5' && d.isDigit
  | _ => false

/-- Whether a text is a number of two parts or more in base sixty. -/
def isSixty (s : List Char) : Bool :=
  match fields ':' s with
  | first :: second :: rest => isDigits first && (second :: rest).all isSixtieth
  | _ => false

/-- Whether a text is an exponent with a sign, or nothing. -/
def isExponent (s : List Char) : Bool :=
  match s with
  | [] => true
  | e :: sign :: r =>
    (e == 'e' || e == 'E') && (sign == '+' || sign == '-') && !r.isEmpty && r.all Char.isDigit
  | _ => false

/-- The text without a sign. -/
def unsigned (s : List Char) : List Char := (Number.signed s).2

/-- Whether a text is a fraction. -/
def isFraction (s : List Char) : Bool :=
  match s with
  | '.' :: c :: r =>
    (c.isDigit && isExponent (r.dropWhile isSpacedDigit)) ||
      ["inf", "Inf", "INF", "nan", "NaN", "NAN"].contains (String.ofList (c :: r))
  | s =>
    let u := unsigned s
    match cut '.' u with
    | (whole, some part) =>
      (isDigits whole && isExponent (part.dropWhile isSpacedDigit)) ||
        (isSixty whole && part.all isSpacedDigit) ||
        (whole.isEmpty && ["inf", "Inf", "INF"].contains (String.ofList part))
    | _ => false

/-- Whether a text is not empty and all its characters are of a class or underscores. -/
def isRun (p : Char → Bool) (s : List Char) : Bool := !s.isEmpty && s.all fun c => p c || c == '_'

/-- Whether a text is an integer. -/
def isInteger (s : List Char) : Bool :=
  match unsigned s with
  | ['0'] => true
  | '0' :: 'b' :: r => isRun (fun c => c == '0' || c == '1') r
  | '0' :: 'x' :: r => isRun (fun c => c.isDigit || ('a' ≤ c && c ≤ 'f') || ('A' ≤ c && c ≤ 'F')) r
  | '0' :: r => isRun (fun c => '0' ≤ c && c ≤ '7') r
  | s => isDigits s || isSixty s

/-- Whether a text is a date, with two digits for month and day unless a time follows. -/
def isMoment (s : List Char) : Bool :=
  match Moment.ofText? s with
  | some ⟨_, none⟩ => s.length == 10
  | some _ => true
  | none => false

/-- The kind that a text has by itself. -/
def kind (s : List Char) : String :=
  if isTruth s then "bool"
  else if isFraction s then "float"
  else if isInteger s then "int"
  else if s == ['<', '<'] then "merge"
  else if isNull s then "null"
  else if isMoment s then "timestamp"
  else if s == ['='] then "value"
  else "str"

end Plain

/-- The tag that a scalar gets from its text; a line feed at its end is passed over. A text with
surrogates is text. -/
def plainTag (s : List CodePoint) : String :=
  match CodePoint.chars s with
  | .error _ => Node.coreTag "str"
  | .ok s =>
    match s.getLast? with
    | some '\n' => Node.coreTag (if s.length = 1 then "str" else Plain.kind s.dropLast)
    | _ => Node.coreTag (Plain.kind s)

end RackElevation.Yaml
