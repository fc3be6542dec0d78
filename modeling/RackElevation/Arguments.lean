import RackElevation.Dialect
import RackElevation.Text.Cut
import RackElevation.Text.Digit

/-
  Arguments of the command line

  Switches with a value, a switch that asks for help, and one input. A long
  switch may be cut short as long as it is the only one that starts so, a value
  may follow an equals sign or, after a short switch, stand right behind it, and
  two dashes end the switches. Of two values for one switch the later counts.

  What is proved:
    1. `Switch.ofName?_names` — a switch is known by each of its names.
-/

namespace RackElevation

open Text

/-- A switch of the command line. -/
inductive Switch
  | help
  | text
  | dialect
  | output
  | config
  | linkBase
  deriving DecidableEq, Repr

namespace Switch

/-- The names of switches. -/
def table : List (String × Switch) :=
  [("-h", .help), ("--help", .help), ("--text", .text), ("--dialect", .dialect), ("-o", .output),
   ("--output", .output), ("--config", .config), ("--internal-link-base", .linkBase)]

/-- The names of a switch. -/
def names (s : Switch) : List String := (table.filter fun e => e.2 == s).map Prod.fst

/-- The switch with a name. -/
def ofName? (name : String) : Option Switch := table.lookup name

theorem ofName?_names (s : Switch) : ∀ name ∈ s.names, ofName? name = some s := by
  cases s <;> decide

end Switch

namespace Arguments

/-- What is wrong with the arguments. -/
inductive Fault
  | ambiguous (argument : String) (candidates : List String)
  | noValue (s : Switch)
  | needlessValue (s : Switch) (value : String)
  | unknownDialect (name : String)
  | unknown (arguments : List String)
  | twoSources
  deriving DecidableEq, Repr

/-- A fault of a switch. -/
def ofSwitch (s : Switch) (what : String) : String :=
  "argument " ++ String.intercalate "/" s.names ++ ": " ++ what

/-- The sentence for a fault. -/
def Fault.message : Fault → String
  | .ambiguous argument candidates =>
    "ambiguous option: " ++ argument ++ " could match " ++ String.intercalate ", " candidates
  | .noValue s => ofSwitch s "expected one argument"
  | .needlessValue s value => ofSwitch s ("ignored explicit argument " ++ quoted value)
  | .unknownDialect name =>
    ofSwitch .dialect ("invalid choice: " ++ quoted name ++ " (choose from " ++
      String.intercalate ", " (Dialect.names.map quoted) ++ ")")
  | .unknown arguments => "unrecognized arguments: " ++ String.intercalate " " arguments
  | .twoSources => "--text cannot be combined with file input"

/-- One argument by its form. -/
inductive Word
  /-- Two dashes, the first time. -/
  | separator
  | plain (text : String)
  /-- A switch by the name that was meant, with the value that was given along with it. -/
  | named (s : Switch) (name : String) (value : Option String)
  | unknown (text : String)
  deriving DecidableEq, Repr

/-- Whether digits, after digits and a point or without, are all of a text. -/
def isDigits (s : List Char) : Bool :=
  match cut '.' s with
  | (whole, none) => !whole.isEmpty && whole.all isDigit
  | (whole, some part) => whole.all isDigit && !part.isEmpty && part.all isDigit

/-- Whether a text is a number below zero. -/
def isNegative (s : List Char) : Bool :=
  match s with
  | '-' :: r => isDigits (if r.getLast? = some '\n' then r.dropLast else r)
  | _ => false

/-- The switches that an argument may mean, with their names and the value given along. -/
def candidates (arg : List Char) : List (Switch × String × Option String) :=
  match arg with
  | '-' :: '-' :: _ =>
    let (start, value) := cut '=' arg
    Switch.table.filterMap fun (name, s) =>
      if start.isPrefixOf name.toList then some (s, name, value.map String.ofList) else none
  | _ =>
    Switch.table.filterMap fun (name, s) =>
      if name.toList = arg.take 2 then some (s, name, some (String.ofList (arg.drop 2)))
      else if arg.isPrefixOf name.toList then some (s, name, none) else none

/-- The name and the value of an argument with an equals sign. -/
def withValue? (arg : List Char) : Option (Switch × String × String) :=
  match cut '=' arg with
  | (name, some value) =>
    (Switch.ofName? (String.ofList name)).map fun s => (s, String.ofList name, String.ofList value)
  | _ => none

/-- The form of an argument before the two dashes. -/
def classify (arg : String) : Except Fault Word :=
  match arg.toList, Switch.ofName? arg with
  | _, some s => .ok (.named s arg none)
  | '-' :: c :: r, none =>
    match withValue? ('-' :: c :: r) with
    | some (s, name, value) => .ok (.named s name (some value))
    | none =>
      match candidates ('-' :: c :: r) with
      | [(s, name, value)] => .ok (.named s name value)
      | [] =>
        if isNegative ('-' :: c :: r) ∨ (c :: r).contains ' ' then .ok (.plain arg)
        else .ok (.unknown arg)
      | several => .error (.ambiguous arg (several.map fun e => e.2.1))
  | _, none => .ok (.plain arg)

/-- The forms of all arguments. -/
def words : List String → Except Fault (List Word)
  | [] => .ok []
  | "--" :: r => .ok (.separator :: r.map .plain)
  | arg :: r => do
    let w ← classify arg
    return w :: (← words r)

end Arguments

/-- What the command line gives. -/
structure Arguments where
  input : Option String := none
  text : Option String := none
  dialect : Option String := none
  output : Option String := none
  config : Option String := none
  linkBase : Option String := none
  deriving DecidableEq, Repr

namespace Arguments

/-- Why there are no arguments to go by. -/
inductive Stop
  | help
  | fault (f : Fault)
  deriving DecidableEq, Repr

/-- The arguments with a switch set. -/
def set (s : Switch) (value : String) (a : Arguments) : Except Stop Arguments :=
  match s with
  | .help => .error .help
  | .text => .ok { a with text := some value }
  | .output => .ok { a with output := some value }
  | .config => .ok { a with config := some value }
  | .linkBase => .ok { a with linkBase := some value }
  | .dialect =>
    if value ∈ Dialect.names then .ok { a with dialect := some value }
    else .error (.fault (.unknownDialect value))

/-- The last switch of a cluster of short ones that begins with a call for help, and its value. -/
def cluster (all : List Char) : List Char → Except Stop (Switch × Option String)
  | [] => .ok (.help, none)
  | c :: r =>
    match Switch.ofName? (String.ofList ['-', c]) with
    | none => .error (.fault (.needlessValue .help (String.ofList all)))
    | some .help => cluster r r
    | some s => .ok (s, if r.isEmpty then none else some (String.ofList r))

/-- Whether a value follows. -/
def valueFollows : List Word → Bool
  | .plain _ :: _ => true
  | _ => false

/-- The switch that asks for help, with what was given along with it. -/
def readHelp (name : String) (value : Option String) (rest : List Word) : Stop :=
  match value with
  | none => .help
  | some v =>
    if v.isEmpty ∨ name.length ≠ 2 then .fault (.needlessValue .help v)
    else match cluster v.toList v.toList with
      | .error stop => stop
      | .ok (s, none) => if s = .help ∨ valueFollows rest then .help else .fault (.noValue s)
      | .ok (_, some _) => .help

/-- Reads words; `taken` says whether there was an input, and `unknown` collects what is left over. -/
def readWords (taken : Bool) (unknown : List String) (a : Arguments) :
    List Word → Except Stop (Arguments × List String)
  | [] => .ok (a, unknown)
  | .unknown s :: r => readWords taken (unknown ++ [s]) a r
  | .named .help name value :: r => .error (readHelp name value r)
  | .named s _ (some v) :: r => do readWords taken unknown (← a.set s v) r
  | .named s _ none :: .plain v :: r => do readWords taken unknown (← a.set s v) r
  | .named s _ none :: _ => .error (.fault (.noValue s))
  | .plain v :: r =>
    if taken then readWords taken (unknown ++ [v]) a r
    else match r with
      | .separator :: r => readWords true unknown { a with input := some v } r
      | r => readWords true unknown { a with input := some v } r
  | .separator :: r =>
    if taken then readWords taken (unknown ++ ["--"]) a r
    else match r with
      | .plain v :: r => readWords true unknown { a with input := some v } r
      | r => readWords true unknown a r

/-- The arguments of a command line. -/
def read (args : List String) : Except Stop Arguments := do
  let (a, unknown) ← readWords false [] {} (← (words args).mapError Stop.fault)
  if unknown.isEmpty then .ok a else .error (.fault (.unknown unknown))

end Arguments

end RackElevation
