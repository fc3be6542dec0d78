import RackElevation.Arguments
import RackElevation.Conversion
import RackElevation.Settings

/-
  The command line

  Draws one source: a file, the text of a switch, or standard input. The drawing
  goes to standard output or to a file. What the user can mend is reported on
  the error stream with exit status 2; any other failure ends the run as it is.
  A file for the drawing is opened, and thereby emptied, before the drawing is
  encoded.

  Arguments, names of files and what the environment gives are texts. Words with
  bytes that are no text, which a system hands over as surrogates, lie outside;
  standard input and files are any bytes.

  What is proved:
    1. `report_run` — telling of a failure changes nothing but the error stream.
-/

namespace RackElevation.CommandLine

open Text

/-- How the command line is used. -/
def usage : String :=
  "usage: rackviz [-h] [--text TEXT] [--dialect \x7brack,rack-text,rack-xml,rackml\x7d]\n" ++
  "               [-o OUTPUT] [--config CONFIG]\n" ++
  "               [--internal-link-base INTERNAL_LINK_BASE]\n" ++
  "               [input]\n" ++
  "\n" ++
  "Render RackML or rack-text rack layouts to SVG.\n" ++
  "\n" ++
  "positional arguments:\n" ++
  "  input                 Input file (default: stdin)\n" ++
  "\n" ++
  "options:\n" ++
  "  -h, --help            show this help message and exit\n" ++
  "  --text TEXT           Raw source text\n" ++
  "  --dialect \x7brack,rack-text,rack-xml,rackml\x7d\n" ++
  "                        Input dialect\n" ++
  "  -o OUTPUT, --output OUTPUT\n" ++
  "                        Output .svg path (default: stdout)\n" ++
  "  --config CONFIG       Settings YAML file\n" ++
  "  --internal-link-base INTERNAL_LINK_BASE\n" ++
  "                        Prefix for links that carry no URL scheme\n"

/-- What a run starts from: standard input, the settings file that the environment names, the files and
folders, and how many levels of nodes of a settings file the stack allows. -/
structure World where
  input : List UInt8 := []
  config : Option String := none
  store : Store := {}
  levels : Nat := 490

/-- What a run acts on: the files and folders, and what was written to the two streams so far. -/
structure Outside where
  store : Store
  output : String := ""
  errors : String := ""

/-- Why a run ends without a result of its own, or is reported. -/
inductive Failure
  | usage (fault : Arguments.Fault)
  | settings (e : Settings.Error)
  | unusable (path : Path) (fault : Store.Fault)
  | undecodable (fault : Utf8.Fault)
  | conversion (e : Conversion.Failure)
  | unencodable (run : CodePoint.Run)

/-- The sentence for a failure. -/
def Failure.message : Failure → String
  | .usage fault => fault.message
  | .settings e => e.message
  | .unusable path fault => fault.message path
  | .undecodable fault => fault.message
  | .conversion e => e.message
  | .unencodable run => run.message

/-- Whether a failure is one that the user can mend, and is told of. -/
def Failure.isReported : Failure → Bool
  | .usage _ => true
  | .settings e => e.isReported
  | .unusable _ fault => fault != .nullCharacter
  | .undecodable _ => false
  | .conversion (.source (.unknownDialect _)) => true
  | .conversion (.source e) => e.diagnostic?.isSome
  | .conversion _ => false
  | .unencodable _ => false

/-- The line for a failure on the error stream. -/
def Failure.report : Failure → String
  | .usage fault => "usage error: " ++ fault.message ++ "\n"
  | e => "error: " ++ e.message ++ "\n"

/-- The ends of names of files in the XML dialect. -/
def markupSuffixes : List String := [".xml", ".rackml"]

/-- The dialect of a file by its name, if the name tells. -/
def guessDialect (path : Option String) (fallback : String) : String :=
  match path with
  | none => fallback
  | some p =>
    let suffix := String.ofList ((Path.ofText p.toList).suffix.map lowerChar)
    if markupSuffixes.contains suffix then "rack-xml" else fallback

/-- A text unless it is empty. -/
def given (s : Option String) : Option String := s.filter fun s => !s.isEmpty

/-- The text that bytes of a file or a stream hold. -/
def decodeText (bytes : List UInt8) : Except Failure String := do
  let text ← (Utf8.decode bytes).mapError .undecodable
  return String.ofList (unifyBreaks text)

/-- The text of a file. -/
def readFile (store : Store) (path : Path) : Except Failure String := do
  decodeText (← (store.read path).mapError (.unusable path))

/-- The source that the arguments name; `input` is what standard input holds. -/
def readSource (a : Arguments) (input : List UInt8) (store : Store) : Except Failure String :=
  match given a.input, a.text with
  | some _, some _ => .error (.usage .twoSources)
  | none, some text => .ok text
  | some path, none => readFile store (Path.ofText path.toList)
  | none, none => decodeText input

/-- The base for note links of the arguments, or else that of the settings. -/
def linkBase (a : Arguments) (s : Settings.Loaded) : Option (List CodePoint) :=
  ((given a.linkBase).map CodePoint.ofString).or (s.linkBase.filter fun base => !base.isEmpty)

/-- The dialect that the arguments say, or else the name of the input, or else the settings. -/
def dialect (a : Arguments) (s : Settings.Loaded) : String :=
  (given a.dialect).getD (guessDialect a.input s.dialect)

/-- A step of a run: it may fail, and what it did outside until then stays done. -/
abbrev Acting := ExceptT Failure (StateM Outside)

/-- The characters of a text that is to be encoded. -/
def encodable (text : List CodePoint) : Except Failure (List Char) :=
  (CodePoint.chars text).mapError .unencodable

/-- Writes to standard output. -/
def print (text : List CodePoint) : Acting Unit := do
  let s ← encodable text
  modify fun o => { o with output := o.output ++ String.ofList s }

/-- Writes to the error stream. -/
def warn (text : String) : Acting Unit := modify fun o => { o with errors := o.errors ++ text }

/-- Puts bytes into the file at a place. -/
def fill (place : Place) (bytes : List UInt8) : Acting Unit :=
  modify fun o => { o with store := o.store.put place (.file bytes) }

/-- Opens a file to write it. The file is there from then on, and empty. -/
def openFile (path : Path) : Acting Place := do
  let place ← ((← get).store.target path).mapError (Failure.unusable path)
  fill place []
  return place

/-- Writes a file, which is opened before the text is encoded. -/
def writeFile (path : Path) (text : List CodePoint) : Acting Unit := do
  let place ← openFile path
  let s ← encodable text
  fill place (Utf8.encode s)

/-- Puts a drawing where the arguments say. -/
def deliver (a : Arguments) (level : Level) (drawing : List CodePoint) : Acting Unit :=
  match given a.output with
  | none => print (drawing ++ [.char '\n'])
  | some name => do
    writeFile (Path.ofText name.toList) (drawing ++ [.char '\n'])
    warn (if level.logs .info then "INFO:cli:wrote " ++ name ++ "\n" else "")

/-- Draws what the arguments say. -/
def draw (a : Arguments) (w : World) : Acting Unit := do
  let settings ← (Settings.load w.levels (← get).store a.config w.config).mapError Failure.settings
  let source ← readSource a w.input (← get).store
  let drawing ← (Conversion.convertUnder (linkBase a settings) (dialect a settings) source).mapError
    Failure.conversion
  deliver a settings.logLevel drawing

/-- Tells of a failure, if it is one that is reported, and gives the status for it. -/
def report (e : Failure) : Acting Nat :=
  if e.isReported then do
    warn e.report
    return 2
  else throw e

/-- Does what the command line says, and gives the status. -/
def perform (args : List String) (w : World) : Acting Nat :=
  match Arguments.read args with
  | .error .help => do
    print (CodePoint.ofString usage)
    return 0
  | .error (.fault f) => report (.usage f)
  | .ok a => tryCatch (do draw a w; return 0) report

/-- What a run starts with outside. -/
def World.outside (w : World) : Outside := { store := w.store }

theorem report_run (e : Failure) (o : Outside) : (report e).run o =
    if e.isReported then (.ok 2, { o with errors := o.errors ++ e.report }) else (.error e, o) := by
  unfold report
  split <;> rfl

end RackElevation.CommandLine
