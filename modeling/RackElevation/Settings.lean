import RackElevation.Data.Checked
import RackElevation.Data.Dump
import RackElevation.Dialect
import RackElevation.Storage.Store
import RackElevation.Text.Lines
import RackElevation.Yaml.Meaning

/-
  Settings

  What the command line and the service go by: a base for note links, limits,
  the dialect of sources that do not say theirs, and how much is logged. They
  come from a YAML file, from the file that the environment names, or are the
  defaults. An escape in such a file may put a surrogate into the base; the
  dialect and the log level are names, which have none.

  What is proved:
    1. `Level.ofName?_name` — a level is known by its name.
    2. `choose_dialect` — checked settings name a dialect that there is.
-/

namespace RackElevation

open Data Text

/-- How grave a log message is. -/
inductive Level
  | debug
  | info
  | warning
  | error
  deriving DecidableEq, Repr

namespace Level

/-- The name of a level. -/
def name : Level → String
  | .debug => "DEBUG"
  | .info => "INFO"
  | .warning => "WARNING"
  | .error => "ERROR"

/-- All levels, in the order of their names. -/
def all : List Level := [.debug, .error, .info, .warning]

/-- The level with a name. -/
def ofName? (name : String) : Option Level := all.find? fun l => l.name == name

/-- The rank of a level among all. -/
def rank : Level → Nat
  | .debug => 0
  | .info => 1
  | .warning => 2
  | .error => 3

/-- Whether messages of a level are logged where `least` is the lowest that is. -/
def logs (least level : Level) : Bool := least.rank ≤ level.rank

theorem ofName?_name (l : Level) : ofName? l.name = some l := by cases l <;> rfl

end Level

/-- Settings, with a base for note links of some kind. -/
structure SettingsOver (β : Type) where
  linkBase : Option β := none
  maxContentLength : Int := 1048576
  maxRackHeight : Int := 200
  dialect : String := "rack-text"
  logLevel : Level := .info
  deriving DecidableEq, Repr

/-- The same settings with another base. -/
def SettingsOver.withBase {β γ : Type} (s : SettingsOver β) (base : Option γ) : SettingsOver γ :=
  ⟨base, s.maxContentLength, s.maxRackHeight, s.dialect, s.logLevel⟩

/-- The settings of a run whose base is a text. A base with surrogates, which an escape in a settings
file may give, is none: settings that have one are `Settings.Loaded`, and no `Settings`. What the
service does under such a base is left open, as only the encoding of its responses tells. -/
abbrev Settings := SettingsOver String

namespace Settings

/-- The settings of a file, whose base may have surrogates. -/
abbrev Loaded := SettingsOver (List CodePoint)

/-- Settings whose dialect and log level are still to be checked. -/
structure Draft where
  linkBase : Option (List CodePoint)
  maxContentLength : Int
  maxRackHeight : Int
  dialect : List CodePoint
  logLevel : List CodePoint

/-- The choice of a dialect and a log level. -/
def choose (d : Draft) : Checked Loaded :=
  let level := CodePoint.upper d.logLevel
  match (CodePoint.string? d.dialect).filter Dialect.names.contains with
  | none =>
    .fail (.rejected ("unsupported default_dialect: " ++ CodePoint.quote d.dialect ++ Dialect.allowed))
  | some dialect =>
    match (CodePoint.string? level).bind Level.ofName? with
    | none => .fail (.rejected ("unsupported log_level: " ++ CodePoint.quote level ++ "; allowed: " ++
        quotedList (Level.all.map Level.name)))
    | some l => .accepted ⟨d.linkBase, d.maxContentLength, d.maxRackHeight, dialect, l⟩

/-- The settings of data, whose base may have surrogates. -/
def checkLoaded (v : Value) : Checked Loaded :=
  (recordOf "Settings"
    ["internal_link_base", "max_content_length", "max_rack_height", "default_dialect", "log_level"]
    (fun v => Draft.mk <$> withDefault "internal_link_base" none (orNull checkCodes) v <*>
      withDefault "max_content_length" 1048576 (above 0) v <*>
      withDefault "max_rack_height" 200 (above 0) v <*>
      withDefault "default_dialect" (CodePoint.ofString "rack-text") checkCodes v <*>
      withDefault "log_level" (CodePoint.ofString "INFO") checkCodes v) v).andThen choose

/-- The settings with their base as a text. -/
def Loaded.checkBase (s : Loaded) : Checked Settings :=
  match s.linkBase with
  | none => .accepted (s.withBase none)
  | some base =>
    match CodePoint.string? base with
    | some text => .accepted (s.withBase (some text))
    | none => .refused [⟨[.field "internal_link_base"], .undecodableText⟩]

/-- Settings from data. -/
def check (v : Value) : Checked Settings := (checkLoaded v).andThen Loaded.checkBase

/-- Settings as data. -/
def toValue (s : Settings) : Value :=
  .record [(.text "internal_link_base", .ofText? s.linkBase),
    (.text "max_content_length", .int s.maxContentLength),
    (.text "max_rack_height", .int s.maxRackHeight), (.text "default_dialect", .text s.dialect),
    (.text "log_level", .text s.logLevel.name)]

/-- Why there are no settings. -/
inductive Error
  | unreadable (path : Path) (fault : Store.Fault)
  | undecodable (fault : Utf8.Fault)
  | malformed (path : Path) (source : List Char) (error : Yaml.Error)
  | invalid (path : Path) (issues : List Issue)

/-- The sentence for an error. -/
def Error.message : Error → String
  | .unreadable _ .nullCharacter => Store.Fault.text .nullCharacter
  | .unreadable path fault =>
    "failed to read settings file " ++ String.ofList path.toText ++ ": " ++ fault.message path
  | .undecodable fault => fault.message
  | .malformed path source e =>
    (if e.isPlaced then "YAML parse error in " ++ String.ofList path.toText ++ ": " else "") ++
      e.display source
  | .invalid path issues =>
    "invalid settings in " ++ String.ofList path.toText ++ ": " ++ toString issues.length ++
      " error(s); " ++ ((issues.head?.map fun i => i.problem.message).getD "")

/-- Whether an error is reported to the user as one of the settings. -/
def Error.isReported : Error → Bool
  | .unreadable _ .nullCharacter => false
  | .undecodable _ => false
  | .malformed _ _ e => e.isPlaced
  | _ => true

/-- Whether a value counts as nothing. -/
def isNothing : Value → Bool
  | .null => true
  | .bool b => !b
  | .int n => n == 0
  | .real (.finite x) => x.significand == 0
  | .text s => s.isEmpty
  | .bytes b => b.isEmpty
  | .list l => l.isEmpty
  | .record l => l.isEmpty
  | .set l => l.isEmpty
  | _ => false

/-- Whether a key of a record has surrogates, which ends its check at once. -/
def hasCodesKey : Value → Bool
  | .record fields => fields.any fun f =>
    match f.1 with
    | .codes _ => true
    | _ => false
  | _ => false

/-- The settings in the source of a file. -/
def parse (levels : Nat) (path : Path) (source : List Char) : Except Error Loaded := do
  let v ← (Yaml.load levels source).mapError (.malformed path source)
  let checked := if hasCodesKey v then .fail .undecodableText
    else checkLoaded (if isNothing v then .record [] else v)
  checked.toExcept.mapError (.invalid path)

/-- The settings in a file. -/
def read (levels : Nat) (store : Store) (path : Path) : Except Error Loaded := do
  let bytes ← (store.read path).mapError (.unreadable path)
  let source ← (Utf8.decode bytes).mapError .undecodable
  parse levels path (unifyBreaks source)

/-- The settings of the file with a name, or else of the one that the environment names. An empty
name is none. The stack allows so many levels of nodes in a file. -/
def load (levels : Nat) (store : Store) (named environment : Option String) : Except Error Loaded :=
  match named.or environment with
  | none => .ok {}
  | some path => if path.isEmpty then .ok {} else read levels store (Path.ofText path.toList)

theorem choose_dialect {d : Draft} {s : Loaded} (h : choose d = .accepted s) :
    s.dialect ∈ Dialect.names := by
  simp only [choose] at h
  split at h
  · cases h
  · next dialect hdialect =>
    split at h
    · cases h
    · cases h
      exact List.contains_iff_mem.1 (Option.filter_eq_some_iff.1 hdialect).2

end Settings

end RackElevation
