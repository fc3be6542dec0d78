import RackElevation.Storage.Path
import RackElevation.Text.Quoted
import RackElevation.Text.Utf8

/-
  Storage

  Files and folders, each at a place: its names from the root down. A path that
  has no root starts at the working folder. It is followed name by name, each
  name but the last through a folder; two points lead back to the folder above.

  What is proved:
    1. `get?_put` — what was put at a place is what is there.
    2. `get?_put_ne` — every other place keeps what it has.
-/

namespace RackElevation

open Text

/-- The names on the way from the root. -/
abbrev Place := List (List Char)

/-- A file with its bytes, or a folder. -/
inductive Entry
  | file (bytes : List UInt8)
  | folder
  deriving DecidableEq, Repr

/-- The files and folders that are known, and the working folder. -/
structure Store where
  working : Place := []
  entries : List (Place × Entry) := []
  deriving DecidableEq, Repr

namespace Store

/-- Why a file cannot be used. -/
inductive Fault
  | missing
  | notFolder
  | isFolder
  | nameTooLong
  /-- The path holds a null character. -/
  | nullCharacter
  deriving DecidableEq, Repr

/-- The number and the sentence for a fault. -/
def Fault.text : Fault → String
  | .missing => "[Errno 2] No such file or directory"
  | .notFolder => "[Errno 20] Not a directory"
  | .isFolder => "[Errno 21] Is a directory"
  | .nameTooLong => "[Errno 36] File name too long"
  | .nullCharacter => "embedded null byte"

/-- The sentence for a fault with a path. -/
def Fault.message (path : Path) : Fault → String
  | .nullCharacter => Fault.text .nullCharacter
  | f => f.text ++ ": " ++ String.ofList (quote path.toText)

/-- The longest name, in bytes. -/
def maxName : Nat := 255

/-- The longest path, in bytes. -/
def maxPath : Nat := 4095

/-- What is at a place; the way to the working folder is there in any case. -/
def get? (s : Store) (place : Place) : Option Entry :=
  if place.isPrefixOf s.working then some .folder else s.entries.lookup place

/-- The store with an entry at a place. -/
def put (s : Store) (place : Place) (entry : Entry) : Store :=
  { s with entries := (place, entry) :: s.entries.filter fun e => e.1 != place }

/-- The store with an entry below the working folder, and the folders on the way to it. -/
def add (s : Store) (names : Place) (entry : Entry) : Store :=
  let way := (List.range (names.length - 1)).map fun n => s.working ++ names.take (n + 1)
  (way.foldl (fun s p => s.put p .folder) s).put (s.working ++ names) entry

/-- The place one name further on, from a folder. -/
def enter (s : Store) (place : Place) (name : List Char) : Except Fault Place :=
  match s.get? place with
  | none => .error .missing
  | some (.file _) => .error .notFolder
  | some .folder =>
    if maxName < (Utf8.encode name).length then .error .nameTooLong
    else if name = ['.', '.'] then .ok place.dropLast
    else .ok (place ++ [name])

/-- The place a path leads to. -/
def locate (s : Store) (path : Path) : Except Fault Place :=
  if path.toText.contains '\x00' then .error .nullCharacter
  else if maxPath < (Utf8.encode path.toText).length then .error .nameTooLong
  else path.names.foldlM s.enter (if path.root.isEmpty then s.working else [])

/-- The bytes of a file. -/
def read (s : Store) (path : Path) : Except Fault (List UInt8) := do
  match s.get? (← s.locate path) with
  | some (.file bytes) => .ok bytes
  | some .folder => .error .isFolder
  | none => .error .missing

/-- The place of a file that can be written, in a folder that is there. -/
def target (s : Store) (path : Path) : Except Fault Place := do
  let place ← s.locate path
  match s.get? place with
  | some .folder => .error .isFolder
  | _ => .ok place

/-- The files that another store has and this one has not, or has with other bytes. -/
def changes (before after : Store) : List (Place × List UInt8) :=
  after.entries.filterMap fun (place, entry) =>
    match entry with
    | .folder => none
    | .file bytes => if before.get? place = some (.file bytes) then none else some (place, bytes)

theorem get?_put (s : Store) {place : Place} (entry : Entry) (h : ¬ place.isPrefixOf s.working) :
    (s.put place entry).get? place = some entry := by
  simp only [get?, put, if_neg h, List.lookup_cons_self]

theorem get?_put_ne (s : Store) {place other : Place} (entry : Entry) (h : other ≠ place) :
    (s.put place entry).get? other = s.get? other := by
  have hb : (other == place) = false := by simpa using h
  have hl : ∀ l : List (Place × Entry),
      (l.filter fun e => e.1 != place).lookup other = l.lookup other := by
    intro l
    induction l with
    | nil => rfl
    | cons e r ih =>
      rcases e with ⟨p, v⟩
      by_cases hp : p = place
      · subst hp
        simp [List.lookup_cons, hb, ih]
      · simp [hp, List.lookup_cons, ih]
  simp [get?, put, List.lookup_cons, hb, hl]

end Store

end RackElevation
