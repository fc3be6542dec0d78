import RackElevation.CommandLine

/-
  The program

  Runs the command line in the real world: what the arguments name is read from
  disk first, the run itself is a function of that, and what it leaves behind is
  written afterwards.
-/

namespace RackElevation.Program

open Text

/-- Whether there is a folder at a path from the root. -/
def isFolder (path : String) : IO Bool := do
  ((← IO.currentDir) / path).isDir

/-- The bytes of a file, if there is one. -/
def fileBytes? (path : String) : IO (Option (List UInt8)) := do
  try
    return some (← IO.FS.readBinFile path).toList
  catch _ => return none

/-- The path of a place on disk. -/
def diskPath (place : Place) : String := String.ofList ('/' :: join '/' place)

/-- The store with what is found on the way along a path. -/
def observe (store : Store) (path : Path) : IO Store := do
  let mut store := store
  let mut place := if path.root.isEmpty then store.working else []
  for name in path.names do
    place := if name = ['.', '.'] then place.dropLast else place ++ [name]
    if ← isFolder (diskPath place) then
      store := store.put place .folder
    else if let some bytes ← fileBytes? (diskPath place) then
      store := store.put place (.file bytes)
  return store

/-- All bytes of a stream. -/
partial def readAll (stream : IO.FS.Stream) (bytes : ByteArray) : IO ByteArray := do
  let more ← stream.read 65536
  if more.isEmpty then return bytes else readAll stream (bytes ++ more)

/-- What standard input holds, if the arguments ask for it. -/
def standardInput (a : Option Arguments) : IO (List UInt8) := do
  match a with
  | some a =>
    if (CommandLine.given a.input).isNone && a.text.isNone then
      return (← readAll (← IO.getStdin) ByteArray.empty).toList
    else return []
  | none => return []

end RackElevation.Program

open RackElevation Program

/-- Runs the command line and reports how it went. -/
def main (args : List String) : IO UInt32 := do
  let working := (Path.ofText (← IO.currentDir).toString.toList).names
  let config ← IO.getEnv "RACKVIZ_CONFIG"
  let a := (Arguments.read args).toOption
  let named := match a with
    | some a => [a.config.or config, a.input, a.output].filterMap CommandLine.given
    | none => []
  let store ← named.foldlM (fun s p => observe s (Path.ofText p.toList)) ⟨working, []⟩
  let world : CommandLine.World := { input := ← standardInput a, config, store }
  let (status, o) := (CommandLine.perform args world).run world.outside
  for (place, bytes) in store.changes o.store do
    IO.FS.writeBinFile (diskPath place) (ByteArray.mk bytes.toArray)
  IO.print o.output
  IO.eprint o.errors
  match status with
  | .ok n => return n.toUInt32
  | .error e =>
    IO.eprintln e.message
    return 1
