import TypedYaml.CommandLine.Run

/-!
# The program

Reads the files that a command line names, and prints what it says.
-/

namespace TypedYaml.CommandLine

/-- The contents of a file that can be read. -/
def readFile? (path : String) : IO (Option Bytes) := do
  try
    let contents ← IO.FS.readBinFile path
    return some contents.toList
  catch _ => return none

/-- All bytes that are left, read piece by piece. -/
partial def readAll (stream : IO.FS.Stream) (done : ByteArray) : IO ByteArray := do
  let piece ← stream.read 65536
  if piece.isEmpty then return done
  readAll stream (done ++ piece)

/-- There is no input where it would have to be typed. -/
def readInput? : IO (Option Bytes) := do
  let stream ← IO.getStdin
  if ← stream.isTty then return none
  let contents ← readAll stream .empty
  return some contents.toList

/-- The contents of the configuration file, which lies in the home directory. -/
def readConfig? : IO (Option Bytes) := do
  match ← IO.getEnv "HOME" with
  | none => return none
  | some home => readFile? (home ++ "/.config/yschema/config.toml")

/-- The files that a command line names, with the schema of the configuration. -/
def pathsOf (i : Invocation) (c : Config) : List String :=
  let document :=
    match i.command with
    | .get _ file | .check file _ => file
    | _ => none
  (i.schema.or c.schema).toList ++ document.toList

/-- Standard input is read only by the commands that need it. -/
def needsInput (i : Invocation) : Bool :=
  match i.command with
  | .get _ none | .check none _ => true
  | _ => false

/-- All that a command can read, read before it runs. -/
def surroundingsOf (args : List String) : IO Surroundings := do
  let config ← readConfig?
  match Invocation.ofArguments args with
  | .error _ => return ⟨config, fun _ => none, none⟩
  | .ok i => do
    let files ← (pathsOf i (.ofFile config)).mapM fun path => do
      let contents ← readFile? path
      return (path, contents)
    let input ← if needsInput i then readInput? else pure none
    return ⟨config, fun path => (files.lookup path).join, input⟩

end TypedYaml.CommandLine

open TypedYaml.CommandLine

/-- Runs a command line. Errors go to the other stream. -/
def main (args : List String) : IO UInt32 := do
  let surroundings ← surroundingsOf args
  let outcome := run args surroundings
  IO.print outcome.output
  match outcome.error with
  | none => pure ()
  | some message => IO.eprintln message
  return outcome.code.toUInt32
