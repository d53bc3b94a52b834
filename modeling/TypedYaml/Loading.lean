import TypedYaml.Gzip.Member
import TypedYaml.Schema.Definition.Reading
import TypedYaml.Basic
import TypedYaml.Yaml.Document

/-!
# Loading files

Documents and schemas are read from files, which may be compressed if their names say so. Standard
input is recognised as compressed by its first bytes.

* `LoadError`: why there is nothing to work with.
* `fileText`, `inputText`: the texts of a file and of standard input.
* `Node.load`, `Node.loadInput`, `Registry.load`: what they contain.
-/

namespace TypedYaml

/-- Why there is nothing to work with. -/
inductive LoadError where
  | unreadable (path : String)
  | unopened (path : String)
  | corruptFile
  | corruptInput
  | inputEncoding
  | document (path : String) (fault : Yaml.Fault)
  | inputDocument (fault : Yaml.Fault)
  | schema (path : String) (error : SchemaTextError)
deriving DecidableEq

namespace LoadError

/-- The messages, from the outermost inwards. -/
def messages : LoadError → List String
  | .unreadable path => ["Failed to read " ++ path]
  | .unopened path => ["Failed to open gzipped file " ++ path]
  | .corruptFile => ["Failed to decompress gzipped file - file may be corrupted"]
  | .corruptInput => ["Failed to decompress gzipped input"]
  | .inputEncoding => ["Invalid UTF-8 in input"]
  | .document path _ => ["Failed to parse " ++ path, "Failed to parse YAML"]
  | .inputDocument _ => ["Failed to parse YAML from stdin", "Failed to parse YAML"]
  | .schema path e => ("Failed to load schema " ++ path) :: e.messages

/-- The message that is shown, which is the outermost one. -/
def message (e : LoadError) : String := e.messages.headD ""

end LoadError

/-! ## Names of files -/

/-- The last part of a path that says something. -/
def fileName? (path : String) : Option (List Char) :=
  let parts := (path.toList.splitOn '/').filter fun part => !part.isEmpty && part ≠ ['.']
  parts.getLast?.filter (· ≠ ['.', '.'])

/-- What follows the last dot of a file name, unless the name starts with that dot. -/
def extension? (path : String) : Option (List Char) := do
  let name ← fileName? path
  match (name.splitOn '.').reverse with
  | last :: before :: rest => if before.isEmpty ∧ rest.isEmpty then none else some last
  | _ => none

/-- Whether the name of a file says that it is compressed. -/
def isCompressedName (path : String) : Bool := extension? path = some ['g', 'z']

/-! ## Texts -/

/-- The text that is compressed, if there is one. -/
def decompressedText? (contents : Bytes) : Option String :=
  (Gzip.decompress contents).toOption.bind Text.ofUtf8?

/-- The text of a file with the given contents, if there is such a file. -/
def fileText (path : String) (contents : Option Bytes) : Except LoadError String :=
  if isCompressedName path then
    match contents with
    | none => .error (.unopened path)
    | some bytes => (decompressedText? bytes).elim (.error .corruptFile) .ok
  else (contents.bind Text.ofUtf8?).elim (.error (.unreadable path)) .ok

/-- The text of standard input, which may be compressed. -/
def inputText (contents : Bytes) : Except LoadError String :=
  if Gzip.isCompressed contents then
    (decompressedText? contents).elim (.error .corruptInput) .ok
  else (Text.ofUtf8? contents).elim (.error .inputEncoding) .ok

/-! ## Documents and schemas -/

/-- The document in a file with the given contents. -/
def Node.load (path : String) (contents : Option Bytes) : Except LoadError Node := do
  let text ← fileText path contents
  (Node.ofYaml text).mapError (.document path)

/-- The document in standard input. -/
def Node.loadInput (contents : Bytes) : Except LoadError Node := do
  let text ← inputText contents
  (Node.ofYaml text).mapError .inputDocument

/-- The schema in a file with the given contents. -/
def Registry.load (path : String) (contents : Option Bytes) : Except LoadError Registry := do
  let text ← fileText path contents
  (Registry.ofYaml text).mapError (.schema path)

end TypedYaml
