import TypedYaml.CommandLine.Invocation
import TypedYaml.Config
import TypedYaml.Loading
import TypedYaml.Node
import TypedYaml.Yaml.Printer

/-!
# Running commands

* `Surroundings`: the files and the standard input that a command finds.
* `Failure`: why a command fails.
* `typeReport`, `completionLine`: what is printed of a type and of a completion.
* `answer`: what a command says.
* `Outcome`, `run`: what a command line does.
-/

namespace TypedYaml.CommandLine

/-- What a command can read: the configuration, files by their paths, and standard input. There is
no input if it is a terminal. -/
structure Surroundings where
  config : Option Bytes
  file : String → Option Bytes
  input : Option Bytes

/-- Why a command fails. Documents that do not conform to their schema count among the reasons. -/
inductive Failure where
  | noSchema
  | undeclaredType (name : String)
  | noRoot
  | noDocument
  | load (error : LoadError)
  | path (text : String) (error : PathError)
  | resolve (error : ResolveError) (typeName : String)
  | navigation (error : NavigationError) (valid : Path)
  | invalid (errors : Nat)
deriving DecidableEq

/-- The message that is shown, without the word that marks it as an error. -/
def Failure.message : Failure → String
  | .noSchema =>
    "No schema given: use --schema or set \x60schema\x60 in the config file"
  | .undeclaredType name => "Type '" ++ name ++ "' is not declared in the schema"
  | .noRoot => "The schema has no root type: use --root"
  | .noDocument => "No document given: pass a file or pipe YAML to stdin"
  | .load e => e.message
  | .path text _ => "Invalid path '" ++ text ++ "'"
  | .resolve e typeName =>
    e.fault.message ++ " (valid up to '" ++ e.resolved.display ++ "', type " ++ typeName ++ ")"
  | .navigation e valid => e.message ++ " (valid up to '" ++ valid.display ++ "')"
  | .invalid errors => toString errors ++ " error(s) found"

/-- What a command prints, and why it fails if it does. -/
structure Answer where
  output : String
  failure : Option Failure

namespace Answer

/-- A success with the given lines, each with its line end. -/
def lines (ls : List String) : Answer := ⟨String.join (ls.map (· ++ "\n")), none⟩

/-- A command that fails before it prints anything prints nothing. -/
def ofExcept : Except Failure Answer → Answer
  | .ok a => a
  | .error e => ⟨"", some e⟩

end Answer

/-! ## Arguments -/

/-- A blank path is that of the root. -/
def pathOf (text : String) : Except Failure Path :=
  if Text.isBlank text.toList then .ok []
  else (Path.parse text).mapError (.path text)

/-- The schema and the type to start at, from the command line if it gives them. -/
def schemaOf (i : Invocation) (c : Config) (s : Surroundings) :
    Except Failure (Registry × TypeId) :=
  match i.schema.or c.schema with
  | none => .error .noSchema
  | some path => do
    let r ← (Registry.load path (s.file path)).mapError .load
    match i.root.or c.rootType with
    | some name =>
      match r.lookup name with
      | some root => .ok (r, root)
      | none => .error (.undeclaredType name)
    | none =>
      match r.root with
      | some root => .ok (r, root)
      | none => .error .noRoot

/-- The document in a file, or else in standard input. -/
def documentOf (file : Option String) (s : Surroundings) : Except Failure Node :=
  match file, s.input with
  | some path, _ => (Node.load path (s.file path)).mapError .load
  | none, some bytes => (Node.loadInput bytes).mapError .load
  | none, none => .error .noDocument

/-! ## What is printed -/

/-- A type in one line: its name, its kind, the type of its elements and its description. -/
def typeLine (r : Registry) (t : TypeId) : String :=
  let d := r.descriptor t
  let domain :=
    match d.kind with
    | .map u | .sequence u => " of " ++ r.typeName u
    | _ => ""
  let description :=
    match d.description with
    | some text => " - " ++ text
    | none => ""
  d.name ++ " (" ++ d.kind.name ++ ")" ++ domain ++ description

/-- A type with its values and its properties. -/
def typeReport (r : Registry) (t : TypeId) : List String :=
  let d := r.descriptor t
  let values := if d.hints.isEmpty then [] else ["  values: " ++ ", ".intercalate d.hints]
  typeLine r t :: values ++
    d.properties.map fun p => "  " ++ p.name ++ ": " ++ r.typeName p.type

/-- A completion in one line. -/
def completionLine (c : Completion) : String :=
  let deprecated := if c.deprecated then " (deprecated)" else ""
  let description :=
    match c.description with
    | some text => " - " ++ text
    | none => ""
  c.label ++ ": " ++ c.typeName ++ deprecated ++ description

/-! ## Commands -/

/-- Reports the type at a path, or the place where the path leaves the schema. -/
def resolve (r : Registry) (root : TypeId) (path : Path) : Except Failure Answer :=
  match r.resolve root path with
  | .ok t => .ok (.lines (typeReport r t))
  | .error e => .error (.resolve e (r.typeName e.reached))

/-- Prints the nodes at a path, each as a document. -/
def get (document : Node) (path : Path) : Except Failure Answer :=
  match Node.descent.traverse [document] path with
  | .ok nodes => .ok ⟨String.join (nodes.map Node.toYaml), none⟩
  | .error f => .error (.navigation f.error f.valid)

/-- Prints all problems of a document, and fails if there is an error among them. Warnings are
printed, but they are no failure. -/
def check (r : Registry) (options : CheckOptions) (root : TypeId) (document : Node) : Answer :=
  let diagnostics := r.validate options root document
  let errors := (diagnostics.filter Diagnostic.isError).length
  { Answer.lines (diagnostics.map Diagnostic.display) with
    failure := if errors = 0 then none else some (.invalid errors) }

/-- What a command says. Files are loaded before a path is read. -/
def answer (i : Invocation) (s : Surroundings) : Except Failure Answer :=
  let c := Config.ofFile s.config
  match i.command with
  | .resolve path => do
    let (r, root) ← schemaOf i c s
    let path ← pathOf path
    resolve r root path
  | .get path file => do
    let document ← documentOf file s
    let path ← pathOf path
    get document path
  | .complete path start includeDeprecated => do
    let (r, root) ← schemaOf i c s
    let path ← pathOf path
    let options : CompletionOptions :=
      { c.completionOptions with includeDeprecated := c.includeDeprecated || includeDeprecated }
    .ok (.lines ((r.complete options root path start).map completionLine))
  | .check file withoutDeprecated => do
    let (r, root) ← schemaOf i c s
    let document ← documentOf file s
    .ok (check r ⟨c.reportDeprecated && !withoutDeprecated⟩ root document)
  | .types => do
    let (r, _) ← schemaOf i c s
    .ok (.lines (((List.range r.size).drop 1).map fun t => typeLine r ⟨t⟩))

/-! ## Outcomes -/

/-- What is left of a run: the exit code, and what is printed to either stream. -/
structure Outcome where
  code : Nat
  output : String
  error : Option String

/-- The text that the option `--version` asks for. -/
def version : String := "yschema 0.1.0\n"

/-- Help is a success, misuse is not. The texts that explain the usage are left out. -/
def Outcome.ofStop : Stop → Outcome
  | .help => ⟨0, "", none⟩
  | .version => ⟨0, version, none⟩
  | .misuse => ⟨2, "", none⟩

/-- A failure is told after what was printed. -/
def Outcome.ofAnswer (a : Answer) : Outcome :=
  match a.failure with
  | none => ⟨0, a.output, none⟩
  | some f => ⟨1, a.output, some ("Error: " ++ f.message)⟩

/-- What a command line does. -/
def run (args : List String) (s : Surroundings) : Outcome :=
  match Invocation.ofArguments args with
  | .error stop => .ofStop stop
  | .ok i => .ofAnswer (.ofExcept (answer i s))

end TypedYaml.CommandLine
