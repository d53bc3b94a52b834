/-!
# Command lines

A command line names a command with its words. Options may stand anywhere: the schema and the root
type before or after the command, flags after it. Two hyphens alone make everything after them
words.

* `Command`, `Invocation`: what is to be done.
* `Stop`: why nothing is done.
* `Invocation.ofArguments`: reading a command line.
-/

namespace TypedYaml.CommandLine

/-- A command with its words and flags. -/
inductive Command where
  | resolve (path : String)
  | get (path : String) (file : Option String)
  | complete (path start : String) (includeDeprecated : Bool)
  | check (file : Option String) (withoutDeprecated : Bool)
  | types
deriving DecidableEq

/-- A command with the schema and the root type that are given on the command line. -/
structure Invocation where
  schema : Option String
  root : Option String
  command : Command
deriving DecidableEq

/-- Why nothing is done: it was asked for a text only, or the command line makes no sense. -/
inductive Stop where
  | help
  | version
  | misuse
deriving DecidableEq

/-! ## Arguments -/

/-- The options that take a value. -/
inductive OptionName where
  | schema
  | root
deriving DecidableEq

/-- What is given with a command, or before it. -/
structure Given where
  schema : Option String
  root : Option String
  flags : List String
  words : List String

/-- Nothing is given. -/
def Given.none : Given := ⟨.none, .none, [], []⟩

/-- Which arguments there may be: flags, and words up to a number. The word in the place `fileAt` is
the name of a file. Before the command there are no words, but the version can be asked for. -/
structure Level where
  beforeCommand : Bool
  flags : List String
  words : Nat
  fileAt : Option Nat

namespace Given

/-- No option may be given twice, and the name of a file is not empty. -/
def setOption (name : OptionName) (value : String) (g : Given) : Except Stop Given :=
  match name with
  | .schema =>
    if g.schema.isSome || value.isEmpty then .error .misuse
    else .ok { g with schema := some value }
  | .root => if g.root.isSome then .error .misuse else .ok { g with root := some value }

/-- No flag may be given twice. -/
def setFlag (name : String) (g : Given) : Except Stop Given :=
  if g.flags.contains name then .error .misuse else .ok { g with flags := name :: g.flags }

/-- Adds a word, of which there may not be too many. -/
def addWord (l : Level) (word : String) (g : Given) : Except Stop Given :=
  if l.words ≤ g.words.length then .error .misuse
  else if l.fileAt = some g.words.length && word.isEmpty then .error .misuse
  else .ok { g with words := g.words ++ [word] }

end Given

/-! ## Options -/

/-- What an argument can be. A flag is known by its name without hyphens. -/
inductive Argument where
  | word
  | onlyWords
  | option (name : OptionName) (value : Option String)
  | flag (name : String)
  | stop (reason : Stop)

/-- The text after an equals sign, if there is one. -/
def afterEquals : List Char → Option String
  | '=' :: cs => some (String.ofList cs)
  | _ => none

/-- An argument after two hyphens. -/
def longArgument (l : Level) (cs : List Char) : Argument :=
  let name := String.ofList (cs.takeWhile (· ≠ '='))
  let value := afterEquals (cs.dropWhile (· ≠ '='))
  if name = "schema" then .option .schema value
  else if name = "root" then .option .root value
  else if value.isSome then .stop .misuse
  else if name = "help" then .stop .help
  else if name = "version" && l.beforeCommand then .stop .version
  else if l.flags.contains name then .flag name
  else .stop .misuse

/-- The value that stands directly after the letter of an option. -/
def attached : List Char → Option String
  | [] => none
  | cs => some ((afterEquals cs).getD (String.ofList cs))

/-- An argument after one hyphen. -/
def shortArgument (l : Level) (c : Char) (cs : List Char) : Argument :=
  if c = 's' then .option .schema (attached cs)
  else if c = 'r' then .option .root (attached cs)
  else if c = 'h' then .stop .help
  else if c = 'V' && l.beforeCommand then .stop .version
  else .stop .misuse

/-- What an argument is. One hyphen alone is a word. -/
def argumentOf (l : Level) (arg : String) : Argument :=
  match arg.toList with
  | ['-', '-'] => .onlyWords
  | '-' :: '-' :: cs => longArgument l cs
  | '-' :: c :: cs => shortArgument l c cs
  | _ => .word

/-- A word that cannot be taken for an option. -/
def isValue (arg : String) : Bool :=
  match arg.toList with
  | '-' :: _ :: _ => false
  | _ => true

/-! ## Command lines -/

/-- Reads arguments up to the name of a command, or to the end after it. -/
def readLevel (l : Level) (onlyWords : Bool) (g : Given) :
    List String → Except Stop (Given × List String)
  | [] => .ok (g, [])
  | arg :: rest =>
    match if onlyWords then .word else argumentOf l arg with
    | .word =>
      if l.beforeCommand && !onlyWords then .ok (g, arg :: rest)
      else (g.addWord l arg).bind fun g => readLevel l onlyWords g rest
    | .onlyWords => readLevel l true g rest
    | .flag name => (g.setFlag name).bind fun g => readLevel l onlyWords g rest
    | .option name (some value) =>
      (g.setOption name value).bind fun g => readLevel l onlyWords g rest
    | .option name none =>
      match rest with
      | value :: rest =>
        if isValue value then
          (g.setOption name value).bind fun g => readLevel l onlyWords g rest
        else .error .misuse
      | [] => .error .misuse
    | .stop reason => .error reason

/-- What may stand before a command. -/
def topLevel : Level := ⟨true, [], 0, none⟩

/-- What may stand after a command, if there is a command of that name. -/
def levelOf? : String → Option Level
  | "resolve" => some ⟨false, [], 1, none⟩
  | "get" => some ⟨false, [], 2, some 1⟩
  | "complete" => some ⟨false, ["include-deprecated"], 2, none⟩
  | "check" => some ⟨false, ["no-deprecated"], 1, some 0⟩
  | "types" => some ⟨false, [], 0, none⟩
  | _ => none

/-- The command with a name, if it has the words that it needs. -/
def commandOf? (name : String) (g : Given) : Option Command :=
  match name, g.words with
  | "resolve", [path] => some (.resolve path)
  | "get", path :: rest => some (.get path rest.head?)
  | "complete", path :: rest =>
    some (.complete path (rest.headD "") (g.flags.contains "include-deprecated"))
  | "check", words => some (.check words.head? (g.flags.contains "no-deprecated"))
  | "types", _ => some .types
  | _, _ => none

/-- Help can be asked for on the whole or on one command. -/
def helpStop : List String → Stop
  | [] => .help
  | [name] => if name = "help" || (levelOf? name).isSome then .help else .misuse
  | _ => .misuse

/-- An option that is given before and after the command counts as it is given after it. -/
def Invocation.ofArguments (args : List String) : Except Stop Invocation := do
  let (top, rest) ← readLevel topLevel false .none args
  match rest with
  | [] => .error .misuse
  | name :: rest =>
    if name = "help" then .error (helpStop rest)
    else
      match levelOf? name with
      | none => .error .misuse
      | some level =>
        let (given, _) ← readLevel level false .none rest
        match commandOf? name given with
        | none => .error .misuse
        | some command => .ok ⟨given.schema.or top.schema, given.root.or top.root, command⟩

end TypedYaml.CommandLine
