import TypedYaml.Check
import TypedYaml.Completion
import TypedYaml.Basic
import TypedYaml.Toml.Parser
import TypedYaml.Toml.Printer

/-!
# Configuration

Settings that hold where the command line says nothing. They are kept in a file; a file with any
mistake in it counts as if it were not there.

* `Config`, `Config.default`: the settings.
* `Config.ofFile`: the settings in a file.
* `Config.toToml`: the text of a file with given settings.
-/

namespace TypedYaml

/-- The settings. -/
structure Config where
  schema : Option String
  rootType : Option String
  reportDeprecated : Bool
  includeDeprecated : Bool
  maxCompletions : Nat
deriving DecidableEq

namespace Config

/-- The settings where there is no file. -/
def default : Config where
  schema := none
  rootType := none
  reportDeprecated := true
  includeDeprecated := false
  maxCompletions := 50

/-- The settings for checking. -/
def checkOptions (c : Config) : CheckOptions := ⟨c.reportDeprecated⟩

/-- The settings for completion. -/
def completionOptions (c : Config) : CompletionOptions := ⟨c.includeDeprecated, c.maxCompletions⟩

/-! ## Reading -/

open Toml (Item)

/-- The value of a setting that may be missing; there is none if it is of the wrong kind. -/
def setting? {α : Type} (read : Item → Option α) (absent : α) (name : String)
    (settings : Toml.Entries) : Option α :=
  match settings.lookup name with
  | none => some absent
  | some item => read item

/-- A setting that is a text. -/
def text? : Item → Option (Option String)
  | .string s => some (some s)
  | _ => none

/-- A setting that is a truth value. -/
def bool? : Item → Option Bool
  | .bool b => some b
  | _ => none

/-- A setting that is a number and not below zero. -/
def natural? : Item → Option Nat
  | .int i => if 0 ≤ i.toInt then some i.toInt.toNat else none
  | _ => none

/-- Settings of other names are passed over. -/
def ofSettings? (settings : Toml.Entries) : Option Config := do
  let schema ← setting? text? none "schema" settings
  let rootType ← setting? text? none "root_type" settings
  let reportDeprecated ← setting? bool? true "report_deprecated" settings
  let includeDeprecated ← setting? bool? false "include_deprecated_completions" settings
  let maxCompletions ← setting? natural? 50 "max_completions" settings
  some ⟨schema, rootType, reportDeprecated, includeDeprecated, maxCompletions⟩

/-- The settings in a text, if there is no mistake in it. -/
def ofText? (text : String) : Option Config := Toml.read? text >>= ofSettings?

/-- The settings in a file with the given contents, if there is one. -/
def ofFile (contents : Option Bytes) : Config :=
  ((contents.bind Text.ofUtf8?).bind ofText?).getD default

/-! ## Writing -/

/-- One setting. -/
def line (name : String) (value : List Char) : List Char :=
  name.toList ++ " = ".toList ++ value ++ ['\n']

/-- The written form of a truth value. -/
def boolChars (b : Bool) : List Char := if b then "true".toList else "false".toList

/-- A setting that may be absent; nothing is written then. -/
def textLine (name : String) : Option String → List Char
  | none => []
  | some s => line name (Toml.quote s)

/-- The text of a file with the given settings. -/
def toToml (c : Config) : String :=
  String.ofList <|
    textLine "schema" c.schema ++ textLine "root_type" c.rootType ++
      line "report_deprecated" (boolChars c.reportDeprecated) ++
      line "include_deprecated_completions" (boolChars c.includeDeprecated) ++
      line "max_completions" (Nat.toDigits 10 c.maxCompletions)

end Config

end TypedYaml
