import TypedYaml.Schema.Definition
import TypedYaml.Schema.Definition.Datum
import TypedYaml.Yaml.Tree
import TypedYaml.Yaml.Tree.Parser

/-!
# Reading schema definitions

A definition is a mapping with the members `root` and `types`; each type is a mapping with the
members `description`, `values`, `atomic` and `properties`. Where a text is called for, any
scalar is taken as it is written. A property is the text of its type, or a mapping that has it as
its member `type`.

* `DeprecationDefinition.ofDatum`, `PropertyDefinition.ofDatum`, `TypeDefinition.ofTree`,
  `SchemaDefinition.ofTree`: the parts.
* `SchemaDefinition.ofYaml`: the definition that a text contains.
* `Registry.ofYaml`: the schema that it describes.
-/

namespace TypedYaml

open Yaml (Tree Plain)

/-! ## Properties -/

/-- The member that says that a property is deprecated, which may be missing. -/
def DeprecationDefinition.ofDatum :
    Option Datum → Except DefinitionFault (Option DeprecationDefinition)
  | none | some .null => .ok none
  | some (.bool value) => .ok (some (.flag value))
  | some (.mapping entries) => do
    let found ← Datum.members ["replacement", "reason"] entries
    let replacement ← Datum.text? (found.lookup "replacement")
    let reason ← Datum.text? (found.lookup "reason")
    .ok (some (.details replacement reason))
  | _ => .error .propertyExpected

namespace PropertyDefinition

/-- A text is the short form. A mapping is the full one, if it has a type. -/
def ofDatum : Datum → Except DefinitionFault PropertyDefinition
  | .string type => .ok (.short type)
  | .mapping entries => do
    let found ← Datum.members ["type", "description", "deprecated"] entries
    match found.lookup "type" with
    | some (.string type) =>
      let description ← Datum.text? (found.lookup "description")
      let deprecated ← DeprecationDefinition.ofDatum (found.lookup "deprecated")
      .ok (.full type description deprecated)
    | _ => .error .propertyExpected
  | _ => .error .propertyExpected

/-- A property in either form. -/
def ofTree (t : Tree) : Except DefinitionFault PropertyDefinition := Datum.ofTree t >>= ofDatum

end PropertyDefinition

/-! ## Trees of a known shape -/

namespace Definition

/-- The text of any scalar. -/
def text : Tree → Except DefinitionFault String
  | .scalar _ s _ => .ok s
  | _ => .error .textExpected

/-- The entries of a mapping. Where nothing is written the mapping is empty. -/
def entries : Tree → Except DefinitionFault (List (Tree × Tree))
  | .mapping es _ => .ok es
  | .scalar .plain "" _ => .ok []
  | _ => .error .mappingExpected

/-- The items of a sequence. Where nothing is written there are none. -/
def items : Tree → Except DefinitionFault (List Tree)
  | .sequence ts _ => .ok ts
  | .scalar .plain "" _ => .ok []
  | _ => .error .sequenceExpected

/-- Whether a tree stands for a value that is absent. -/
def isAbsent : Tree → Except DefinitionFault Bool
  | .scalar .plain s p =>
    if p.tag.any (·.full = Yaml.coreTagStart ++ "null") then
      if Plain.isNull s then .ok true else .error .misfitTag
    else if p.tag.any (·.full ≠ "!") then .ok false
    else .ok (s = "" || Plain.isNull s)
  | _ => .ok false

/-- Reads a member that may be missing or absent. -/
def optional {α : Type} (read : Tree → Except DefinitionFault α) :
    Option Tree → Except DefinitionFault (Option α)
  | none => .ok none
  | some t => do
    if ← isAbsent t then .ok none
    else (read t).map some

/-- Reads a member that has a value also where it is missing. -/
def withDefault {α : Type} (default : α) (read : Tree → Except DefinitionFault α) :
    Option Tree → Except DefinitionFault α
  | none => .ok default
  | some t => read t

/-- A truth value, which has to be written plain unless a tag says what it is. -/
def flag : Tree → Except DefinitionFault Bool
  | .scalar style s p =>
    let readable :=
      style = .plain ∨ style = .literal ∧ p.tag.any (·.full = Yaml.coreTagStart ++ "bool")
    match Plain.bool? s with
    | some b => if readable then .ok b else .error .flagExpected
    | none => .error .flagExpected
  | _ => .error .flagExpected

/-- The members of a mapping, each of which has one of the given names and occurs once. -/
def members (names : List String) : List (Tree × Tree) → Except DefinitionFault (Entries Tree)
  | [] => .ok []
  | (key, value) :: rest => do
    let name ← text key
    let found ← members names rest
    if !names.contains name then .error (.unknownMember name)
    else if (found.lookup name).isSome then .error (.repeatedMember name)
    else .ok ((name, value) :: found)

/-- A mapping with any keys; of entries with one key the last counts, in the first place. -/
def table {α : Type} (read : Tree → Except DefinitionFault α) (t : Tree) :
    Except DefinitionFault (Entries α) := do
  let es ← entries t
  let writes ← es.mapM fun (key, value) => do
    let name ← text key
    let v ← read value
    .ok (name, v)
  .ok (Entries.ofList writes)

end Definition

/-! ## Definitions -/

open Definition

/-- A type, none of whose members may be repeated or unknown. -/
def TypeDefinition.ofTree (t : Tree) : Except DefinitionFault TypeDefinition := do
  let es ← entries t
  let found ← members ["description", "values", "atomic", "properties"] es
  let description ← optional text (found.lookup "description")
  let values ← optional (fun v => items v >>= (·.mapM text)) (found.lookup "values")
  let atomic ← withDefault false flag (found.lookup "atomic")
  let properties ← withDefault [] (table PropertyDefinition.ofTree) (found.lookup "properties")
  .ok ⟨description, values, atomic, properties⟩

namespace SchemaDefinition

/-- A definition, none of whose members may be repeated or unknown. -/
def ofTree (t : Tree) : Except DefinitionFault SchemaDefinition := do
  let es ← entries t
  let found ← members ["root", "types"] es
  let root ← optional text (found.lookup "root")
  let types ← withDefault [] (table TypeDefinition.ofTree) (found.lookup "types")
  .ok ⟨root, types⟩

/-- A text without a document is an empty definition. -/
def ofYaml (text : String) : Except DefinitionFault SchemaDefinition := do
  let trees ← (Tree.ofText .v11 text).mapError .yaml
  match trees with
  | [] => .ok ⟨none, []⟩
  | [t] =>
    let t ← t.expand.mapError .yaml
    ofTree t
  | _ => .error .severalDocuments

end SchemaDefinition

/-- The schema that the definition in a text describes. -/
def Registry.ofYaml (text : String) : Except SchemaTextError Registry := do
  let definition ← (SchemaDefinition.ofYaml text).mapError .malformed
  definition.build.mapError .invalid

end TypedYaml
