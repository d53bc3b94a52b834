import TypedYaml.Node
import TypedYaml.Yaml.Tree.Parser
import TypedYaml.Yaml.Value

/-!
# Reading documents

* `Value.toNode`: a value as a document tree. Its mappings have texts as keys: an entry whose key
  is no scalar is left out, and of entries with one text the last counts, in the first place.
* `Node.ofYaml`: the documents of a text.
-/

namespace TypedYaml

namespace Yaml.Value

/-- The text of a key that is a scalar. A real number keeps its spelling, an integer does not. -/
def keyText? : Value → Option String
  | .string s | .real s => some s
  | .int i => some (String.ofList (Text.ofInt i.toInt))
  | .bool b => some (Node.boolText b)
  | .null => some "null"
  | _ => Option.none

mutual

/-- A value as a document tree. What has no value is null. -/
def toNode : Value → Node
  | .null | .none => .null
  | .bool b => .bool b
  | .int i => .number (.int i)
  | .real text => ((floatOf? text).map fun f => Node.number (.float f)).getD (.string text)
  | .string s => .string s
  | .sequence items => .sequence (toNodes items)
  | .mapping entries => .mapping (Entries.ofList (toEntries entries))

/-- The items of a sequence. -/
def toNodes : List Value → List Node
  | [] => []
  | v :: rest => toNode v :: toNodes rest

/-- The entries whose keys are scalars. -/
def toEntries : List (Value × Value) → List (String × Node)
  | [] => []
  | (k, v) :: rest =>
    match keyText? k with
    | some key => (key, toNode v) :: toEntries rest
    | Option.none => toEntries rest

end

end Yaml.Value

/-- Each document has anchors of its own. -/
def Yaml.valuesOf (trees : List Yaml.Tree) : Except Yaml.Fault (List Yaml.Value) :=
  trees.mapM fun tree => (Yaml.Value.ofTree .empty tree).map Prod.fst

/-- The tree of a text with the given documents. -/
def Node.ofDocuments : List Yaml.Value → Node
  | [] => .null
  | [document] => document.toNode
  | documents => .stream (documents.map Yaml.Value.toNode)

/-- A text without documents is null, one with several is a stream. -/
def Node.ofYaml (text : String) : Except Yaml.Fault Node := do
  let trees ← Yaml.Tree.ofText .v12 text
  let values ← Yaml.valuesOf trees
  .ok (.ofDocuments values)

end TypedYaml
