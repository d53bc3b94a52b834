import TypedYaml.Decimal.Writing
import TypedYaml.Navigation

/-!
# Document trees

A document is a tree of mappings, sequences and scalars. Text that holds several documents is a
tree as well, a stream whose children are the documents.

* `Number`, `Node`: the trees.
* `Node.scalarText?`: the text of a scalar.
* `Node.kindName`: how messages call a node.
* `Node.descent`: the children to which a segment of a path leads.
-/

namespace TypedYaml

/-! ## Numbers -/

/-- A number with a point or an exponent is a float, also if it is whole. -/
inductive Number where
  | int (value : Int64)
  | float (value : Float)

namespace Number

/-- The text of a number, which need not be that of the document. -/
def chars : Number → List Char
  | .int i => Text.ofInt i.toInt
  | .float f => floatChars f

/-- The text of a number as a string. -/
def text (n : Number) : String := String.ofList n.chars

/-- The nearest float. -/
def toFloat : Number → Float
  | .int i => i.toFloat
  | .float f => f

/-- Whether a number is an integer by its form. -/
def isInt : Number → Bool
  | .int _ => true
  | .float _ => false

end Number

/-! ## Nodes -/

/-- A node of a document with all that is below it. The keys of a mapping are different texts, in
the order of their entries. -/
inductive Node where
  | null
  | bool (value : Bool)
  | number (value : Number)
  | string (value : String)
  | sequence (items : List Node)
  | mapping (entries : List (String × Node))
  | stream (documents : List Node)
deriving Inhabited

namespace Node

/-- How messages call a node. -/
def kindName : Node → String
  | .null => "null"
  | .bool _ => "boolean"
  | .number _ => "number"
  | .string _ => "string"
  | .sequence _ => "sequence"
  | .mapping _ => "mapping"
  | .stream _ => "document stream"

/-- Whether a node has entries with keys. -/
def isMapping : Node → Bool
  | .mapping _ => true
  | _ => false

/-- A stream is a sequence of documents. -/
def isSequence : Node → Bool
  | .sequence _ | .stream _ => true
  | _ => false

/-- Null is a scalar as well. -/
def isScalar (n : Node) : Bool := !n.isMapping && !n.isSequence

/-- The text of a boolean, in whichever way the document writes it. -/
def boolText (b : Bool) : String := if b then "true" else "false"

/-- The text of a scalar. A string has its own, without quotes. -/
def scalarText? : Node → Option String
  | .null => some "null"
  | .bool b => some (boolText b)
  | .number n => some n.text
  | .string s => some s
  | _ => none

/-- The nodes directly below, in order. -/
def children : Node → List Node
  | .sequence items | .stream items => items
  | .mapping entries => entries.map Prod.snd
  | _ => []

/-- The value under a key of a mapping. -/
def get? : Node → String → Option Node
  | .mapping entries, key => entries.lookup key
  | _, _ => none

end Node

/-! ## Walking through a document -/

/-- An element of a list, counted from the end if the index is below zero. -/
def element? {α : Type} (items : List α) (index : Int64) : Option α :=
  let i := index.toInt
  if 0 ≤ i then items[i.toNat]?
  else if 0 ≤ items.length + i then items[(items.length + i).toNat]?
  else none

namespace Node

/-- The values to which a segment leads from a mapping. -/
def descendEntries (entries : List (String × Node)) : Segment →
    Except NavigationError (List Node)
  | .key name =>
    match entries.lookup name with
    | some child => .ok [child]
    | none => .error (.noSuchKey name)
  | .wildcard => .ok (entries.map Prod.snd)
  | .index _ => .error (.notASequence "mapping")

/-- The elements to which a segment leads from a sequence or a stream. -/
def descendItems (kind : String) (items : List Node) : Segment →
    Except NavigationError (List Node)
  | .index i =>
    match element? items i with
    | some child => .ok [child]
    | none => .error (.indexOutOfRange i items.length)
  | .wildcard => .ok items
  | .key name => .error (.notAMap name kind)

/-- A wildcard applies to a scalar, which has no children. -/
def descent : Descent Node
  | .mapping entries, s => descendEntries entries s
  | .sequence items, s => descendItems "sequence" items s
  | .stream documents, s => descendItems "document stream" documents s
  | _, .wildcard => .ok []
  | scalar, s => .error (s.mismatch scalar.kindName)

end Node

end TypedYaml
