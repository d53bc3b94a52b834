import TypedYaml.Decimal.Writing
import TypedYaml.Node
import TypedYaml.Yaml.Printer.Scalar

/-!
# Writing documents

Collections are written in block style, each level two columns further in; a sequence that is the
value of a mapping stays in the column of its key. Empty collections are written as brackets.

* `Place`: what stands before a node on its line.
* `Node.toYaml`: the text of a document.
-/

namespace TypedYaml

namespace Yaml.Printer

/-- A key that is too long or has several lines is marked by a question mark; any other one has no
line break, hence it is no literal block. -/
def isSimpleKey (key : String) : Bool :=
  !key.toList.any Written.isLineBreak && key.utf8ByteSize ≤ 128

/-- A number in few characters. -/
def numberChars : Number → List Char
  | .int i => Text.ofInt i.toInt
  | .float f => compactFloatChars f

/-- Nothing, the mark of an item or of the value of a marked key, or a simple key. -/
inductive Place where
  | start
  | mark
  | key

/-- What sets a node off from what stands before it on its line. -/
def Place.gap : Place → List Char
  | .start => []
  | .mark | .key => [' ']

/-- The column of a collection whose parent is in the given column. -/
def Place.column (isMapping : Bool) (parent : Nat) : Place → Nat
  | .start => 0
  | .mark => parent + 2
  | .key => if isMapping then parent + 2 else parent

/-- The parts of a collection, each of which starts in one column. After a key they start on a
new line. -/
def Place.collection (column : Nat) (parts : List (List Char)) : Place → List Char
  | .start => (indentation column).intercalate parts
  | .mark => ' ' :: (indentation column).intercalate parts
  | .key => '\n' :: parts.flatMap (indentation column ++ ·)

mutual

/-- A node with its line end, as a child of a collection in the given column. -/
def node (place : Place) (parent : Nat) : Node → List Char
  | .null => place.gap ++ "null\n".toList
  | .bool b => place.gap ++ (Node.boolText b).toList ++ ['\n']
  | .number n => place.gap ++ numberChars n ++ ['\n']
  | .string s => place.gap ++ Written.lines (parent + 2) s
  | .sequence items | .stream items =>
    let column := place.column false parent
    if items.isEmpty then place.gap ++ "[]\n".toList
    else place.collection column (sequenceItems column items)
  | .mapping entries =>
    let column := place.column true parent
    if entries.isEmpty then place.gap ++ ['\x7b', '\x7d', '\n']
    else place.collection column (mappingEntries column entries)

/-- The lines of the items, without the indentation of the first one of each. -/
def sequenceItems (column : Nat) : List Node → List (List Char)
  | [] => []
  | n :: rest => ('-' :: node .mark column n) :: sequenceItems column rest

/-- The lines of the entries, without the indentation of the first one of each. -/
def mappingEntries (column : Nat) : List (String × Node) → List (List Char)
  | [] => []
  | (key, n) :: rest =>
    (if isSimpleKey key then Written.text 0 key ++ ':' :: node .key column n
      else
        '?' :: ' ' :: Written.lines (column + 2) key ++ indentation column ++
          ':' :: node .mark column n) ::
      mappingEntries column rest

end

end Yaml.Printer

/-- The text of a document. -/
def Node.toYaml (n : Node) : String := String.ofList (Yaml.Printer.node .start 0 n)

end TypedYaml
