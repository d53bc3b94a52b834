import TypedYaml.Text.Alphanumeric

/-!
# Paths

A path addresses positions in a tree of mappings and sequences. It is the list of its segments,
so the root is the empty path.

In the written form of a path, a key made of name characters is bare, with a dot before it unless
it comes first. Any other key is written in brackets and single quotes. An index and a wildcard are
written in brackets.

* `Segment`: one step, by key, by index or to all children.
* `Path`: a list of segments; `++`, `take`, `dropLast` and `tail` of lists are the operations.
* `Segment.chars`, `Path.chars`: the written forms.
* `Path.display`: the written form as a string.
-/

namespace TypedYaml

/-- One step of a path. An index below zero counts from the end. -/
inductive Segment where
  | key (name : String)
  | index (position : Int64)
  | wildcard
deriving DecidableEq, Inhabited

/-- The steps from the root, the first one first. -/
abbrev Path := List Segment

/-! ## Characters -/

/-- The characters of which a bare key consists. -/
def isNameChar (c : Char) : Bool := Text.isAlphanumeric c || c == '_' || c == '-'

/-- Whether a key needs no brackets. The empty key does. -/
def isName (cs : List Char) : Bool := !cs.isEmpty && cs.all isNameChar

/-- A backslash and a single quote are written after a backslash. -/
def escapeChar (c : Char) : List Char :=
  if c = '\\' ∨ c = '\'' then ['\\', c] else [c]

/-! ## Segments -/

namespace Segment

/-- Keys and wildcards select entries of a mapping. -/
def selectsEntries : Segment → Bool
  | .key _ | .wildcard => true
  | .index _ => false

/-- Indices and wildcards select elements of a sequence. -/
def selectsElements : Segment → Bool
  | .index _ | .wildcard => true
  | .key _ => false

/-- A bare segment is set off by a dot, others by their brackets. -/
def isBare : Segment → Bool
  | .key name => isName name.toList
  | _ => false

/-- The written form of a segment, without a dot. -/
def chars : Segment → List Char
  | .key name =>
    let cs := name.toList
    if isName cs then cs else '[' :: '\'' :: cs.flatMap escapeChar ++ ['\'', ']']
  | .index i => '[' :: Text.ofInt i.toInt ++ [']']
  | .wildcard => ['[', '*', ']']

/-- The written form of a segment as a string. -/
def display (s : Segment) : String := String.ofList s.chars

end Segment

/-! ## Paths -/

namespace Path

/-- The written form of what follows a first segment. -/
def charsAfter : Path → List Char
  | [] => []
  | s :: p => (if s.isBare then '.' :: s.chars else s.chars) ++ charsAfter p

/-- The written form; that of the root is empty. -/
def chars : Path → List Char
  | [] => []
  | s :: p => s.chars ++ charsAfter p

/-- The written form as a string. -/
def display (p : Path) : String := String.ofList (chars p)

end Path

end TypedYaml
