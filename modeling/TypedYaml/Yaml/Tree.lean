import TypedYaml.Yaml.Token

/-!
# Documents as written, and without aliases

An alias is replaced by the node that carries its anchor. Anchors are told apart by numbers: an
anchor takes the count of the different names met before it, also where its own name is among
them. Of several nodes with one number the last is meant.

A short text can stand for a huge document, as aliases may lead to nodes with aliases. So there is
a limit to how many are followed, a hundred for each event of the document as it is written.
Collections may be nested 128 deep, which also excludes an alias inside its own anchor.

* `Tag`: a tag whose handle has been replaced by what it stands for.
* `Tree`: a document with its anchors, aliases and tags.
* `Anchoring`: the numbers of the names at a place of a document.
* `Tree.anchored`: the nodes with anchors, by number.
* `Tree.expand`: a document without aliases.
-/

namespace TypedYaml.Yaml

/-! ## Trees -/

/-- What the handle of a tag stands for, and the rest of the tag. -/
structure Tag where
  start : String
  suffix : String
deriving DecidableEq

/-- The whole tag. -/
def Tag.full (t : Tag) : String := t.start ++ t.suffix

/-- The tags that YAML itself defines start with this. -/
def coreTagStart : String := "tag:yaml.org,2002:"

/-- What may be written before a node. -/
structure Properties where
  anchor : Option String
  tag : Option Tag

/-- Neither an anchor nor a tag. -/
def Properties.none : Properties := ⟨.none, .none⟩

/-- A node as it is written, with all that is below it. -/
inductive Tree where
  | alias (name : String)
  | scalar (style : ScalarStyle) (text : String) (properties : Properties)
  | sequence (items : List Tree) (properties : Properties)
  | mapping (entries : List (Tree × Tree)) (properties : Properties)

/-- What stands where nothing is written. -/
def Tree.empty : Tree := .scalar .plain "" .none

/-! ## Anchors -/

/-- The names met so far, each once, with their present numbers. -/
abbrev Anchoring := List (String × Nat)

/-- The names after a node that has the given one as its anchor. -/
def Anchoring.define (name : Option String) (a : Anchoring) : Anchoring :=
  match name with
  | some n => (n, a.length) :: a.filter (·.1 ≠ n)
  | none => a

/-- An anchored node, with the names as they were before it. -/
structure Anchored where
  tree : Tree
  before : Anchoring

namespace Tree

/-- What is written before a node. An alias has nothing of its own. -/
def properties : Tree → Properties
  | .alias _ => .none
  | .scalar _ _ p | .sequence _ p | .mapping _ p => p

/-- Adds a node to those that were found, if it has an anchor. -/
def keepIf (p : Properties) (a : Anchoring) (t : Tree) (found : List (Nat × Anchored)) :
    List (Nat × Anchored) :=
  if p.anchor.isSome then (a.length, ⟨t, a⟩) :: found else found

mutual

/-- The anchored nodes of a document, the last one first, added to those already found. -/
def anchored (a : Anchoring) (found : List (Nat × Anchored)) :
    Tree → Anchoring × List (Nat × Anchored)
  | .alias _ => (a, found)
  | .scalar style text p => (a.define p.anchor, keepIf p a (.scalar style text p) found)
  | .sequence items p =>
    anchoredItems (a.define p.anchor) (keepIf p a (.sequence items p) found) items
  | .mapping entries p =>
    anchoredEntries (a.define p.anchor) (keepIf p a (.mapping entries p) found) entries

/-- The anchored nodes among the items of a sequence and below them. -/
def anchoredItems (a : Anchoring) (found : List (Nat × Anchored)) :
    List Tree → Anchoring × List (Nat × Anchored)
  | [] => (a, found)
  | t :: rest =>
    let (a, found) := anchored a found t
    anchoredItems a found rest

/-- The anchored nodes among the keys and values of a mapping and below them. -/
def anchoredEntries (a : Anchoring) (found : List (Nat × Anchored)) :
    List (Tree × Tree) → Anchoring × List (Nat × Anchored)
  | [] => (a, found)
  | (key, value) :: rest =>
    let (a, found) := anchored a found key
    let (a, found) := anchored a found value
    anchoredEntries a found rest

end

/-! ## Following aliases -/

mutual

/-- The number of events that a document is read as: an alias and a scalar are one, a collection
has one where it starts and one where it ends. -/
def events : Tree → Nat
  | .alias _ | .scalar .. => 1
  | .sequence items _ => eventsOfItems items + 2
  | .mapping entries _ => eventsOfEntries entries + 2

/-- The events between those of a sequence. -/
def eventsOfItems : List Tree → Nat
  | [] => 0
  | t :: rest => events t + eventsOfItems rest

/-- The events between those of a mapping. -/
def eventsOfEntries : List (Tree × Tree) → Nat
  | [] => 0
  | (key, value) :: rest => events key + events value + eventsOfEntries rest

end

/-- A step that knows how many aliases may still be followed. -/
abbrev Following := StateT Nat (Except Fault)

/-- Uses up one of the aliases that may be followed. -/
def follow : Following Unit
  | 0 => .error .repetition
  | n + 1 => .ok ((), n)

/-- The node that a tree stands for at a place, and the names before that node. -/
def target (found : List (Nat × Anchored)) (a : Anchoring) : Tree → Following (Tree × Anchoring)
  | .alias name => do
    follow
    match (a.lookup name).bind (found.lookup ·) with
    | some node => pure (node.tree, node.before)
    | none => throw .unknownAnchor
  | t => pure (t, a)

/-- Expands the trees of a list, each with the names that the one before it leaves. -/
def expandList (expand : Anchoring → Tree → Following (Tree × Anchoring)) (a : Anchoring) :
    List Tree → Following (List Tree × Anchoring)
  | [] => pure ([], a)
  | t :: rest => do
    let (t, a) ← expand a t
    let (ts, a) ← expandList expand a rest
    pure (t :: ts, a)

/-- Expands the keys and values of a mapping in turn. -/
def expandPairs (expand : Anchoring → Tree → Following (Tree × Anchoring)) (a : Anchoring) :
    List (Tree × Tree) → Following (List (Tree × Tree) × Anchoring)
  | [] => pure ([], a)
  | (key, value) :: rest => do
    let (k, a) ← expand a key
    let (v, a) ← expand a value
    let (es, a) ← expandPairs expand a rest
    pure ((k, v) :: es, a)

/-- Expands a node whose collections may be nested to the given depth; also gives the names after
it, which an alias leaves as they are. -/
def expandWithin (found : List (Nat × Anchored)) :
    Nat → Anchoring → Tree → Following (Tree × Anchoring)
  | depth, a, t => do
    let (node, before) ← target found a t
    let inside := before.define node.properties.anchor
    let (node, after) ←
      match depth, node with
      | depth + 1, .sequence items p => do
        let (items, after) ← expandList (expandWithin found depth) inside items
        pure (.sequence items p, after)
      | depth + 1, .mapping entries p => do
        let (entries, after) ← expandPairs (expandWithin found depth) inside entries
        pure (.mapping entries p, after)
      | _, .scalar style text p => pure (.scalar style text p, inside)
      | _, _ => throw .nesting
    match t with
    | .alias _ => pure (node, a)
    | _ => pure (node, after)

/-- The document in which every alias is replaced by what it stands for. -/
def expand (t : Tree) : Except Fault Tree := do
  let (_, found) := t.anchored [] []
  let ((expanded, _), _) ← expandWithin found 128 [] t (100 * t.events)
  .ok expanded

end Tree

end TypedYaml.Yaml
