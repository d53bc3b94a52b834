import TypedYaml.Path.Basic

/-!
# Walking along a path

A path is walked from a list of nodes, one segment after the other. A wildcard may lead to
several nodes; those that a segment does not apply to are dropped, and the walk fails only where
the segment applies to none.

* `NavigationError`: why a segment does not apply to a node.
* `Descent`: a kind of nodes, given by the children to which a segment leads.
* `step`, `traverse`: one segment, and a whole path.
* `TraversalFailure`: where a walk ended, and why.
-/

namespace TypedYaml

/-- Why a segment does not apply to a node. What was found is told in words. -/
inductive NavigationError where
  | noSuchKey (key : String)
  | indexOutOfRange (index : Int64) (length : Nat)
  | notAMap (key : String) (found : String)
  | notASequence (found : String)
deriving DecidableEq

/-- The message that is shown, without the place. -/
def NavigationError.message : NavigationError → String
  | .noSuchKey key => "no key '" ++ key ++ "'"
  | .indexOutOfRange index length =>
    "index " ++ toString index.toInt ++ " out of range for sequence of length " ++ toString length
  | .notAMap key found => "cannot look up key '" ++ key ++ "' in " ++ found
  | .notASequence found => "cannot index " ++ found

/-- The error of a segment that does not fit the kind of a node. -/
def Segment.mismatch (found : String) : Segment → NavigationError
  | .key name => .notAMap name found
  | .index _ | .wildcard => .notASequence found

/-- How the nodes of a tree are left by a segment. -/
abbrev Descent (α : Type) := α → Segment → Except NavigationError (List α)

namespace Descent

variable {α : Type}

/-- Whether a segment does not apply to a node. -/
def rejects (d : Descent α) (s : Segment) (node : α) : Bool :=
  match d node s with
  | .error _ => true
  | .ok _ => false

/-- The children of one node, or none if it rejects the segment. -/
def select (d : Descent α) (s : Segment) (node : α) : List α :=
  match d node s with
  | .error _ => []
  | .ok children => children

/-- The children of all nodes in order; an error, that of the first node, only if there are nodes
and all of them reject the segment. -/
def step (d : Descent α) (nodes : List α) (s : Segment) : Except NavigationError (List α) :=
  match nodes with
  | [] => .ok []
  | first :: rest =>
    match d first s with
    | .error e =>
      if rest.all (d.rejects s) then .error e else .ok (rest.flatMap (d.select s))
    | .ok children => .ok (children ++ rest.flatMap (d.select s))

end Descent

/-- The nodes `reached` along `valid`, all of which reject the segment after it. -/
structure TraversalFailure (α : Type) where
  valid : Path
  reached : List α
  error : NavigationError

/-- The failure as it is told from the nodes before. -/
def TraversalFailure.under {α : Type} (s : Segment) (f : TraversalFailure α) :
    TraversalFailure α :=
  { f with valid := s :: f.valid }

/-- Walks along a path from all nodes at once. -/
def Descent.traverse {α : Type} (d : Descent α) (nodes : List α) :
    Path → Except (TraversalFailure α) (List α)
  | [] => .ok nodes
  | s :: path =>
    match d.step nodes s with
    | .error e => .error ⟨[], nodes, e⟩
    | .ok children => (d.traverse children path).mapError (.under s)

end TypedYaml
