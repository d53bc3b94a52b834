import TypedYaml.Schema.Navigation
import TypedYaml.Text.LowerCase

/-!
# Completion

What can be written after a path: the properties of a bean, or the values to which an atomic type
is restricted. A proposal has to start with the text typed so far, in any case.

* `Completion`: one proposal.
* `Registry.candidates`: all of them.
* `Registry.complete`: those that start with a given text.
-/

namespace TypedYaml

/-- What a proposal completes to. -/
inductive CompletionKind where
  | property
  | value
deriving DecidableEq

/-- A proposal with what is shown beside it. The type is that of the property or of the value. -/
structure Completion where
  label : String
  kind : CompletionKind
  typeName : String
  description : Option String
  deprecated : Bool
deriving DecidableEq

/-- Which proposals are wanted, and how many at most. -/
structure CompletionOptions where
  includeDeprecated : Bool
  maxResults : Nat

/-- Whether a label starts with the given text when both are in lower case. -/
def matchesStart (start label : String) : Bool :=
  (Text.lowercase start.toList).isPrefixOf (Text.lowercase label.toList)

namespace Registry

variable (r : Registry)

/-- The proposal of a value. -/
def valueCompletion (t : TypeId) (hint : String) : Completion :=
  ⟨hint, .value, r.typeName t, none, false⟩

/-- The proposal of a property. -/
def propertyCompletion (p : Property) : Completion :=
  ⟨p.name, .property, r.typeName p.type, p.description, p.isDeprecated⟩

/-- What can be written at a type, in the order of declaration. -/
def candidates (includeDeprecated : Bool) (t : TypeId) : List Completion :=
  if r.isAtomic t then (r.descriptor t).hints.map (r.valueCompletion t)
  else
    ((r.descriptor t).properties.filter fun p => includeDeprecated || !p.isDeprecated).map
      r.propertyCompletion

/-- A path that leaves the schema has no completions. -/
def complete (options : CompletionOptions) (root : TypeId) (path : Path) (start : String) :
    List Completion :=
  match r.resolve root path with
  | .error _ => []
  | .ok t =>
    ((r.candidates options.includeDeprecated t).filter fun c =>
      matchesStart start c.label).take options.maxResults

end Registry

end TypedYaml
