import TypedYaml.Navigation
import TypedYaml.Schema.Registry

/-!
# Paths in a schema

A path leads from a type to the type that is expected at its end. Types are also the nodes of a
tree, so a path can be walked in a schema as in a document; then a wildcard leads to several types.

* `Registry.resolve`: the type expected at the end of a path.
* `ResolveError`: where a path left the schema, and why.
* `Registry.descent`: the types to which a segment leads.
-/

namespace TypedYaml

/-! ## Resolving paths -/

/-- Why a segment leads nowhere from a type. -/
inductive ResolveFault where
  | unknownProperty (property : String) (typeName : String)
  | atomicType (typeName : String)
  | notAMap (typeName : String)
  | notSequencable (typeName : String)
  | unknownType
deriving DecidableEq

/-- What is wrong, without the place. -/
def ResolveFault.message : ResolveFault → String
  | .unknownProperty property typeName =>
    "unknown property '" ++ property ++ "' for type " ++ typeName
  | .atomicType typeName => "cannot descend into atomic type " ++ typeName
  | .notAMap typeName => "cannot look up a key in non-map type " ++ typeName
  | .notSequencable typeName => "cannot index non-sequence type " ++ typeName
  | .unknownType => "cannot navigate into an unknown type"

/-- The path could be followed along `resolved` to the type `reached`, and no further. -/
structure ResolveError where
  fault : ResolveFault
  resolved : Path
  reached : TypeId
deriving DecidableEq

namespace ResolveError

/-- The message with the place where the path left the schema. -/
def message (e : ResolveError) : String :=
  e.fault.message ++ " at '" ++ e.resolved.display ++ "'"

/-- The error as it is told from the type before. -/
def under (s : Segment) (e : ResolveError) : ResolveError :=
  { e with resolved := s :: e.resolved }

end ResolveError

namespace Registry

variable (r : Registry)

/-- The type to which one segment leads. A declared property goes before the values of an open
map; an index and a wildcard both lead to the elements. -/
def next (t : TypeId) (s : Segment) : Except ResolveFault TypeId :=
  if r.isUnknown t then .error .unknownType
  else
    match s with
    | .key name =>
      if r.isAtomic t then .error (.atomicType (r.typeName t))
      else if !r.isMap t then .error (.notAMap (r.typeName t))
      else
        match (r.descriptor t).property? name with
        | some p => .ok p.type
        | none =>
          if r.isOpenMap t then .ok (r.domain t)
          else .error (.unknownProperty name (r.typeName t))
    | .index _ | .wildcard =>
      if r.isSequencable t then .ok (r.domain t)
      else .error (.notSequencable (r.typeName t))

/-- The type to which a path leads. -/
def resolve (t : TypeId) : Path → Except ResolveError TypeId
  | [] => .ok t
  | s :: path =>
    match r.next t s with
    | .error fault => .error ⟨fault, [], t⟩
    | .ok u => (resolve u path).mapError (.under s)

/-! ## Walking through a schema -/

/-- How messages call a type. -/
def kindText (t : TypeId) : String :=
  match r.kind t with
  | .unknown => "unknown type"
  | .atomic => "atomic type " ++ r.typeName t
  | .bean => "type " ++ r.typeName t
  | .map _ | .sequence _ => r.typeName t

/-- A wildcard leads to the types of all properties, to the values of an open map and to the
elements of a sequence; from other types it leads nowhere. -/
def descent : Descent TypeId := fun t s =>
  match r.kind t, s with
  | .bean, .key name =>
    match (r.descriptor t).property? name with
    | some p => .ok [p.type]
    | none => .error (.noSuchKey name)
  | .bean, .wildcard => .ok ((r.descriptor t).properties.map Property.type)
  | .map value, .key _ | .map value, .wildcard => .ok [value]
  | .sequence element, .index _ | .sequence element, .wildcard => .ok [element]
  | .atomic, .wildcard | .unknown, .wildcard => .ok []
  | _, s => .error (s.mismatch (r.kindText t))

end Registry

end TypedYaml
