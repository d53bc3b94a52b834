import TypedYaml.Schema.Builder

/-!
# Schemas

A registry is a finished list of types, with the type at which documents start if there is one.

* `Registry`, `Builder.build`: registries.
* `Registry.isAtomic`, `isMap`, `isSequencable`, `isOpenMap`, `isUnknown`: the classes of types.
* `Registry.domain`: the type of the elements or values of a container.
-/

namespace TypedYaml

/-- A schema that is finished. The types are in the order of their handles. -/
structure Registry where
  types : List Descriptor
  names : List (String × TypeId)
  root : Option TypeId

/-- The types and names as they are. A root is set afterwards. -/
def Builder.build (b : Builder) : Registry := ⟨b.types, b.names, none⟩

namespace Registry

variable (r : Registry)

/-- The schema for documents of the given type. -/
def withRoot (root : TypeId) : Registry := { r with root := some root }

/-- The number of types, builtin ones and containers included. -/
def size : Nat := r.types.length

/-- What is known of a type; a handle of no type is taken for the unknown one. -/
def descriptor (t : TypeId) : Descriptor := r.types[t.index]?.getD .unknown

/-- The kind of a type. -/
def kind (t : TypeId) : Kind := (r.descriptor t).kind

/-- The name of a type. That of a container is its type expression. -/
def typeName (t : TypeId) : String := (r.descriptor t).name

/-- The declared or builtin type with a name. Containers are not found by theirs. -/
def lookup (name : String) : Option TypeId := r.names.lookup name

/-- The type of which nothing is known, which allows any value. -/
def isUnknown (t : TypeId) : Bool := r.kind t == .unknown

/-- The values are scalars. -/
def isAtomic (t : TypeId) : Bool := r.kind t == .atomic

/-- The values have keys. -/
def isMap (t : TypeId) : Bool :=
  match r.kind t with
  | .bean | .map _ => true
  | _ => false

/-- The values have any keys. -/
def isOpenMap (t : TypeId) : Bool :=
  match r.kind t with
  | .map _ => true
  | _ => false

/-- The values are sequences. -/
def isSequencable (t : TypeId) : Bool :=
  match r.kind t with
  | .sequence _ => true
  | _ => false

/-- The type of the elements or values; the unknown type if there are none. -/
def domain (t : TypeId) : TypeId :=
  match r.kind t with
  | .map value => value
  | .sequence element => element
  | _ => .unknown

end Registry

end TypedYaml
