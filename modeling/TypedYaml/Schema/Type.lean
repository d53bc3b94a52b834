/-!
# Schema types

A type says which values may stand at a position. Types refer to each other by their place in the
list of all types.

* `TypeId`: such a place; the first five are the same in every list.
* `Kind`: the shape of the values.
* `Property`, `Descriptor`: what is known about a property and about a type.
-/

namespace TypedYaml

/-- A place in the list of all types. -/
structure TypeId where
  index : Nat
deriving DecidableEq, Inhabited

namespace TypeId

/-- The type of positions about which nothing is known. -/
def unknown : TypeId := ⟨0⟩

/-- The type of any scalar, for all of them have a text. -/
def string : TypeId := ⟨1⟩

/-- The type of whole numbers of 64 bits. -/
def integer : TypeId := ⟨2⟩

/-- The type of numbers with or without a fraction. -/
def float : TypeId := ⟨3⟩

/-- The type of truth values. -/
def boolean : TypeId := ⟨4⟩

end TypeId

/-- An atomic type has scalar values. The values of a bean are mappings with declared keys, those
of a map have any keys and values of one type, and those of a sequence have elements of one
type. -/
inductive Kind where
  | unknown
  | atomic
  | bean
  | map (value : TypeId)
  | sequence (element : TypeId)
deriving DecidableEq

/-- How a kind is called. -/
def Kind.name : Kind → String
  | .unknown => "unknown"
  | .atomic => "atomic"
  | .bean => "bean"
  | .map _ => "map"
  | .sequence _ => "sequence"

/-- What to use instead of a deprecated property, and why. -/
structure Deprecation where
  replacement : Option String
  reason : Option String
deriving DecidableEq

/-- A declared property of a bean. Its name is any text, also one with dots. -/
structure Property where
  name : String
  type : TypeId
  description : Option String
  deprecation : Option Deprecation
deriving DecidableEq

/-- Whether a property should not be used any more. -/
def Property.isDeprecated (p : Property) : Bool := p.deprecation.isSome

/-- The hints of an atomic type are the values to which it is restricted; without hints it is
unrestricted. -/
structure Descriptor where
  name : String
  kind : Kind
  properties : List Property
  hints : List String
  description : Option String
deriving DecidableEq

namespace Descriptor

/-- A type of which nothing but its name and kind is known. -/
def new (name : String) (kind : Kind) : Descriptor := ⟨name, kind, [], [], none⟩

/-- The first type of every list. -/
def unknown : Descriptor := new "<unknown>" .unknown

instance : Inhabited Descriptor := ⟨unknown⟩

/-- The property with a name. -/
def property? (d : Descriptor) (name : String) : Option Property :=
  d.properties.find? (·.name = name)

end Descriptor

end TypedYaml
