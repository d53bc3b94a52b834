import TypedYaml.Basic
import TypedYaml.Schema.Registry

/-!
# Schema definitions

A definition lists the types of a schema by name. All types are declared before any property is
added, so types may refer to each other in any order.

A property is written as the text of its type alone or in full, and its deprecation as a flag or
with details. A definition keeps the form in which they are written; what a form stands for is
decided when the property is added.

* `DeprecationDefinition`, `PropertyDefinition`: the forms of a property.
* `TypeDefinition`: a type with `values` is an enumeration, one marked `atomic` is an atomic type,
  any other is a bean.
* `SchemaDefinition.build`: the schema that a definition describes.
-/

namespace TypedYaml

/-- How it is written that a property is deprecated. -/
inductive DeprecationDefinition where
  | flag (value : Bool)
  | details (replacement reason : Option String)

/-- How a property is written: as the text of its type, or with that text among other members. -/
inductive PropertyDefinition where
  | short (type : String)
  | full (type : String) (description : Option String) (deprecated : Option DeprecationDefinition)

/-- How a type is written. Members that are left out are empty, and the flag is not set then. -/
structure TypeDefinition where
  description : Option String
  values : Option (List String)
  atomic : Bool
  properties : Entries PropertyDefinition

/-- How a schema is written. -/
structure SchemaDefinition where
  root : Option String
  types : Entries TypeDefinition

namespace TypeDefinition

/-- Whether the type may have properties. -/
def isBean (d : TypeDefinition) : Bool := d.values.isNone && !d.atomic

/-- Declares a type by name, without its properties. -/
def declare (name : String) (d : TypeDefinition) :
    Builder → Except SchemaError TypeId × Builder :=
  match d.values with
  | some values => Builder.enumeration name values
  | none => if d.atomic then Builder.atomic name else Builder.bean name

/-- Declares a type with its description. A type that is no bean may not list properties. -/
def addTo (name : String) (d : TypeDefinition) (b : Builder) : Except SchemaError Builder :=
  match d.declare name b with
  | (.error e, _) => .error e
  | (.ok t, b) =>
    if !d.isBean && !d.properties.isEmpty then .error (.notABean name)
    else
      match d.description with
      | some text => .ok (b.describe t text)
      | none => .ok b

end TypeDefinition

/-- A flag that is not set says that the property is not deprecated. -/
def DeprecationDefinition.deprecation? : DeprecationDefinition → Option Deprecation
  | .flag false => none
  | .flag true => some ⟨none, none⟩
  | .details replacement reason => some ⟨replacement, reason⟩

namespace PropertyDefinition

/-- The type expression. -/
def type : PropertyDefinition → String
  | .short type | .full type _ _ => type

/-- The property that is meant, once its type has been found. -/
def property (name : String) (t : TypeId) : PropertyDefinition → Property
  | .short _ => ⟨name, t, none, none⟩
  | .full _ description deprecated =>
    ⟨name, t, description, deprecated.bind DeprecationDefinition.deprecation?⟩

/-- How messages call the place of a type expression. -/
def referencedBy (property typeName : String) : String :=
  "property '" ++ property ++ "' of '" ++ typeName ++ "'"

/-- Adds a property to a bean. -/
def addTo (typeName : String) (bean : TypeId) (name : String) (d : PropertyDefinition)
    (b : Builder) : Except SchemaError Builder :=
  match b.typeOf d.type (referencedBy name typeName) with
  | (.error e, _) => .error e
  | (.ok t, b) =>
    match b.addProperty bean (d.property name t) with
    | (.error e, _) => .error e
    | (.ok (), b) => .ok b

end PropertyDefinition

namespace SchemaDefinition

/-- Declares all types in order. -/
def declareTypes : Entries TypeDefinition → Builder → Except SchemaError Builder
  | [], b => .ok b
  | (name, d) :: rest, b => (d.addTo name b).bind (declareTypes rest)

/-- Adds all properties of a bean in order. -/
def addProperties (typeName : String) (bean : TypeId) :
    Entries PropertyDefinition → Builder → Except SchemaError Builder
  | [], b => .ok b
  | (name, d) :: rest, b => (d.addTo typeName bean name b).bind (addProperties typeName bean rest)

/-- Adds the properties of all types. Each has been declared, so it is found by its name. -/
def fillTypes : Entries TypeDefinition → Builder → Except SchemaError Builder
  | [], b => .ok b
  | (name, d) :: rest, b =>
    match b.lookup name with
    | some bean => (addProperties name bean d.properties b).bind (fillTypes rest)
    | none => fillTypes rest b

/-- The schema that a definition describes. The root has to be the name of a type. -/
def build (f : SchemaDefinition) : Except SchemaError Registry := do
  let b ← declareTypes f.types .new
  let b ← fillTypes f.types b
  match f.root with
  | none => .ok b.build
  | some name =>
    match b.lookup name with
    | some root => .ok (b.build.withRoot root)
    | none => .error (.unknownRoot name)

end SchemaDefinition

end TypedYaml
