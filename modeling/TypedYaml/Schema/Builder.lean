import TypedYaml.Schema.Type
import TypedYaml.Schema.TypeExpr

/-!
# Building up the types of a schema

Types are declared one after the other. Lists and maps need no declaration: they come into being
when they are first used, once for each type of their elements or values.

Every operation gives back the state after it, also when it fails; a failed operation leaves the
state as it was.

* `Builder`: the types so far, with tables of the declared names and of the lists and maps made.
* `Builder.new`: the unknown type and the four predeclared atomic types.
* `Builder.declare`, `addProperty`, `describe`, `listOf`, `mapOf`, `typeOf`: the operations.
-/

namespace TypedYaml

/-- The types so far, in the order of their ids, and tables of the declared names and of the lists
and maps that were made, by the type of their content. -/
structure Builder where
  types : List Descriptor
  names : List (String × TypeId)
  lists : List (TypeId × TypeId)
  maps : List (TypeId × TypeId)

namespace Builder

/-- The unknown type and the four predeclared ones. -/
def new : Builder where
  types :=
    [.unknown, .new "String" .atomic, .new "Integer" .atomic, .new "Float" .atomic,
      { Descriptor.new "Boolean" .atomic with hints := ["true", "false"] }]
  names :=
    [("String", .string), ("Integer", .integer), ("Float", .float), ("Boolean", .boolean)]
  lists := []
  maps := []

/-- What is known of a type; an id of no type is taken for the unknown one. -/
def descriptor (b : Builder) (t : TypeId) : Descriptor := b.types[t.index]?.getD .unknown

/-- The declared or predeclared type of a name. -/
def lookup (b : Builder) (name : String) : Option TypeId := b.names.lookup name

/-- The id of the next type to be added. -/
def next (b : Builder) : TypeId := ⟨b.types.length⟩

/-- Adds a type under its name, which must not be taken. -/
def declare (d : Descriptor) (b : Builder) : Except SchemaError TypeId × Builder :=
  match b.lookup d.name with
  | some _ => (.error (.duplicateType d.name), b)
  | none =>
    (.ok b.next, { b with types := b.types ++ [d], names := (d.name, b.next) :: b.names })

/-- Declares an atomic type without restriction. -/
def atomic (name : String) : Builder → Except SchemaError TypeId × Builder :=
  declare (.new name .atomic)

/-- Declares an atomic type that is restricted to the given values. -/
def enumeration (name : String) (values : List String) :
    Builder → Except SchemaError TypeId × Builder :=
  declare { Descriptor.new name .atomic with hints := values }

/-- Declares a bean without properties. -/
def bean (name : String) : Builder → Except SchemaError TypeId × Builder :=
  declare (.new name .bean)

/-- Changes one type. The tables stay as they are, for no change concerns names or kinds. -/
def modify (t : TypeId) (f : Descriptor → Descriptor) (b : Builder) : Builder :=
  { b with types := b.types.modify t.index f }

/-- Adds a property at the end of a bean, whose name must not be taken. -/
def addProperty (t : TypeId) (p : Property) (b : Builder) : Except SchemaError Unit × Builder :=
  let d := b.descriptor t
  if d.kind ≠ .bean then (.error (.notABean d.name), b)
  else
    match d.property? p.name with
    | some _ => (.error (.duplicateProperty d.name p.name), b)
    | none => (.ok (), b.modify t fun d => { d with properties := d.properties ++ [p] })

/-- Replaces the description of a type. -/
def describe (t : TypeId) (description : String) (b : Builder) : Builder :=
  b.modify t fun d => { d with description := some description }

/-- The list type with the given elements. -/
def listOf (element : TypeId) (b : Builder) : TypeId × Builder :=
  match b.lists.lookup element with
  | some t => (t, b)
  | none =>
    let name := "List<" ++ (b.descriptor element).name ++ ">"
    (b.next,
      { b with
        types := b.types ++ [.new name (.sequence element)]
        lists := (element, b.next) :: b.lists })

/-- The map type with the given values. -/
def mapOf (value : TypeId) (b : Builder) : TypeId × Builder :=
  match b.maps.lookup value with
  | some t => (t, b)
  | none =>
    let name := "Map<String, " ++ (b.descriptor value).name ++ ">"
    (b.next,
      { b with
        types := b.types ++ [.new name (.map value)]
        maps := (value, b.next) :: b.maps })

/-- The type that an expression denotes. -/
def denote (referencedBy : String) :
    TypeExpr → Builder → Except SchemaError TypeId × Builder
  | .name name, b =>
    match b.lookup name with
    | some t => (.ok t, b)
    | none => (.error (.unknownType name referencedBy), b)
  | .list element, b =>
    match denote referencedBy element b with
    | (.error e, b) => (.error e, b)
    | (.ok t, b) => let (t, b) := b.listOf t; (.ok t, b)
  | .map value, b =>
    match denote referencedBy value b with
    | (.error e, b) => (.error e, b)
    | (.ok t, b) => let (t, b) := b.mapOf t; (.ok t, b)

/-- The type that a written expression denotes. -/
def typeOf (expr referencedBy : String) (b : Builder) : Except SchemaError TypeId × Builder :=
  match TypeExpr.parse expr with
  | .error e => (.error e, b)
  | .ok e => b.denote referencedBy e

end Builder

end TypedYaml
