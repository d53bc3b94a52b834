import TypedYaml.Yaml.Token

/-!
# Errors in schemas

A schema that is declared step by step has errors in its declarations. A text that is to contain a
schema may also be no definition at all.

* `SchemaError`: why a type or property cannot be declared, or a type expression has no meaning.
* `DefinitionFault`: why a text is no schema definition.
* `SchemaTextError`: why a text gives no schema.
-/

namespace TypedYaml

/-! ## Declarations -/

/-- What is wrong with the form of a type expression. -/
inductive TypeExprFault where
  | empty
  | mapArguments
  | mapKeys
  | malformed
deriving DecidableEq

/-- The part of a message that says so. -/
def TypeExprFault.text : TypeExprFault → String
  | .empty => "empty type"
  | .mapArguments => "expected Map<K, V>"
  | .mapKeys => "map keys must be String"
  | .malformed => "malformed type expression"

/-- Why a declaration is refused. -/
inductive SchemaError where
  | duplicateType (name : String)
  | unknownType (name : String) (referencedBy : String)
  | notABean (name : String)
  | duplicateProperty (typeName : String) (property : String)
  | invalidTypeExpression (expr : String) (fault : TypeExprFault)
  | unknownRoot (name : String)
deriving DecidableEq

/-- The message that is shown. -/
def SchemaError.message : SchemaError → String
  | .duplicateType name => "type '" ++ name ++ "' is declared more than once"
  | .unknownType name referencedBy => "unknown type '" ++ name ++ "' referenced by " ++ referencedBy
  | .notABean name => "type '" ++ name ++ "' is not a bean and cannot have properties"
  | .duplicateProperty typeName property =>
    "property '" ++ property ++ "' is declared more than once on type '" ++ typeName ++ "'"
  | .invalidTypeExpression expr fault =>
    "invalid type expression '" ++ expr ++ "': " ++ fault.text
  | .unknownRoot name => "root type '" ++ name ++ "' is not declared"

/-! ## Texts -/

/-- Why a text is no schema definition: it is no YAML, or its members are not the expected ones. -/
inductive DefinitionFault where
  | yaml (fault : Yaml.Fault)
  | severalDocuments
  | mappingExpected
  | sequenceExpected
  | textExpected
  | flagExpected
  | unknownMember (name : String)
  | repeatedMember (name : String)
  | customTag
  | misfitTag
  | propertyExpected
deriving DecidableEq

/-- Why a text gives no schema: it is no definition, or the definition is refused. -/
inductive SchemaTextError where
  | malformed (fault : DefinitionFault)
  | invalid (error : SchemaError)
deriving DecidableEq

/-- The messages, from the outermost inwards. -/
def SchemaTextError.messages : SchemaTextError → List String
  | .malformed _ => ["Failed to parse schema definition"]
  | .invalid e => ["Invalid schema definition", e.message]

end TypedYaml
