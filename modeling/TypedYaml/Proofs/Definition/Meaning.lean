import TypedYaml.Proofs.Schema.Denotation
import TypedYaml.Schema.Definition

/-!
# What a schema definition says

A definition is well formed if its names can be declared and its references can be followed. What it
then says of a registry is said here without building one: each type of the definition stands in its
place, with the properties that are listed and the types that are spelled, and behind them stand the
lists and maps that some property mentions, each once.

A property is described form by form: the short form says nothing but the type, and a flag or the
details of a deprecation mean what `DeprecationDefinition.Says` lists.

* `Registry.Denotes`: what an expression denotes in a registry.
* `SchemaDefinition.Distinct`, `SchemaDefinition.WellFormed`: definitions without repetitions, and
  those that describe a registry.
* `SchemaDefinition.Describes`: the registry that a definition describes.
-/

namespace TypedYaml

open TypeExpr TypeGrammar

/-! ## Denotations -/

/-- A name denotes the type that is found under it. A list or a map denotes a type whose elements or
values are of the type that its argument denotes. -/
inductive Registry.Denotes (r : Registry) : TypeExpr → TypeId → Prop
  | name {name : String} {t : TypeId} : r.lookup name = some t → Denotes r (.name name) t
  | container {c e : TypeExpr} {kind : TypeId → Kind} {u t : TypeId} : IsContainer c e kind →
      Denotes r e u → r.kind t = kind u → Denotes r c t

theorem Registry.denotes_name {r : Registry} {name : String} {t : TypeId} :
    r.Denotes (.name name) t ↔ r.lookup name = some t := by
  constructor
  · intro h
    cases h with
    | name ht => exact ht
    | container hc => cases hc
  · exact .name

theorem Registry.Denotes.content {r : Registry} {c e : TypeExpr} {kind : TypeId → Kind} {t : TypeId}
    (hc : IsContainer c e kind) (h : r.Denotes c t) : ∃ u, r.Denotes e u ∧ r.kind t = kind u := by
  cases hc with
  | list =>
    cases h with
    | container hc hu hkind =>
      cases hc
      exact ⟨_, hu, hkind⟩
  | map =>
    cases h with
    | container hc hu hkind =>
      cases hc
      exact ⟨_, hu, hkind⟩

theorem TypeExpr.exists_isContainer {c e : TypeExpr} (h : c ∈ e.containers) :
    ∃ e' kind, IsContainer c e' kind := by
  induction e using TypeExpr.induction with
  | name name => cases h
  | container d e kind hd ih =>
    rw [hd.containers_eq] at h
    rcases List.mem_append.mp h with hmem | hmem
    · exact ih hmem
    · exact ⟨e, kind, List.mem_singleton.mp hmem ▸ hd⟩

/-- The root is not part of any denotation. -/
theorem Builder.denotes_registry {b : Builder} {root : Option TypeId} {e : TypeExpr} {t : TypeId} :
    (Registry.mk b.types b.names root).Denotes e t ↔ b.Denotes e t := by
  constructor <;> intro h
  · induction h with
    | name hname => exact .name hname
    | container hc _ hkind ih => exact .container hc ih hkind
  · induction h with
    | name hname => exact .name hname
    | container hc _ hkind ih => exact .container hc ih hkind

/-! ## Well-formed definitions -/

/-- The names that every schema knows. -/
def predeclaredNames : List String := ["String", "Integer", "Float", "Boolean"]

namespace SchemaDefinition

/-- No mapping of the definition has a name twice. -/
structure Distinct (f : SchemaDefinition) : Prop where
  types : (f.types.map Prod.fst).Nodup
  properties : ∀ x ∈ f.types, (x.2.properties.map Prod.fst).Nodup

/-- The names to which the definition may refer. -/
def Declares (f : SchemaDefinition) (name : String) : Prop :=
  name ∈ predeclaredNames ∨ name ∈ f.types.map Prod.fst

/-- The type of some property is spelled so. -/
def Mentions (f : SchemaDefinition) (e : TypeExpr) : Prop :=
  ∃ x ∈ f.types, ∃ y ∈ x.2.properties, Expression y.2.type.toList e

/-- The names are not taken, only beans list properties, and all that is referred to is there. -/
structure WellFormed (f : SchemaDefinition) : Prop where
  names : ∀ x ∈ f.types, x.1 ∉ predeclaredNames
  beans : ∀ x ∈ f.types, x.2.values.isSome ∨ x.2.atomic → x.2.properties = []
  expressions : ∀ x ∈ f.types, ∀ y ∈ x.2.properties,
    ∃ e, Expression y.2.type.toList e ∧ f.Declares e.base
  root : ∀ name, f.root = some name → f.Declares name

end SchemaDefinition

/-! ## Described registries -/

/-- What is written about the deprecation of a property, and what it says. A flag that is set gives
neither a replacement nor a reason. -/
inductive DeprecationDefinition.Says : Option DeprecationDefinition → Option Deprecation → Prop
  | nothing : Says none none
  | current : Says (some (.flag false)) none
  | deprecated : Says (some (.flag true)) (some ⟨none, none⟩)
  | details (replacement reason : Option String) :
      Says (some (.details replacement reason)) (some ⟨replacement, reason⟩)

/-- The property is as the definition says: it has the name, a type that its expression denotes, and
in full form the description and what is said of its deprecation. -/
inductive PropertyDefinition.Describes (r : Registry) (name : String) :
    PropertyDefinition → Property → Prop
  | short {type : String} {e : TypeExpr} {t : TypeId} (he : Expression type.toList e)
      (ht : r.Denotes e t) : Describes r name (.short type) ⟨name, t, none, none⟩
  | full {type : String} {description : Option String} {deprecated : Option DeprecationDefinition}
      {deprecation : Option Deprecation} {e : TypeExpr} {t : TypeId}
      (he : Expression type.toList e) (ht : r.Denotes e t)
      (hdeprecated : DeprecationDefinition.Says deprecated deprecation) :
      Describes r name (.full type description deprecated) ⟨name, t, description, deprecation⟩

/-- The type is as the definition says, with its properties in their order. -/
structure TypeDefinition.Describes (r : Registry) (name : String) (d : TypeDefinition)
    (t : Descriptor) : Prop where
  name : t.name = name
  kind : t.kind = if d.isBean then .bean else .atomic
  hints : t.hints = d.values.getD []
  description : t.description = d.description
  properties : List.Forall₂ (fun y p => y.2.Describes r y.1 p) d.properties t.properties

/-- The predeclared types come first, then the types of the definition in their order, and then the
lists and maps in the types of its properties. -/
structure SchemaDefinition.Describes (f : SchemaDefinition) (r : Registry) : Prop where
  predeclared : ∀ i < 5, r.descriptor ⟨i⟩ = Builder.new.descriptor ⟨i⟩
  lookup_iff : ∀ name t, r.lookup name = some t ↔
    Builder.new.lookup name = some t ∨ ∃ i d, f.types[i]? = some (name, d) ∧ t = ⟨5 + i⟩
  definition : ∀ i name (d : TypeDefinition), f.types[i]? = some (name, d) →
    d.Describes r name (r.descriptor ⟨5 + i⟩)
  container_iff : ∀ t : TypeId, (5 + f.types.length ≤ t.index ∧ t.index < r.size) ↔
    ∃ e, f.Mentions e ∧ ∃ c ∈ e.containers, r.Denotes c t
  unique : ∀ e t u, r.Denotes e t → r.Denotes e u → u = t
  root : r.root = f.root.bind r.lookup

end TypedYaml
