import TypedYaml.Completion
import TypedYaml.Proofs.Check.Reach
import Mathlib.Data.List.Forall2

/-!
# Schemas that differ in the places of their types

A type is known by its place, and places mean nothing to those who use a schema. So two schemas are
to be told apart by nothing if their types can be related in such a way that related types have the
same names, kinds, properties and hints, where the types of the properties, of the elements and of
the values are related again. The predeclared types are the exception: a check asks whether a type
is the one in the place of the integers or of the floats, so they have to be related to themselves
alone.

* `Registry.Corresponds`: such relations.
* `Corresponds.resolve`: a path leads to related types, or leaves both schemas at related types.
* `Corresponds.complete_eq`, `Corresponds.validate_eq`: proposals and diagnostics are the same.
* `Registry.SameFrom`: what this comes to for those who see names only.
-/

namespace TypedYaml

variable {R : TypeId → TypeId → Prop}

/-! ## Descriptions that correspond -/

/-- The same kind, over related types. -/
inductive Kind.Alike (R : TypeId → TypeId → Prop) : Kind → Kind → Prop
  | unknown : Alike R .unknown .unknown
  | atomic : Alike R .atomic .atomic
  | bean : Alike R .bean .bean
  | map {value value' : TypeId} (h : R value value') : Alike R (.map value) (.map value')
  | sequence {element element' : TypeId} (h : R element element') :
      Alike R (.sequence element) (.sequence element')

/-- The same property, of related types. -/
structure Property.Alike (R : TypeId → TypeId → Prop) (p p' : Property) : Prop where
  name : p'.name = p.name
  type : R p.type p'.type
  description : p'.description = p.description
  deprecation : p'.deprecation = p.deprecation

/-- The same name and hints, and properties and a kind that correspond. Descriptions of types are
not compared. -/
structure Descriptor.Alike (R : TypeId → TypeId → Prop) (d d' : Descriptor) : Prop where
  name : d'.name = d.name
  kind : d.kind.Alike R d'.kind
  properties : List.Forall₂ (Property.Alike R) d.properties d'.properties
  hints : d'.hints = d.hints

/-- The same place in the same path, where related types were reached. -/
structure ResolveError.Alike (R : TypeId → TypeId → Prop) (e e' : ResolveError) : Prop where
  fault : e'.fault = e.fault
  resolved : e'.resolved = e.resolved
  reached : R e.reached e'.reached

/-- Related types are described alike, and the predeclared types are related to themselves alone. -/
structure Registry.Corresponds (r r' : Registry) (R : TypeId → TypeId → Prop) : Prop where
  descriptor : ∀ t t', R t t' → (r.descriptor t).Alike R (r'.descriptor t')
  predeclared : ∀ t t', R t t' → t' = t ∨ 5 ≤ t.index ∧ 5 ≤ t'.index

theorem Descriptor.Alike.property? {d d' : Descriptor} (h : d.Alike R d') (name : String) :
    Option.Rel (Property.Alike R) (d.property? name) (d'.property? name) := by
  have hproperties := h.properties
  unfold Descriptor.property?
  generalize d.properties = ps, d'.properties = ps' at hproperties ⊢
  induction hproperties with
  | nil => exact .none
  | @cons p p' ps ps' hp _ ih =>
    rw [List.find?_cons, List.find?_cons, hp.name]
    cases decide (p.name = name) with
    | true => exact .some hp
    | false => exact ih

namespace Registry

/-- An entry may have a related type. -/
inductive EntryType.Alike (R : TypeId → TypeId → Prop) : EntryType → EntryType → Prop
  | property {p p' : Property} (h : p.Alike R p') : Alike R (.property p) (.property p')
  | value {t t' : TypeId} (h : R t t') : Alike R (.value t) (.value t')
  | undeclared : Alike R .undeclared .undeclared

namespace Corresponds

variable {r r' : Registry} {t t' : TypeId}

theorem typeName_eq (h : r.Corresponds r' R) (ht : R t t') : r'.typeName t' = r.typeName t :=
  (h.descriptor t t' ht).name

theorem hints_eq (h : r.Corresponds r' R) (ht : R t t') :
    (r'.descriptor t').hints = (r.descriptor t).hints := (h.descriptor t t' ht).hints

theorem kind (h : r.Corresponds r' R) (ht : R t t') : (r.kind t).Alike R (r'.kind t') :=
  (h.descriptor t t' ht).kind

theorem property? (h : r.Corresponds r' R) (ht : R t t') (name : String) :
    Option.Rel (Property.Alike R) ((r.descriptor t).property? name)
      ((r'.descriptor t').property? name) :=
  (h.descriptor t t' ht).property? name

theorem eq_iff (h : r.Corresponds r' R) (ht : R t t') {u : TypeId} (hu : u.index < 5) :
    t' = u ↔ t = u := by
  rcases h.predeclared t t' ht with rfl | ⟨hle, hle'⟩
  · rfl
  · constructor <;> rintro rfl <;> omega

theorem isAtomic_eq (h : r.Corresponds r' R) (ht : R t t') : r'.isAtomic t' = r.isAtomic t := by
  have hkind := h.kind ht
  unfold isAtomic
  generalize r.kind t = k, r'.kind t' = k' at hkind ⊢
  cases hkind <;> rfl

theorem isOpenMap_eq (h : r.Corresponds r' R) (ht : R t t') :
    r'.isOpenMap t' = r.isOpenMap t := by
  have hkind := h.kind ht
  unfold isOpenMap
  generalize r.kind t = k, r'.kind t' = k' at hkind ⊢
  cases hkind <;> rfl

theorem domain (h : r.Corresponds r' R) (ht : R t t') (hmap : r.isOpenMap t) :
    R (r.domain t) (r'.domain t') := by
  have hkind := h.kind ht
  unfold isOpenMap at hmap
  unfold Registry.domain
  generalize r.kind t = k, r'.kind t' = k' at hkind hmap ⊢
  cases hkind with
  | map hu => exact hu
  | _ => cases hmap

/-! ## Paths -/

theorem next (h : r.Corresponds r' R) (ht : R t t') (s : Segment) :
    Parallel (fun fault fault' => fault' = fault) R (r.next t s) (r'.next t' s) := by
  have hkind := h.kind ht
  rw [next_eq, next_eq, h.typeName_eq ht]
  generalize r.kind t = k, r'.kind t' = k' at hkind ⊢
  cases s with
  | key name =>
    have hproperty := h.property? ht name
    cases hkind with
    | unknown | atomic | sequence => exact .error rfl
    | bean =>
      dsimp only
      generalize (r.descriptor t).property? name = p, (r'.descriptor t').property? name = p'
        at hproperty ⊢
      cases hproperty with
      | none => exact .error rfl
      | some hp => exact .ok hp.type
    | map hu =>
      dsimp only
      generalize (r.descriptor t).property? name = p, (r'.descriptor t').property? name = p'
        at hproperty ⊢
      cases hproperty with
      | none => exact .ok hu
      | some hp => exact .ok hp.type
  | index | wildcard =>
    cases hkind with
    | sequence hu => exact .ok hu
    | _ => exact .error rfl

theorem resolve (h : r.Corresponds r' R) (ht : R t t') (path : Path) :
    Parallel (ResolveError.Alike R) R (r.resolve t path) (r'.resolve t' path) := by
  induction path generalizing t t' with
  | nil => exact .ok ht
  | cons s path ih =>
    have hnext := h.next ht s
    rw [Registry.resolve, Registry.resolve]
    generalize r.next t s = u, r'.next t' s = u' at hnext ⊢
    cases hnext with
    | error hfault => exact .error ⟨hfault, rfl, ht⟩
    | ok hu =>
      exact (ih hu).mapError fun e e' he => ⟨he.fault, congrArg (s :: ·) he.resolved, he.reached⟩

/-! ## Proposals -/

theorem candidates_eq (h : r.Corresponds r' R) (ht : R t t') (includeDeprecated : Bool) :
    r'.candidates includeDeprecated t' = r.candidates includeDeprecated t := by
  have hvalue : r'.valueCompletion t' = r.valueCompletion t := by
    funext hint
    rw [valueCompletion, valueCompletion, h.typeName_eq ht]
  have hproperties : List.Forall₂ (· = ·)
      (((r.descriptor t).properties.filter fun p => includeDeprecated || !p.isDeprecated).map
        r.propertyCompletion)
      (((r'.descriptor t').properties.filter fun p => includeDeprecated || !p.isDeprecated).map
        r'.propertyCompletion) := by
    refine List.rel_map ?_ (List.rel_filter ?_ (h.descriptor t t' ht).properties)
    · intro p p' hp
      rw [propertyCompletion, propertyCompletion, hp.name, h.typeName_eq hp.type, hp.description,
        Property.isDeprecated, Property.isDeprecated, hp.deprecation]
    · intro p p' hp
      simp only [Property.isDeprecated, hp.deprecation]
  rw [List.forall₂_eq_eq_eq] at hproperties
  rw [candidates, candidates, h.isAtomic_eq ht, h.hints_eq ht, hvalue, hproperties]

theorem complete_eq (h : r.Corresponds r' R) (ht : R t t') (o : CompletionOptions) (path : Path)
    (start : String) : r'.complete o t' path start = r.complete o t path start := by
  have hresolve := h.resolve ht path
  unfold complete
  generalize r.resolve t path = u, r'.resolve t' path = u' at hresolve ⊢
  cases hresolve with
  | error => rfl
  | ok hu =>
    dsimp only
    rw [h.candidates_eq hu]

/-! ## Scalars -/

theorem checkScalar_eq (h : r.Corresponds r' R) (ht : R t t') (n : Node) :
    r'.checkScalar t' n = r.checkScalar t n := by
  have hinteger : t' = .integer ↔ t = .integer := h.eq_iff ht (by decide)
  have hfloat : t' = .float ↔ t = .float := h.eq_iff ht (by decide)
  have haccepts : ∀ text, r'.accepts t' n text = r.accepts t n text := by
    intro text
    simp only [accepts, h.hints_eq ht, hinteger, hfloat]
  simp only [checkScalar, haccepts, h.typeName_eq ht]

theorem checkShorthand_eq (h : r.Corresponds r' R) (ht : R t t') {u u' : TypeId} (hu : R u u')
    (n : Node) : r'.checkShorthand t' u' n = r.checkShorthand t u n := by
  simp only [checkShorthand, checkParts, h.isAtomic_eq hu, h.typeName_eq ht, h.checkScalar_eq hu]

/-! ## Entries -/

theorem resolveText? (h : r.Corresponds r' R) (ht : R t t') (text : String) :
    Option.Rel R (r.resolveText? t text) (r'.resolveText? t' text) := by
  unfold Registry.resolveText?
  cases (Path.parse text).toOption with
  | none => exact .none
  | some path => exact (h.resolve ht path).toOption

theorem dottedProperty? (h : r.Corresponds r' R) (ht : R t t') (key : String) :
    Option.Rel (fun x x' => x.1.Alike R x'.1 ∧ x'.2 = x.2) (r.dottedProperty? t key)
      (r'.dottedProperty? t' key) := by
  unfold Registry.dottedProperty?
  induction cutsAtDots key.toList with
  | nil => exact .none
  | cons cut cuts ih =>
    obtain ⟨left, right⟩ := cut
    have hproperty := h.property? ht (String.ofList left)
    rw [List.findSome?_cons, List.findSome?_cons]
    dsimp only
    generalize (r.descriptor t).property? (String.ofList left) = p,
      (r'.descriptor t').property? (String.ofList left) = p' at hproperty ⊢
    cases hproperty with
    | none => exact ih
    | some hp => exact .some ⟨hp, rfl⟩

theorem resolveDotted? (h : r.Corresponds r' R) (ht : R t t') (key : String) :
    Option.Rel R (r.resolveDotted? t key) (r'.resolveDotted? t' key) := by
  have hproperty := h.dottedProperty? ht key
  unfold Registry.resolveDotted?
  generalize r.dottedProperty? t key = x, r'.dottedProperty? t' key = x' at hproperty ⊢
  split
  · exact .none
  · cases hproperty with
    | none => exact h.resolveText? ht key
    | @some x x' hx =>
      dsimp only
      rw [hx.2]
      exact h.resolveText? hx.1.type x.2

theorem entryType (h : r.Corresponds r' R) (ht : R t t') (key : String) :
    EntryType.Alike R (r.entryType t key) (r'.entryType t' key) := by
  have hproperty := h.property? ht key
  unfold Registry.entryType
  generalize (r.descriptor t).property? key = p, (r'.descriptor t').property? key = p'
    at hproperty ⊢
  cases hproperty with
  | some hp => exact .property hp
  | none =>
    have hdotted := h.resolveDotted? ht key
    dsimp only
    rw [h.isOpenMap_eq ht]
    generalize r.resolveDotted? t key = u, r'.resolveDotted? t' key = u' at hdotted ⊢
    split
    · next hmap => exact .value (h.domain ht hmap)
    · cases hdotted with
      | none => exact .undeclared
      | some hu => exact .value hu

/-! ## Documents -/

theorem checkEntry_eq (h : r.Corresponds r' R) (ht : R t t') (o : CheckOptions) (key : String)
    {value : Node} (hvalue : ∀ u u', R u u' → r'.check o u' value = r.check o u value) :
    r'.checkEntry o t' key value = r.checkEntry o t key value := by
  have hentry := h.entryType ht key
  unfold checkEntry
  rw [h.typeName_eq ht]
  generalize r.entryType t key = x, r'.entryType t' key = x' at hentry ⊢
  cases hentry with
  | property hp =>
    dsimp only
    rw [hvalue _ _ hp.type, deprecations, deprecations, hp.deprecation, hp.name]
  | value hu => exact hvalue _ _ hu
  | undeclared => rfl

theorem check_eq (h : r.Corresponds r' R) (ht : R t t') (o : CheckOptions) (n : Node) :
    r'.check o t' n = r.check o t n := by
  induction n using Node.induction generalizing t t' with
  | step n ih =>
    -- the children are checked against related types, whatever the kind of their parent
    have hentries : ∀ entries, n = .mapping entries →
        r'.checkEntries o t' entries = r.checkEntries o t entries := by
      rintro entries rfl
      rw [checkEntries_eq, checkEntries_eq]
      refine List.flatMap_congr fun e he => ?_
      rw [h.checkEntry_eq ht o e.1 fun u u' hu => ih e.2 (List.mem_map_of_mem he) hu]
    have hitems : ∀ items u u', R u u' → n = .sequence items →
        r'.checkItems o u' 0 items = r.checkItems o u 0 items := by
      rintro items u u' hu rfl
      rw [checkItems_eq, checkItems_eq]
      refine List.flatMap_congr fun e he => ?_
      rw [ih e.1 (List.fst_mem_of_mem_zipIdx he) hu]
    have hscalar := h.checkScalar_eq ht n
    have hshorthand := fun u u' (hu : R u u') => h.checkShorthand_eq ht hu n
    have hkind := h.kind ht
    rw [Registry.check_eq, Registry.check_eq, h.typeName_eq ht]
    generalize r.kind t = k, r'.kind t' = k' at hkind ⊢
    cases hkind with
    | unknown => cases n <;> rfl
    | atomic =>
      cases n with
      | null => rfl
      | _ => exact hscalar
    | bean | map =>
      cases n with
      | mapping entries => exact hentries entries rfl
      | _ => rfl
    | sequence hu =>
      cases n with
      | null => rfl
      | sequence items => exact hitems items _ _ hu rfl
      | _ => exact hshorthand _ _ hu

theorem validate_eq (h : r.Corresponds r' R) (ht : R t t') (o : CheckOptions) (doc : Node) :
    r'.validate o t' doc = r.validate o t doc := by
  cases doc with
  | stream documents =>
    rw [validate, validate, checkItems_eq, checkItems_eq]
    refine List.flatMap_congr fun e _ => ?_
    rw [h.check_eq ht]
  | _ => exact h.check_eq ht o _

end Corresponds

/-! ## What is seen of a schema -/

/-- Starting from one of the types, nobody who sees no more than names can tell the schemas apart. -/
structure SameFrom (r r' : Registry) (t t' : TypeId) : Prop where
  validate_eq : ∀ o doc, r'.validate o t' doc = r.validate o t doc
  complete_eq : ∀ o path start, r'.complete o t' path start = r.complete o t path start
  resolve : ∀ path, Parallel (ResolveError.Alike fun u u' => r'.typeName u' = r.typeName u)
    (fun u u' => r'.typeName u' = r.typeName u) (r.resolve t path) (r'.resolve t' path)

theorem Corresponds.sameFrom {r r' : Registry} {t t' : TypeId} (h : r.Corresponds r' R)
    (ht : R t t') : r.SameFrom r' t t' where
  validate_eq := h.validate_eq ht
  complete_eq := h.complete_eq ht
  resolve := fun path => (h.resolve ht path).mono
    (fun _ _ he => ⟨he.fault, he.resolved, h.typeName_eq he.reached⟩) fun _ _ => h.typeName_eq

end Registry

end TypedYaml
