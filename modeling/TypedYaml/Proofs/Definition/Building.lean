import TypedYaml.Proofs.Definition.Filling

/-!
# Building a schema from its definition

The types of a definition are declared, then their properties are added, and then the root is looked
up. Each of the three fails for reasons that can be read off the definition, so a definition is built
exactly if it is well formed (`isOk_build_iff`). The registry is then the one that the definition
describes (`describes_of_build`).

* `SchemaDefinition.build_settles`: both, from the three parts.
* `SchemaDefinition.build_describes`: the same in terms of definitions and registries alone.
-/

namespace TypedYaml

open TypeGrammar

namespace Builder

variable {f : SchemaDefinition} {b₀ b : Builder}

/-! ## The declared types -/

theorem Declared.properties_eq_nil (h : new.Declared f.types b₀) {t : TypeId}
    (ht : t.index < b₀.types.length) :
    (b₀.descriptor t).properties = [] ∧ (b₀.descriptor t).kind.content? = none := by
  by_cases hold : t.index < new.types.length
  · rw [h.descriptor_old hold]
    obtain ⟨hcontent, -, -, hproperties, -⟩ := plain_new t
    exact ⟨hproperties, hcontent⟩
  · obtain ⟨i, hi⟩ := Nat.exists_eq_add_of_le (Nat.le_of_not_lt hold)
    have hlt : i < f.types.length := by
      have hlength := h.length_eq
      omega
    have hd : f.types[i]? = some (f.types[i].1, f.types[i].2) := List.getElem?_eq_getElem hlt
    have hnew : t = ⟨new.types.length + i⟩ := TypeId.eq_of_index_eq hi
    rw [hnew, h.descriptor_new hd, TypeDefinition.declared]
    refine ⟨rfl, ?_⟩
    cases f.types[i].2.isBean <;> rfl

theorem Declared.isSome_lookup_iff (h : new.Declared f.types b₀) (name : String) :
    (b₀.lookup name).isSome ↔ f.Declares name := by
  rw [Option.isSome_iff_exists, SchemaDefinition.declares_iff]
  exact exists_congr fun t => h.lookup_iff wellFormed_new name t

/-- No property has been added yet. -/
theorem Declared.filled (h : new.Declared f.types b₀) : Filled f b₀ [] b₀ where
  wellFormed := h.wellFormed
  names := rfl
  length_le := Nat.le_refl _
  old := fun _ _ => rfl
  properties := by
    intro t ht
    rw [(h.properties_eq_nil ht).1]
    exact .nil
  added := fun t hle hlt => absurd hlt (Nat.not_lt_of_le hle)

/-! ## The described registry -/

theorem Filled.kind_content?_eq_none (h : new.Declared f.types b₀)
    {done : List Addition} (hfilled : Filled f b₀ done b) {t : TypeId}
    (ht : t.index < b₀.types.length) : (b.build.kind t).content? = none := by
  have hkind : b.build.kind t = (b₀.descriptor t).kind := hfilled.kind_eq ht
  rw [hkind]
  exact (h.properties_eq_nil ht).2

/-- The predeclared types are no beans of the definition. -/
theorem Filled.descriptor_predeclared (h : new.Declared f.types b₀)
    (hfilled : Filled f b₀ (SchemaDefinition.additions b₀ f.types) b) {i : Nat} (hi : i < 5) :
    b.descriptor ⟨i⟩ = new.descriptor ⟨i⟩ := by
  have hlt : i < b₀.types.length := by
    have hlength : b₀.types.length = 5 + f.types.length := h.length_eq
    omega
  have hnone : ∀ x ∈ f.types, b₀.lookup x.1 ≠ some ⟨i⟩ := by
    intro x hx hname
    obtain ⟨j, hj⟩ := List.mem_iff_getElem?.mp hx
    rw [h.lookup_of_getElem? wellFormed_new hj] at hname
    have hindex : 5 + j = i := congrArg TypeId.index (Option.some.inj hname)
    omega
  have hproperties := hfilled.properties ⟨i⟩ hlt
  rw [SchemaDefinition.additionsTo_additions_of_ne hnone, List.forall₂_nil_left_iff]
    at hproperties
  obtain ⟨-, -, -, hnew, -⟩ := plain_new ⟨i⟩
  have hold : b₀.descriptor ⟨i⟩ = new.descriptor ⟨i⟩ := h.descriptor_old hi
  rw [hfilled.old ⟨i⟩ hlt, hproperties, hold, ← hnew]
  rfl

theorem Filled.describes (hf : f.Distinct) (h : new.Declared f.types b₀)
    (hfilled : Filled f b₀ (SchemaDefinition.additions b₀ f.types) b) {root : Option TypeId}
    (hroot : root = f.root.bind b.lookup) : f.Describes ⟨b.types, b.names, root⟩ where
  predeclared := fun i hi => hfilled.descriptor_predeclared h hi
  lookup_iff := by
    intro name t
    have hlookup := h.lookup_iff wellFormed_new name t
    rw [← hfilled.lookup_eq] at hlookup
    exact hlookup
  definition := by
    intro i name d hd
    have ht := h.lookup_of_getElem? wellFormed_new hd
    have hlt := ((h.wellFormed.names.lookup_iff name _).mp ht).1
    have hproperties := hfilled.properties _ hlt
    rw [SchemaDefinition.additionsTo_additions h.wellFormed hf.types (List.mem_of_getElem? hd) ht]
      at hproperties
    have hdescriptor := hfilled.old _ hlt
    rw [h.descriptor_new hd] at hdescriptor
    refine ⟨congrArg Descriptor.name hdescriptor, congrArg Descriptor.kind hdescriptor,
      congrArg Descriptor.hints hdescriptor, congrArg Descriptor.description hdescriptor, ?_⟩
    exact hproperties.imp fun y p hp =>
      hp.mono fun _ _ ht => denotes_registry.mpr (denotes_registry.mp ht)
  container_iff := by
    intro t
    have hlength : b₀.types.length = 5 + f.types.length := h.length_eq
    rw [← hlength]
    constructor
    · rintro ⟨hle, hlt⟩
      obtain ⟨e, he, c, hc, ht⟩ := hfilled.added t hle hlt
      exact ⟨e, he, c, hc, denotes_registry.mpr ht⟩
    · rintro ⟨e, -, c, hc, ht⟩
      obtain ⟨e', kind, hcontainer⟩ := TypeExpr.exists_isContainer hc
      obtain ⟨u, -, hkind⟩ := ht.content hcontainer
      have hu : (b.build.kind t).content? = some u :=
        (congrArg Kind.content? hkind).trans (hcontainer.content? u)
      refine ⟨Nat.le_of_not_lt fun hlt => ?_, ?_⟩
      · rw [hfilled.kind_content?_eq_none h hlt] at hu
        cases hu
      · exact Registry.lt_size_of_kind_ne (Kind.ne_unknown_of_content? hu)
  unique := by
    intro e t u ht hu
    exact (hfilled.wellFormed.denotes_iff (denotes_registry.mp ht)).mp (denotes_registry.mp hu)
  root := hroot

end Builder

/-! ## Building -/

namespace SchemaDefinition

open Builder

variable {f : SchemaDefinition} {b₀ b : Builder}

theorem root_settles (f : SchemaDefinition) (b : Builder) :
    Settles
      (match f.root with
        | none => .ok b.build
        | some name =>
          match b.lookup name with
          | some root => .ok (b.build.withRoot root)
          | none => .error (.unknownRoot name) : Except SchemaError Registry)
      (∀ name, f.root = some name → (b.lookup name).isSome)
      (· = ⟨b.types, b.names, f.root.bind b.lookup⟩) := by
  cases hroot : f.root with
  | none => exact .ok nofun rfl
  | some name =>
    dsimp only
    cases ht : b.lookup name with
    | none =>
      refine .error _ fun h => ?_
      have hsome := h name rfl
      rw [ht] at hsome
      cases hsome
    | some t =>
      refine .ok ?_ ?_
      · rintro _ ⟨⟩
        rw [ht]
        rfl
      · show b.build.withRoot t = ⟨b.types, b.names, b.lookup name⟩
        rw [ht]
        rfl

theorem known_iff (h : Builder.new.Declared f.types b₀) (d : PropertyDefinition) :
    d.Known b₀ ↔ ∃ e, Expression d.type.toList e ∧ f.Declares e.base :=
  exists_congr fun e => and_congr_right' (h.isSome_lookup_iff e.base)

theorem wellFormed_iff (f : SchemaDefinition) :
    f.WellFormed ↔
      (∀ x ∈ f.types, Builder.new.lookup x.1 = none ∧
        (x.2.isBean = false → x.2.properties = [])) ∧
      (∀ x ∈ f.types, ∀ y ∈ x.2.properties,
        ∃ e, Expression y.2.type.toList e ∧ f.Declares e.base) ∧
      ∀ name, f.root = some name → f.Declares name := by
  simp only [lookup_new_eq_none, TypeDefinition.isBean_iff]
  constructor
  · intro h
    exact ⟨fun x hx => ⟨h.names x hx, h.beans x hx⟩, h.expressions, h.root⟩
  · rintro ⟨hfirst, hexpressions, hroot⟩
    exact ⟨fun x hx => (hfirst x hx).1, fun x hx => (hfirst x hx).2, hexpressions, hroot⟩

theorem build_settles (hf : f.Distinct) :
    Settles f.build f.WellFormed fun r => f.Describes r ∧ r.WellFormed := by
  have hdeclare := declareTypes_settles wellFormed_new hf.types
  refine (hdeclare.bind fun b₀ hcondition hdeclared => ?_).congr f.wellFormed_iff fun _ h => h
  have hstart : f.types = [] ++ f.types := rfl
  have hfill := fillTypes_settles hf (fun x hx => (hcondition x hx).2) hdeclared hstart
    hdeclared.filled
  have hexpressions : (∀ x ∈ f.types, ∀ y ∈ x.2.properties, y.2.Known b₀) ↔
      ∀ x ∈ f.types, ∀ y ∈ x.2.properties,
        ∃ e, Expression y.2.type.toList e ∧ f.Declares e.base := by
    simp only [known_iff hdeclared]
  refine ((hfill.congr hexpressions.symm fun _ h => h).bind fun b _ hfilled => ?_)
  have hroot : (∀ name, f.root = some name → f.Declares name) ↔
      ∀ name, f.root = some name → (b.lookup name).isSome := by
    simp only [hfilled.lookup_eq, hdeclared.isSome_lookup_iff]
  refine (f.root_settles b).congr hroot ?_
  rintro _ rfl
  exact ⟨hfilled.describes hf hdeclared rfl, hfilled.wellFormed.types.of_types_eq rfl⟩

/-- A definition is built exactly if it is well formed, and the registry is the one that it
describes. -/
theorem build_describes (hf : f.Distinct) :
    (f.build.isOk ↔ f.WellFormed) ∧ ∀ r, f.build = .ok r → f.Describes r :=
  ⟨(build_settles hf).isOk_iff, fun r hr => ((build_settles hf).post r hr).1⟩

/-- Types that refer to each other and to themselves, a restricted type, and two containers. One
property is deprecated by a flag, another with a reason, and a third has a flag that is not set. -/
theorem build_describes_servers :
    let config : TypeDefinition :=
      ⟨none, none, false, [("servers", .short "Map<String, Server[]>"),
        ("level", .full "Level" (some "Root level") (some (.flag false)))]⟩
    let server : TypeDefinition :=
      ⟨some "A server", none, false,
        [("port", .full " Integer " none (some (.details none (some "old")))),
          ("peers", .full "List<Server>" none (some (.flag true)))]⟩
    let level : TypeDefinition := ⟨none, some ["LOW", "HIGH"], false, []⟩
    let f : SchemaDefinition :=
      ⟨some "Config", [("Config", config), ("Server", server), ("Level", level)]⟩
    f.Distinct ∧ f.WellFormed ∧ ∃ r, f.build = .ok r ∧ r.size = 10 ∧ f.Describes r := by
  intro config server level f
  have hf : f.Distinct := ⟨by decide, by decide⟩
  have hsize : f.build.toOption.map Registry.size = some 10 := by decide +kernel
  obtain ⟨hiff, hdescribes⟩ := build_describes hf
  cases hr : f.build with
  | error x =>
    rw [hr] at hsize
    cases hsize
  | ok r =>
    rw [hr] at hsize hiff
    exact ⟨hf, hiff.mp rfl, r, rfl, Option.some.inj hsize, hdescribes r hr⟩

end SchemaDefinition

end TypedYaml
