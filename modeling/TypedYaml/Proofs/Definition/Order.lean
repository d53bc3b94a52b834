import TypedYaml.Proofs.Definition.Building
import TypedYaml.Proofs.Schema.Correspondence

/-!
# The order of the types in a definition

The types of a definition stand in the order in which they are defined, and behind them come the
lists and maps in the order in which they are first used. So another order of definitions gives
another list of types. But it gives the same schema: an expression that denotes a type here denotes
one there, and two types denoted by one expression are described alike. For a name leads to the type
with that definition, whose properties are spelled the same, and a list or map is known by what is
inside it.

* `Registry.Coincide`: types that are denoted by one expression.
* `SchemaDefinition.Describes.corresponds`: they correspond.
* `SchemaDefinition.build_perm`: definitions in another order.
-/

namespace TypedYaml

open TypeExpr TypeGrammar

/-- Some expression denotes the one type in one schema and the other in the other. -/
def Registry.Coincide (r r' : Registry) (t t' : TypeId) : Prop :=
  ∃ e, r.Denotes e t ∧ r'.Denotes e t'

/-! ## Types with one definition -/

section Common

variable {r r' : Registry}

/-- What is said twice about one list relates the lists of which it is said. -/
theorem forall₂_of_common {α β γ : Type} {S : α → β → Prop} {S' : α → γ → Prop}
    {T : β → γ → Prop} {as : List α} {bs : List β} {cs : List γ} (h : List.Forall₂ S as bs)
    (h' : List.Forall₂ S' as cs) (hT : ∀ a b c, S a b → S' a c → T b c) :
    List.Forall₂ T bs cs := by
  induction h generalizing cs with
  | nil =>
    cases h'
    exact .nil
  | cons hab _ ih =>
    cases h' with
    | cons hac hrest => exact .cons (hT _ _ _ hab hac) (ih hrest)

theorem PropertyDefinition.Describes.alike {name : String} {d : PropertyDefinition}
    {p p' : Property} (h : d.Describes r name p) (h' : d.Describes r' name p') :
    p.Alike (r.Coincide r') p' := by
  obtain ⟨e, he, ht⟩ := h.exists_denotes
  obtain ⟨e', he', ht'⟩ := h'.exists_denotes
  cases (parse_eq_ok_iff.mpr he).symm.trans (parse_eq_ok_iff.mpr he')
  have htype : r.Coincide r' p.type p'.type := ⟨e, ht, ht'⟩
  cases h with
  | short =>
    cases h'
    exact ⟨rfl, htype, rfl, rfl⟩
  | full _ _ hdeprecated =>
    cases h' with
    | full _ _ hdeprecated' => exact ⟨rfl, htype, rfl, hdeprecated'.unique hdeprecated⟩

theorem TypeDefinition.Describes.alike {name : String} {d : TypeDefinition} {t t' : Descriptor}
    (h : d.Describes r name t) (h' : d.Describes r' name t') : t.Alike (r.Coincide r') t' where
  name := h'.name.trans h.name.symm
  kind := by
    rw [h.kind, h'.kind]
    cases d.isBean with
    | true => exact .bean
    | false => exact .atomic
  properties := forall₂_of_common h.properties h'.properties fun _ _ _ hp hp' => hp.alike hp'
  hints := h'.hints.trans h.hints.symm

/-- Nothing in a descriptor refers to other types. -/
theorem Descriptor.Alike.of_plain {R : TypeId → TypeId → Prop} {d : Descriptor}
    (hcontent : d.kind.content? = none) (hproperties : d.properties = []) : d.Alike R d where
  name := rfl
  kind := by
    generalize d.kind = k at hcontent
    cases k with
    | unknown => exact .unknown
    | atomic => exact .atomic
    | bean => exact .bean
    | map | sequence => cases hcontent
  properties := by
    rw [hproperties]
    exact .nil
  hints := rfl

/-- A list or map has neither properties nor hints. -/
theorem Registry.WellFormed.eq_nil_of_content (h : r.WellFormed) {t u : TypeId}
    (hu : (r.kind t).content? = some u) :
    (r.descriptor t).properties = [] ∧ (r.descriptor t).hints = [] := by
  constructor
  · by_contra hne
    rw [h.bean_of_properties t hne] at hu
    cases hu
  · by_contra hne
    rw [h.atomic_of_hints t hne] at hu
    cases hu

/-- Lists over related types, and maps over related types, are described alike. -/
theorem TypeExpr.IsContainer.alike {c e : TypeExpr} {kind : TypeId → Kind} {t t' u u' : TypeId}
    {R : TypeId → TypeId → Prop} (hc : IsContainer c e kind) (h : r.WellFormed)
    (h' : r'.WellFormed) (hkind : r.kind t = kind u) (hkind' : r'.kind t' = kind u') (hu : R u u')
    (hname : r'.typeName u' = r.typeName u) : (r.descriptor t).Alike R (r'.descriptor t') := by
  have hcontent : (r.kind t).content? = some u := hkind ▸ hc.content? u
  have hcontent' : (r'.kind t').content? = some u' := hkind' ▸ hc.content? u'
  obtain ⟨hproperties, hhints⟩ := h.eq_nil_of_content hcontent
  obtain ⟨hproperties', hhints'⟩ := h'.eq_nil_of_content hcontent'
  have htypeName : r'.typeName t' = r.typeName t := by
    rw [h.container_name t u hcontent, h'.container_name t' u' hcontent', hname, hkind, hkind']
    cases hc <;> rfl
  have halike : (r.kind t).Alike R (r'.kind t') := by
    rw [hkind, hkind']
    cases hc with
    | list => exact .sequence hu
    | map => exact .map hu
  refine ⟨htypeName, halike, ?_, hhints'.trans hhints.symm⟩
  rw [hproperties, hproperties']
  exact .nil

end Common

namespace SchemaDefinition

variable {f f' : SchemaDefinition} {r r' : Registry}

theorem Describes.plain (h : f.Describes r) {t : TypeId} (ht : t.index < 5) :
    (r.kind t).content? = none ∧ (r.descriptor t).properties = [] := by
  obtain ⟨hcontent, -, -, hproperties, -⟩ := Builder.plain_new t
  have hdescriptor : r.descriptor t = Builder.new.build.descriptor t := h.predeclared t.index ht
  rw [Registry.kind, hdescriptor]
  exact ⟨hcontent, hproperties⟩

theorem Describes.isSome_lookup_iff (h : f.Describes r) (name : String) :
    (r.lookup name).isSome ↔ f.Declares name := by
  rw [Option.isSome_iff_exists, declares_iff]
  exact exists_congr fun t => h.lookup_iff name t

/-- Under a name stands a predeclared type, in the same place in both schemas, or a type of the
definition. -/
theorem Describes.lookup_cases (h : f.Describes r) (h' : f'.Describes r')
    (htypes : f'.types.Perm f.types) {name : String} {t t' : TypeId} (ht : r.lookup name = some t)
    (ht' : r'.lookup name = some t') :
    (t' = t ∧ t.index < 5) ∨
      ∃ i j d, f.types[i]? = some (name, d) ∧ f'.types[j]? = some (name, d) ∧ t = ⟨5 + i⟩ ∧
        t' = ⟨5 + j⟩ := by
  rcases (h.lookup_iff name t).mp ht with hnew | ⟨i, d, hi, rfl⟩
  · have hsame : r'.lookup name = some t := (h'.lookup_iff name t).mpr (.inl hnew)
    rw [ht'] at hsame
    exact .inl ⟨Option.some.inj hsame,
      ((Builder.wellFormed_new.names.lookup_iff name t).mp hnew).1⟩
  · obtain ⟨j, hj⟩ := List.mem_iff_getElem?.mp (htypes.mem_iff.mpr (List.mem_of_getElem? hi))
    have hsame : r'.lookup name = some ⟨5 + j⟩ :=
      (h'.lookup_iff name _).mpr (.inr ⟨j, d, hj, rfl⟩)
    rw [ht'] at hsame
    exact .inr ⟨i, j, d, hi, hj, rfl, Option.some.inj hsame⟩

theorem Describes.descriptor_alike (h : f.Describes r) (h' : f'.Describes r')
    (hr : r.WellFormed) (hr' : r'.WellFormed) (htypes : f'.types.Perm f.types) {e : TypeExpr}
    {t t' : TypeId} (ht : r.Denotes e t) (ht' : r'.Denotes e t') :
    (r.descriptor t).Alike (r.Coincide r') (r'.descriptor t') := by
  induction e using TypeExpr.induction generalizing t t' with
  | name name =>
    rw [Registry.denotes_name] at ht ht'
    rcases h.lookup_cases h' htypes ht ht' with ⟨rfl, hlt⟩ | ⟨i, j, d, hi, hj, rfl, rfl⟩
    · have hsame : r'.descriptor t' = r.descriptor t' :=
        (h'.predeclared t'.index hlt).trans (h.predeclared t'.index hlt).symm
      obtain ⟨hcontent, hproperties⟩ := h.plain hlt
      rw [hsame]
      exact .of_plain hcontent hproperties
    · exact (h.definition i name d hi).alike (h'.definition j name d hj)
  | container c e kind hc ih =>
    obtain ⟨u, hu, hkind⟩ := ht.content hc
    obtain ⟨u', hu', hkind'⟩ := ht'.content hc
    -- the name of a container holds that of its content, so this needs the induction
    exact hc.alike hr hr' hkind hkind' ⟨e, hu, hu'⟩ (ih hu hu').name

/-- The lists and maps stand behind the predeclared types. -/
theorem Describes.le_of_container (h : f.Describes r) {c e : TypeExpr} {kind : TypeId → Kind}
    {t : TypeId} (hc : IsContainer c e kind) (ht : r.Denotes c t) : 5 ≤ t.index := by
  obtain ⟨u, -, hkind⟩ := ht.content hc
  by_contra hlt
  have hnone := (h.plain (Nat.lt_of_not_le hlt)).1
  rw [hkind, hc.content? u] at hnone
  cases hnone

theorem Describes.corresponds (h : f.Describes r) (h' : f'.Describes r') (hr : r.WellFormed)
    (hr' : r'.WellFormed) (htypes : f'.types.Perm f.types) :
    r.Corresponds r' (r.Coincide r') where
  descriptor := by
    rintro t t' ⟨e, ht, ht'⟩
    exact h.descriptor_alike h' hr hr' htypes ht ht'
  predeclared := by
    rintro t t' ⟨e, ht, ht'⟩
    induction e using TypeExpr.induction with
    | name name =>
      rw [Registry.denotes_name] at ht ht'
      rcases h.lookup_cases h' htypes ht ht' with ⟨heq, -⟩ | ⟨i, j, d, -, -, rfl, rfl⟩
      · exact .inl heq
      · exact .inr ⟨Nat.le_add_right 5 i, Nat.le_add_right 5 j⟩
    | container c e kind hc _ => exact .inr ⟨h.le_of_container hc ht, h'.le_of_container hc ht'⟩

/-! ## Definitions in another order -/

theorem Distinct.of_perm (h : f.Distinct) (htypes : f'.types.Perm f.types) : f'.Distinct where
  types := (htypes.map Prod.fst).nodup_iff.mpr h.types
  properties := fun x hx => h.properties x (htypes.mem_iff.mp hx)

theorem declares_iff_of_perm (htypes : f'.types.Perm f.types) (name : String) :
    f'.Declares name ↔ f.Declares name :=
  or_congr_right (htypes.map Prod.fst).mem_iff

theorem WellFormed.of_perm (h : f.WellFormed) (htypes : f'.types.Perm f.types)
    (hroot : f'.root = f.root) : f'.WellFormed where
  names := fun x hx => h.names x (htypes.mem_iff.mp hx)
  beans := fun x hx => h.beans x (htypes.mem_iff.mp hx)
  expressions := by
    intro x hx y hy
    obtain ⟨e, he, hbase⟩ := h.expressions x (htypes.mem_iff.mp hx) y hy
    exact ⟨e, he, (declares_iff_of_perm htypes e.base).mpr hbase⟩
  root := fun name hname =>
    (declares_iff_of_perm htypes name).mpr (h.root name (hroot ▸ hname))

/-- The order in which types are defined decides neither whether there is a schema nor what can be
seen of it from any of its names. -/
theorem build_perm (hf : f.Distinct) (htypes : f'.types.Perm f.types) (hroot : f'.root = f.root) :
    (f'.build.isOk ↔ f.build.isOk) ∧
      ∀ r r', f.build = .ok r → f'.build = .ok r' → ∀ name, f.Declares name →
        ∃ t t', r.lookup name = some t ∧ r'.lookup name = some t' ∧ r.SameFrom r' t t' := by
  have hsettles := build_settles hf
  have hsettles' := build_settles (hf.of_perm htypes)
  constructor
  · rw [hsettles.isOk_iff, hsettles'.isOk_iff]
    exact ⟨fun h => h.of_perm htypes.symm hroot.symm, fun h => h.of_perm htypes hroot⟩
  · intro r r' hr hr' name hname
    obtain ⟨h, hwellFormed⟩ := hsettles.post r hr
    obtain ⟨h', hwellFormed'⟩ := hsettles'.post r' hr'
    obtain ⟨t, ht⟩ := Option.isSome_iff_exists.mp ((h.isSome_lookup_iff name).mpr hname)
    have hname' : f'.Declares name := (declares_iff_of_perm htypes name).mpr hname
    obtain ⟨t', ht'⟩ := Option.isSome_iff_exists.mp ((h'.isSome_lookup_iff name).mpr hname')
    have hcorresponds := h.corresponds h' hwellFormed hwellFormed' htypes
    exact ⟨t, t', ht, ht', hcorresponds.sameFrom ⟨.name name, .name ht, .name ht'⟩⟩

/-- The types that refer to each other change places, and so do a list and a map over them. -/
theorem build_perm_servers :
    let config : TypeDefinition :=
      ⟨none, none, false, [("servers", .short "Map<String, Server>")]⟩
    let server : TypeDefinition :=
      ⟨none, none, false,
        [("peers", .short "Server[]"), ("level", .full "Level" none (some (.flag true)))]⟩
    let level : TypeDefinition := ⟨none, some ["LOW", "HIGH"], false, []⟩
    let f : SchemaDefinition :=
      ⟨some "Config", [("Config", config), ("Server", server), ("Level", level)]⟩
    let f' : SchemaDefinition :=
      ⟨some "Config", [("Level", level), ("Server", server), ("Config", config)]⟩
    f.Distinct ∧ f'.types.Perm f.types ∧ f'.root = f.root ∧ f.Declares "Config" ∧
      ∃ r r', f.build = .ok r ∧ f'.build = .ok r' ∧ r.lookup "Config" = some ⟨5⟩ ∧
        r'.lookup "Config" = some ⟨7⟩ ∧ r.SameFrom r' ⟨5⟩ ⟨7⟩ := by
  intro config server level f f'
  have hf : f.Distinct := ⟨by decide, by decide⟩
  have htypes : f'.types.Perm f.types := List.reverse_perm f.types
  have hconfig : f.Declares "Config" := Or.inr (by decide)
  have hlookup : f.build.toOption.bind (·.lookup "Config") = some ⟨5⟩ := by decide +kernel
  have hlookup' : f'.build.toOption.bind (·.lookup "Config") = some ⟨7⟩ := by decide +kernel
  obtain ⟨-, hsame⟩ := build_perm hf htypes rfl
  cases hr : f.build with
  | error x =>
    rw [hr] at hlookup
    cases hlookup
  | ok r =>
  cases hr' : f'.build with
  | error x =>
    rw [hr'] at hlookup'
    cases hlookup'
  | ok r' =>
    rw [hr] at hlookup
    rw [hr'] at hlookup'
    obtain ⟨t, t', ht, ht', h⟩ := hsame r r' hr hr' "Config" hconfig
    cases ht.symm.trans hlookup
    cases ht'.symm.trans hlookup'
    exact ⟨hf, htypes, rfl, hconfig, r, r', rfl, rfl, ht, ht', h⟩

end SchemaDefinition

end TypedYaml
