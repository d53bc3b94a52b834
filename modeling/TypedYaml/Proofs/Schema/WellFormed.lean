import TypedYaml.Schema.Navigation

/-!
# Well-formed lists of types

The types of a schema refer to each other by their places, and nothing but the operations that
build them keeps these places right. This file says what right means, and that it stays so when a
type is added at the end and when one is given a description or a property. Nothing else ever
happens to the list.

* `Registry.WellFormed`: the invariant of the list of types.
* `Registry.Admits`, `WellFormed.push`: adding a type.
* `Registry.Allows`, `WellFormed.modify`: changing one.
-/

namespace TypedYaml

theorem TypeId.eq_of_index_eq {t u : TypeId} (h : t.index = u.index) : t = u := by
  cases t
  cases u
  cases h
  rfl

namespace Kind

/-- The type of the elements or values. -/
def content? : Kind → Option TypeId
  | .map value => some value
  | .sequence element => some element
  | _ => none

/-- The name of a list or map, given that of its elements or values. -/
def containerName (content : String) : Kind → String
  | .map _ => "Map<String, " ++ content ++ ">"
  | .sequence _ => "List<" ++ content ++ ">"
  | _ => content

theorem ne_unknown_of_content? {k : Kind} {u : TypeId} (h : k.content? = some u) :
    k ≠ .unknown := by
  rintro rfl
  cases h

end Kind

namespace Registry

/-- The first five types are the predeclared ones, with whatever description. The elements and
values of a container come before it and name it, and there is one container of each kind. Only
beans have properties, with different names, and only atomic types have hints. -/
structure WellFormed (r : Registry) : Prop where
  size_ge : 5 ≤ r.size
  predeclared : ∀ i d, Builder.new.types[i]? = some d →
    ∃ text, r.descriptor ⟨i⟩ = { d with description := text }
  eq_unknown : ∀ t, t.index < r.size → r.kind t = .unknown → t = .unknown
  content_lt : ∀ t u, (r.kind t).content? = some u → u.index < t.index
  container_name : ∀ t u, (r.kind t).content? = some u →
    r.typeName t = (r.kind t).containerName (r.typeName u)
  container_inj : ∀ t t' u, (r.kind t).content? = some u → r.kind t' = r.kind t → t' = t
  bean_of_properties : ∀ t, (r.descriptor t).properties ≠ [] → r.kind t = .bean
  property_lt : ∀ t, ∀ p ∈ (r.descriptor t).properties, p.type.index < r.size
  property_nodup : ∀ t, ((r.descriptor t).properties.map Property.name).Nodup
  atomic_of_hints : ∀ t, (r.descriptor t).hints ≠ [] → r.kind t = .atomic

variable {r : Registry}

/-- The invariant does not see the names and the root. -/
theorem WellFormed.of_types_eq {r' : Registry} (h : r.WellFormed) (ht : r'.types = r.types) :
    r'.WellFormed := by
  obtain ⟨types, names, root⟩ := r
  obtain ⟨types', names', root'⟩ := r'
  cases ht
  exact ⟨h.size_ge, h.predeclared, h.eq_unknown, h.content_lt, h.container_name,
    h.container_inj, h.bean_of_properties, h.property_lt, h.property_nodup, h.atomic_of_hints⟩

/-- Beyond the end of the list nothing is known. -/
theorem lt_size_of_kind_ne {t : TypeId} (h : r.kind t ≠ .unknown) : t.index < r.size := by
  refine Nat.lt_of_not_le fun hge => h ?_
  rw [kind, descriptor, List.getElem?_eq_none hge]
  rfl

/-- A property is found by its name, which no other property has. -/
theorem WellFormed.property?_of_mem (h : r.WellFormed) {t : TypeId} {p : Property}
    (hp : p ∈ (r.descriptor t).properties) : (r.descriptor t).property? p.name = some p := by
  obtain ⟨before, after, heq⟩ := List.append_of_mem hp
  have hnodup := h.property_nodup t
  rw [heq, List.map_append, List.nodup_append] at hnodup
  rw [Descriptor.property?, List.find?_eq_some_iff_append]
  refine ⟨by simp, before, after, heq, fun q hq => ?_⟩
  have hne : q.name ≠ p.name :=
    hnodup.2.2 q.name (List.mem_map_of_mem hq) p.name List.mem_cons_self
  simp [hne]

theorem WellFormed.content_lt_size (h : r.WellFormed) {t u : TypeId}
    (hu : (r.kind t).content? = some u) : u.index < r.size := by
  have hlt := h.content_lt t u hu
  have hsize := lt_size_of_kind_ne (Kind.ne_unknown_of_content? hu)
  omega

/-! ## Adding a type -/

/-- The registry with one more type at the end. -/
def push (d : Descriptor) (r : Registry) : Registry := { r with types := r.types ++ [d] }

theorem size_push (d : Descriptor) : (r.push d).size = r.size + 1 := by
  simp [push, size]

theorem descriptor_push (d : Descriptor) (t : TypeId) :
    (r.push d).descriptor t = if t.index = r.size then d else r.descriptor t := by
  rcases Nat.lt_trichotomy t.index r.size with hlt | heq | hgt
  · rw [if_neg (Nat.ne_of_lt hlt), descriptor, push, List.getElem?_append_left hlt]
    rfl
  · rw [if_pos heq, descriptor, push, heq, size, List.getElem?_concat_length]
    rfl
  · have hlen : (r.types ++ [d]).length ≤ t.index := by
      rw [List.length_append, List.length_singleton]
      exact hgt
    rw [if_neg (Nat.ne_of_gt hgt), descriptor, push, List.getElem?_eq_none hlen, descriptor,
      List.getElem?_eq_none (Nat.le_of_lt hgt)]

theorem kind_push (d : Descriptor) (t : TypeId) :
    (r.push d).kind t = if t.index = r.size then d.kind else r.kind t := by
  rw [kind, descriptor_push]
  split <;> rfl

theorem typeName_push (d : Descriptor) (t : TypeId) :
    (r.push d).typeName t = if t.index = r.size then d.name else r.typeName t := by
  rw [typeName, descriptor_push]
  split <;> rfl

/-- What a type has to be like to be added. -/
structure Admits (r : Registry) (d : Descriptor) : Prop where
  known : d.kind ≠ .unknown
  content : ∀ u, d.kind.content? = some u →
    u.index < r.size ∧ d.name = d.kind.containerName (r.typeName u)
  fresh : ∀ u t, d.kind.content? = some u → r.kind t ≠ d.kind
  properties : d.properties = []
  hints : d.hints ≠ [] → d.kind = .atomic

theorem WellFormed.push {d : Descriptor} (h : r.WellFormed) (hd : r.Admits d) :
    (r.push d).WellFormed where
  size_ge := by
    rw [size_push]
    exact Nat.le_succ_of_le h.size_ge
  predeclared := by
    intro i e he
    have hi : i < 5 := (List.getElem?_eq_some_iff.mp he).1
    have hsize := h.size_ge
    have hne : i ≠ r.size := by omega
    rw [descriptor_push, if_neg hne]
    exact h.predeclared i e he
  eq_unknown := by
    intro t ht hk
    rw [size_push] at ht
    rw [kind_push] at hk
    split at hk
    · exact absurd hk hd.known
    · exact h.eq_unknown t (by omega) hk
  content_lt := by
    intro t u hu
    rw [kind_push] at hu
    split at hu
    · next ht =>
      rw [ht]
      exact (hd.content u hu).1
    · exact h.content_lt t u hu
  container_name := by
    intro t u hu
    rw [kind_push] at hu ⊢
    rw [typeName_push, typeName_push]
    split at hu
    · next ht =>
      obtain ⟨hlt, hname⟩ := hd.content u hu
      rw [if_pos ht, if_pos ht, if_neg (Nat.ne_of_lt hlt), hname]
    · next ht =>
      have hne : u.index ≠ r.size := Nat.ne_of_lt (h.content_lt_size hu)
      rw [if_neg ht, if_neg ht, if_neg hne, h.container_name t u hu]
  container_inj := by
    intro t t' u hu hk
    rw [kind_push] at hu
    rw [kind_push, kind_push] at hk
    by_cases ht : t.index = r.size
    · rw [if_pos ht] at hu hk
      by_cases ht' : t'.index = r.size
      · exact TypeId.eq_of_index_eq (ht'.trans ht.symm)
      · rw [if_neg ht'] at hk
        exact absurd hk (hd.fresh u t' hu)
    · rw [if_neg ht] at hu hk
      by_cases ht' : t'.index = r.size
      · rw [if_pos ht'] at hk
        exact absurd hk.symm (hd.fresh u t (hk ▸ hu))
      · rw [if_neg ht'] at hk
        exact h.container_inj t t' u hu hk
  bean_of_properties := by
    intro t hp
    rw [descriptor_push] at hp
    rw [kind_push]
    split at hp
    · exact absurd hd.properties hp
    · next ht => rw [if_neg ht, h.bean_of_properties t hp]
  property_lt := by
    intro t p hp
    rw [descriptor_push] at hp
    rw [size_push]
    split at hp
    · rw [hd.properties] at hp
      cases hp
    · exact Nat.lt_succ_of_lt (h.property_lt t p hp)
  property_nodup := by
    intro t
    rw [descriptor_push]
    split
    · rw [hd.properties]
      exact List.nodup_nil
    · exact h.property_nodup t
  atomic_of_hints := by
    intro t hh
    rw [descriptor_push] at hh
    rw [kind_push]
    split at hh
    · next ht => rw [if_pos ht, hd.hints hh]
    · next ht => rw [if_neg ht, h.atomic_of_hints t hh]

/-- A container over a type, unless there is one already. -/
theorem admits_container {u : TypeId} (hu : u.index < r.size) {k : Kind}
    (hk : k.content? = some u) (hfresh : ∀ t, r.kind t ≠ k) :
    r.Admits (.new (k.containerName (r.typeName u)) k) where
  known := Kind.ne_unknown_of_content? hk
  content := by
    intro v hv
    have hvu : u = v := Option.some.inj (hk.symm.trans hv)
    subst hvu
    exact ⟨hu, rfl⟩
  fresh := fun _ t _ => hfresh t
  properties := rfl
  hints := fun h => absurd rfl h

/-! ## Changing a type -/

/-- The registry with one type changed. -/
def modify (t : TypeId) (f : Descriptor → Descriptor) (r : Registry) : Registry :=
  { r with types := r.types.modify t.index f }

theorem size_modify (t : TypeId) (f : Descriptor → Descriptor) : (r.modify t f).size = r.size := by
  simp [modify, size]

theorem descriptor_modify {t : TypeId} (ht : t.index < r.size) (f : Descriptor → Descriptor)
    (u : TypeId) :
    (r.modify t f).descriptor u = if u = t then f (r.descriptor t) else r.descriptor u := by
  by_cases hu : u = t
  · rw [if_pos hu, hu, descriptor, modify, List.getElem?_modify_eq, descriptor,
      List.getElem?_eq_getElem ht]
    rfl
  · have hne : t.index ≠ u.index := fun heq => hu (TypeId.eq_of_index_eq heq.symm)
    rw [if_neg hu, descriptor, modify, List.getElem?_modify_ne _ _ hne, descriptor]

/-- What may become of a type: a description changes nothing else, and a bean may get
properties. -/
structure Allows (r : Registry) (old new : Descriptor) : Prop where
  name : new.name = old.name
  kind : new.kind = old.kind
  hints : new.hints = old.hints
  properties : old.kind ≠ .bean → new.properties = old.properties
  property_lt : ∀ p ∈ new.properties, p.type.index < r.size
  property_nodup : (new.properties.map Property.name).Nodup

/-- What is no bean can only be described. -/
theorem Allows.eq_described {old new : Descriptor} (h : r.Allows old new) (hk : old.kind ≠ .bean) :
    new = { old with description := new.description } := by
  obtain ⟨hname, hkind, hhints, hproperties, -, -⟩ := h
  cases new
  cases hname
  cases hkind
  cases hhints
  cases hproperties hk
  rfl

section Modify

variable {t : TypeId} {f : Descriptor → Descriptor}

theorem kind_modify (ht : t.index < r.size) (hf : r.Allows (r.descriptor t) (f (r.descriptor t)))
    (u : TypeId) : (r.modify t f).kind u = r.kind u := by
  rw [kind, descriptor_modify ht]
  split
  · next hu => rw [hu, hf.kind, kind]
  · rfl

theorem typeName_modify (ht : t.index < r.size)
    (hf : r.Allows (r.descriptor t) (f (r.descriptor t))) (u : TypeId) :
    (r.modify t f).typeName u = r.typeName u := by
  rw [typeName, descriptor_modify ht]
  split
  · next hu => rw [hu, hf.name, typeName]
  · rfl

/-- The predeclared types are no beans. -/
theorem predeclared_ne_bean {i : Nat} {d : Descriptor} (h : Builder.new.types[i]? = some d) :
    d.kind ≠ .bean := by
  have hmem : d ∈ Builder.new.types := List.mem_of_getElem? h
  have hall : ∀ e ∈ Builder.new.types, e.kind ≠ .bean := by decide
  exact hall d hmem

theorem WellFormed.modify (h : r.WellFormed) (ht : t.index < r.size)
    (hf : r.Allows (r.descriptor t) (f (r.descriptor t))) : (r.modify t f).WellFormed where
  size_ge := by
    rw [size_modify]
    exact h.size_ge
  predeclared := by
    intro i d hd
    obtain ⟨text, htext⟩ := h.predeclared i d hd
    rw [descriptor_modify ht]
    split
    · next hi =>
      have hold : r.descriptor t = { d with description := text } := by rw [← hi, htext]
      have hkind : (r.descriptor t).kind ≠ .bean := by
        rw [hold]
        show d.kind ≠ .bean
        exact predeclared_ne_bean hd
      refine ⟨(f (r.descriptor t)).description, ?_⟩
      rw [hf.eq_described hkind, hold]
    · exact ⟨text, htext⟩
  eq_unknown := by
    intro u hu hk
    rw [size_modify] at hu
    rw [kind_modify ht hf] at hk
    exact h.eq_unknown u hu hk
  content_lt := by
    intro u v hv
    rw [kind_modify ht hf] at hv
    exact h.content_lt u v hv
  container_name := by
    intro u v hv
    rw [kind_modify ht hf] at hv ⊢
    rw [typeName_modify ht hf, typeName_modify ht hf]
    exact h.container_name u v hv
  container_inj := by
    intro u u' v hv hk
    rw [kind_modify ht hf] at hv
    rw [kind_modify ht hf, kind_modify ht hf] at hk
    exact h.container_inj u u' v hv hk
  bean_of_properties := by
    intro u hp
    rw [descriptor_modify ht] at hp
    rw [kind_modify ht hf]
    split at hp
    · next hu =>
      by_cases hk : (r.descriptor t).kind = .bean
      · rw [hu, kind, hk]
      · rw [hf.properties hk] at hp
        rw [hu, h.bean_of_properties t hp]
    · exact h.bean_of_properties u hp
  property_lt := by
    intro u p hp
    rw [descriptor_modify ht] at hp
    rw [size_modify]
    split at hp
    · exact hf.property_lt p hp
    · exact h.property_lt u p hp
  property_nodup := by
    intro u
    rw [descriptor_modify ht]
    split
    · exact hf.property_nodup
    · exact h.property_nodup u
  atomic_of_hints := by
    intro u hh
    rw [descriptor_modify ht] at hh
    rw [kind_modify ht hf]
    split at hh
    · next hu =>
      rw [hf.hints] at hh
      rw [hu, h.atomic_of_hints t hh]
    · exact h.atomic_of_hints u hh

end Modify

end Registry

end TypedYaml
