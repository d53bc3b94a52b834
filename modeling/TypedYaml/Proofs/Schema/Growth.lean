import TypedYaml.Proofs.Schema.Reachable

/-!
# Builders grow

No operation takes anything away from a builder or gives it another meaning. A type keeps its place,
its name, its kind, its hints and the properties it has, and a name leads to the same type for ever.
So what an operation gives back stays right, whatever is done to the builder afterwards.

* `Descriptor.Grows`, `Builder.Grows`: what may become of a type and of a builder.
* `Builder.Extends`: nothing but new types and names.
* `Builder.grows_apply`: no operation does more than to let a builder grow, also if it fails.
* `Builder.Run`: one builder comes about from another.
-/

namespace TypedYaml

/-- A type may be described and may get more properties. -/
structure Descriptor.Grows (old new : Descriptor) : Prop where
  name : new.name = old.name
  kind : new.kind = old.kind
  hints : new.hints = old.hints
  properties : old.properties <+: new.properties

namespace Descriptor.Grows

theorem refl (d : Descriptor) : d.Grows d := ⟨rfl, rfl, rfl, List.prefix_refl _⟩

theorem trans {d e f : Descriptor} (h : d.Grows e) (h' : e.Grows f) : d.Grows f :=
  ⟨h'.name.trans h.name, h'.kind.trans h.kind, h'.hints.trans h.hints,
    h.properties.trans h'.properties⟩

end Descriptor.Grows

namespace Builder

/-- Whatever one builder has is in the other as well, under the same id. Types may have gained
properties and other descriptions. -/
structure Grows (b c : Builder) : Prop where
  length_le : b.types.length ≤ c.types.length
  descriptor : ∀ t, t.index < b.types.length → (b.descriptor t).Grows (c.descriptor t)
  lookup : ∀ name t, b.lookup name = some t → c.lookup name = some t

variable {b c : Builder}

/-! ## Types that are there -/

theorem descriptor_of_prefix (h : b.types <+: c.types) {t : TypeId}
    (ht : t.index < b.types.length) : c.descriptor t = b.descriptor t := by
  obtain ⟨ds, hds⟩ := h
  rw [descriptor, ← hds, List.getElem?_append_left ht, descriptor]

theorem descriptor_modify (b : Builder) {t : TypeId} (f : Descriptor → Descriptor) {u : TypeId}
    (hu : u.index < b.types.length) :
    (b.modify t f).descriptor u = if u = t then f (b.descriptor u) else b.descriptor u := by
  by_cases ht : u = t
  · subst ht
    exact Registry.descriptor_modify (r := b.build) hu f u
  · have hne : t.index ≠ u.index := fun heq => ht (TypeId.eq_of_index_eq heq.symm)
    rw [if_neg ht, descriptor, modify, List.getElem?_modify_ne _ _ hne, descriptor]

namespace Grows

theorem refl (b : Builder) : b.Grows b := ⟨Nat.le_refl _, fun _ _ => .refl _, fun _ _ ht => ht⟩

theorem trans {d : Builder} (h : b.Grows c) (h' : c.Grows d) : b.Grows d where
  length_le := Nat.le_trans h.length_le h'.length_le
  descriptor := fun t ht =>
    (h.descriptor t ht).trans (h'.descriptor t (Nat.lt_of_lt_of_le ht h.length_le))
  lookup := fun name t ht => h'.lookup name t (h.lookup name t ht)

/-- The type that a type is a container over is there for good. -/
theorem kind_eq (h : b.Grows c) {t : TypeId} (ht : b.build.kind t ≠ .unknown) :
    c.build.kind t = b.build.kind t :=
  (h.descriptor t (Registry.lt_size_of_kind_ne ht)).kind

end Grows

/-! ## Adding types -/

/-- Types may have been added behind those that are there, and names for them. -/
structure Extends (b c : Builder) : Prop where
  types : b.types <+: c.types
  lookup : ∀ name t, b.lookup name = some t → c.lookup name = some t

namespace Extends

theorem refl (b : Builder) : b.Extends b := ⟨List.prefix_refl _, fun _ _ ht => ht⟩

theorem trans {d : Builder} (h : b.Extends c) (h' : c.Extends d) : b.Extends d :=
  ⟨h.types.trans h'.types, fun name t ht => h'.lookup name t (h.lookup name t ht)⟩

theorem of_names_eq (htypes : b.types <+: c.types) (hnames : c.names = b.names) : b.Extends c :=
  ⟨htypes, fun name t ht => by rwa [Builder.lookup, hnames]⟩

theorem descriptor_eq (h : b.Extends c) {t : TypeId} (ht : t.index < b.types.length) :
    c.descriptor t = b.descriptor t := descriptor_of_prefix h.types ht

theorem grows (h : b.Extends c) : b.Grows c where
  length_le := h.types.length_le
  descriptor := by
    intro t ht
    rw [h.descriptor_eq ht]
    exact .refl _
  lookup := h.lookup

end Extends

theorem extends_declare (d : Descriptor) (b : Builder) : b.Extends (b.declare d).2 := by
  unfold declare
  cases hname : b.lookup d.name with
  | some t => exact .refl b
  | none =>
    refine ⟨List.prefix_append _ _, fun name t ht => ?_⟩
    have hne : name ≠ d.name := by
      rintro rfl
      rw [hname] at ht
      cases ht
    rw [lookup, List.lookup_cons, beq_eq_false_iff_ne.mpr hne]
    exact ht

theorem extends_listOf (u : TypeId) (b : Builder) : b.Extends (b.listOf u).2 := by
  unfold listOf
  cases b.lists.lookup u with
  | some t => exact .refl b
  | none => exact .of_names_eq (List.prefix_append _ _) rfl

theorem extends_mapOf (u : TypeId) (b : Builder) : b.Extends (b.mapOf u).2 := by
  unfold mapOf
  cases b.maps.lookup u with
  | some t => exact .refl b
  | none => exact .of_names_eq (List.prefix_append _ _) rfl

theorem extends_denote (referencedBy : String) (e : TypeExpr) (b : Builder) :
    b.Extends (b.denote referencedBy e).2 := by
  refine denote_induction (P := fun _ b' => b.Extends b') ?_ (.refl b) ?_ ?_ referencedBy e
  · exact fun _ _ _ => .refl b
  · exact fun u b' ih => ih.trans (extends_listOf u b')
  · exact fun u b' ih => ih.trans (extends_mapOf u b')

theorem extends_typeOf (expr referencedBy : String) (b : Builder) :
    b.Extends (b.typeOf expr referencedBy).2 := by
  unfold typeOf
  cases TypeExpr.parse expr with
  | error _ => exact .refl b
  | ok e => exact extends_denote referencedBy e b

/-! ## Changing types -/

theorem grows_modify (b : Builder) (t : TypeId) {f : Descriptor → Descriptor}
    (hf : ∀ d : Descriptor, d.Grows (f d)) : b.Grows (b.modify t f) where
  length_le := by simp [modify]
  descriptor := by
    intro u hu
    rw [descriptor_modify b f hu]
    split
    · exact hf _
    · exact .refl _
  lookup := fun _ _ ht => ht

theorem grows_describe (t : TypeId) (text : String) (b : Builder) : b.Grows (b.describe t text) :=
  b.grows_modify t fun _ => ⟨rfl, rfl, rfl, List.prefix_refl _⟩

theorem grows_addProperty (t : TypeId) (p : Property) (b : Builder) :
    b.Grows (b.addProperty t p).2 := by
  simp only [addProperty]
  split
  · exact .refl b
  · split
    · exact .refl b
    · exact b.grows_modify t fun _ => ⟨rfl, rfl, rfl, List.prefix_append _ _⟩

theorem grows_apply (b : Builder) (op : Operation) : b.Grows (op.apply b) := by
  cases op with
  | atomic name => exact (extends_declare _ b).grows
  | enumeration name values => exact (extends_declare _ b).grows
  | bean name => exact (extends_declare _ b).grows
  | addProperty t p => exact grows_addProperty t p b
  | describe t text => exact grows_describe t text b
  | listOf u => exact (extends_listOf u b).grows
  | mapOf u => exact (extends_mapOf u b).grows
  | typeOf expr referencedBy => exact (extends_typeOf expr referencedBy b).grows

/-! ## Runs -/

/-- The second builder comes about from the first. -/
inductive Run (b : Builder) : Builder → Prop
  | refl : Run b b
  | step {c : Builder} (op : Operation) : Run b c →
      (∀ t ∈ op.uses, t.index < c.types.length) → Run b (op.apply c)

namespace Run

theorem reachable (h : b.Run c) (hb : b.Reachable) : c.Reachable := by
  induction h with
  | refl => exact hb
  | step op _ huses ih => exact ih.step op huses

theorem grows (h : b.Run c) : b.Grows c := by
  induction h with
  | refl => exact .refl b
  | step op _ _ ih => exact ih.trans (grows_apply _ op)

end Run

end Builder

end TypedYaml
