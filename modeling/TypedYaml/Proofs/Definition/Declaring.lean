import TypedYaml.Proofs.Definition.Meaning
import TypedYaml.Proofs.Schema.Effect

/-!
# Declaring the types of a definition

All types are declared before any property is added. This fails if a name is taken or if a type that
is no bean lists properties, and for no other reason. Otherwise the types stand behind those that
were there, in their order, and each name leads to its type.

* `TypeDefinition.addTo_settles`: one type.
* `SchemaDefinition.declareTypes_settles`: all of them.
* `Builder.Declared.lookup_iff`: what the names lead to.
-/

namespace TypedYaml

/-! ## Names -/

theorem lookup_new_eq_none {name : String} :
    Builder.new.lookup name = none ↔ name ∉ predeclaredNames := by
  simp [Builder.lookup, Builder.new, predeclaredNames, List.lookup_cons]
  grind

/-- A declared name is that of a predeclared type, or it has its place in the definition. -/
theorem SchemaDefinition.declares_iff {f : SchemaDefinition} {name : String} :
    f.Declares name ↔ ∃ t : TypeId, Builder.new.lookup name = some t ∨
      ∃ i d, f.types[i]? = some (name, d) ∧ t = ⟨5 + i⟩ := by
  have hnew : name ∈ predeclaredNames ↔ ∃ t, Builder.new.lookup name = some t := by
    rw [← Option.isSome_iff_exists, ← not_iff_not, ← lookup_new_eq_none]
    simp
  rw [SchemaDefinition.Declares, hnew, exists_or]
  refine or_congr_right ⟨?_, ?_⟩
  · intro hname
    obtain ⟨⟨name', d⟩, hmem, rfl⟩ := List.mem_map.mp hname
    obtain ⟨i, hi⟩ := List.mem_iff_getElem?.mp hmem
    exact ⟨_, i, d, hi, rfl⟩
  · rintro ⟨t, i, d, hd, -⟩
    exact List.mem_map_of_mem (List.mem_of_getElem? hd)

/-- Different names lead to different types. -/
theorem Builder.WellFormed.lookup_inj {b : Builder} (h : b.WellFormed) {name name' : String}
    {t : TypeId} (ht : b.lookup name = some t) (ht' : b.lookup name' = some t) : name = name' := by
  have hname := ((h.names.lookup_iff name t).mp ht).2
  have hname' := ((h.names.lookup_iff name' t).mp ht').2
  exact Option.some.inj (hname.symm.trans hname')

namespace TypeDefinition

/-- The type that is declared, which has no properties yet. -/
def declared (name : String) (d : TypeDefinition) : Descriptor :=
  ⟨name, if d.isBean then .bean else .atomic, [], d.values.getD [], d.description⟩

theorem declaredName?_declared (name : String) (d : TypeDefinition) :
    (d.declared name).declaredName? = some name := by
  unfold declared Descriptor.declaredName?
  cases d.isBean <;> rfl

theorem declare_eq (name : String) (d : TypeDefinition) :
    d.declare name = Builder.declare { d.declared name with description := none } := by
  unfold declare declared isBean
  cases d.values with
  | some values => rfl
  | none => cases d.atomic <;> rfl

theorem declare_of_some {b : Builder} {name : String} {t : TypeId} (d : TypeDefinition)
    (h : b.lookup name = some t) : d.declare name b = (.error (.duplicateType name), b) := by
  have htaken : b.lookup (d.declared name).name = some t := h
  rw [declare_eq, Builder.declare, htaken]
  rfl

/-- The description is not there yet. -/
theorem declare_of_none {b : Builder} {name : String} (d : TypeDefinition)
    (h : b.lookup name = none) :
    d.declare name b = (.ok b.next,
      { b with
        types := b.types ++ [{ d.declared name with description := none }]
        names := (name, b.next) :: b.names }) := by
  have hfree : b.lookup (d.declared name).name = none := h
  rw [declare_eq, Builder.declare, hfree]
  rfl

theorem values_of_isBean {d : TypeDefinition} (h : d.isBean) : d.values = none := by
  simp only [isBean, Bool.and_eq_true, Option.isNone_iff_eq_none] at h
  exact h.1

theorem isBean_iff (d : TypeDefinition) : d.isBean = false ↔ d.values.isSome ∨ d.atomic := by
  unfold isBean
  cases d.values <;> simp

end TypeDefinition

namespace Builder

variable {b b' : Builder}

/-- The types of some entries have been declared. -/
structure Declared (b : Builder) (ts : Entries TypeDefinition) (b' : Builder) : Prop where
  wellFormed : b'.WellFormed
  types : b'.types = b.types ++ ts.map fun x => x.2.declared x.1

namespace Declared

variable {ts : Entries TypeDefinition}

theorem length_eq (h : b.Declared ts b') : b'.types.length = b.types.length + ts.length := by
  rw [h.types, List.length_append, List.length_map]

theorem descriptor_old (h : b.Declared ts b') {t : TypeId} (ht : t.index < b.types.length) :
    b'.descriptor t = b.descriptor t :=
  descriptor_of_prefix (h.types ▸ List.prefix_append _ _) ht

theorem descriptor_new (h : b.Declared ts b') {i : Nat} {name : String} {d : TypeDefinition}
    (hi : ts[i]? = some (name, d)) :
    b'.descriptor ⟨b.types.length + i⟩ = d.declared name := by
  rw [descriptor, h.types, List.getElem?_append_right (Nat.le_add_right _ _),
    Nat.add_sub_cancel_left, List.getElem?_map, hi]
  rfl

/-- A name leads where it led before, or to the type that was declared under it. -/
theorem lookup_iff (h : b.Declared ts b') (hb : b.WellFormed) (name : String) (t : TypeId) :
    b'.lookup name = some t ↔
      b.lookup name = some t ∨ ∃ i d, ts[i]? = some (name, d) ∧ t = ⟨b.types.length + i⟩ := by
  have hnew := h.wellFormed.names.lookup_iff name t
  have hold := hb.names.lookup_iff name t
  have hlength : b'.build.size = b.build.size + ts.length := h.length_eq
  constructor
  · intro hname
    obtain ⟨hlt, hkey⟩ := hnew.mp hname
    by_cases ht : t.index < b.build.size
    · refine Or.inl (hold.mpr ⟨ht, ?_⟩)
      rw [← hkey]
      exact congrArg Descriptor.declaredName? (h.descriptor_old ht).symm
    · obtain ⟨i, hi⟩ := Nat.exists_eq_add_of_le (Nat.le_of_not_lt ht)
      have ht : t = ⟨b.types.length + i⟩ := TypeId.eq_of_index_eq hi
      obtain ⟨⟨name', d⟩, hd⟩ : ∃ x, ts[i]? = some x :=
        ⟨_, List.getElem?_eq_getElem (show i < ts.length by omega)⟩
      have hname' : (b'.descriptor t).declaredName? = some name' := by
        rw [ht, h.descriptor_new hd, TypeDefinition.declaredName?_declared]
      cases hname'.symm.trans hkey
      exact Or.inr ⟨i, d, hd, ht⟩
  · rintro (hname | ⟨i, d, hd, rfl⟩)
    · obtain ⟨hlt, hkey⟩ := hold.mp hname
      refine hnew.mpr ⟨by omega, ?_⟩
      rw [← hkey]
      exact congrArg Descriptor.declaredName? (h.descriptor_old hlt)
    · have hi : i < ts.length := (List.getElem?_eq_some_iff.mp hd).1
      refine hnew.mpr ⟨hlength ▸ Nat.add_lt_add_left hi b.types.length, ?_⟩
      show (b'.descriptor _).declaredName? = some name
      rw [h.descriptor_new hd, TypeDefinition.declaredName?_declared]

theorem lookup_of_getElem? (h : b.Declared ts b') (hb : b.WellFormed) {i : Nat} {name : String}
    {d : TypeDefinition} (hi : ts[i]? = some (name, d)) :
    b'.lookup name = some ⟨b.types.length + i⟩ :=
  (h.lookup_iff hb name _).mpr (Or.inr ⟨i, d, hi, rfl⟩)

theorem nil (hb : b.WellFormed) : b.Declared [] b := ⟨hb, by simp⟩

theorem cons {b'' : Builder} {x : String × TypeDefinition} (h : b.Declared [x] b')
    (h' : b'.Declared ts b'') : b.Declared (x :: ts) b'' := by
  refine ⟨h'.wellFormed, ?_⟩
  rw [h'.types, h.types]
  simp

/-- After one declaration another name is free if it was free before. -/
theorem lookup_eq_none_iff {x : String × TypeDefinition} (h : b.Declared [x] b')
    (hb : b.WellFormed) {name : String} (hne : name ≠ x.1) :
    b'.lookup name = none ↔ b.lookup name = none := by
  have hsame : ∀ t, b'.lookup name = some t ↔ b.lookup name = some t := by
    intro t
    rw [h.lookup_iff hb]
    refine or_iff_left ?_
    rintro ⟨i, d, hd, -⟩
    have hmem := List.mem_singleton.mp (List.mem_of_getElem? hd)
    exact hne (congrArg Prod.fst hmem)
  simp only [Option.eq_none_iff_forall_ne_some, ne_eq, hsame]

end Declared

/-! ## One type -/

theorem types_describe (b : Builder) (d : Descriptor) (names : List (String × TypeId))
    (text : String) :
    ({ b with types := b.types ++ [d], names := names }.describe b.next text).types =
      b.types ++ [{ d with description := some text }] := by
  simp [describe, modify, next, List.modify_eq_set, List.set_append_right]

end Builder

namespace TypeDefinition

variable {b : Builder}

theorem sound_declare (hb : b.WellFormed) (name : String) (d : TypeDefinition) :
    b.Sound (d.declare name b).1.toOption (d.declare name b).2 := by
  rw [declare_eq]
  refine hb.declare ?_ rfl
  unfold declared
  cases hbean : d.isBean with
  | false => exact Or.inl rfl
  | true => exact Or.inr ⟨rfl, by rw [values_of_isBean hbean]; rfl⟩

theorem addTo_settles (hb : b.WellFormed) (name : String) (d : TypeDefinition) :
    Settles (d.addTo name b) (b.lookup name = none ∧ (d.isBean = false → d.properties = []))
      (b.Declared [(name, d)]) := by
  have hsound := d.sound_declare hb name
  cases hname : b.lookup name with
  | some t =>
    rw [addTo, declare_of_some d hname]
    exact .error _ fun h => nomatch h.1
  | none =>
    rw [declare_of_none d hname] at hsound
    rw [addTo, declare_of_none d hname]
    by_cases hproperties : d.isBean = false → d.properties = []
    · have hadmitted : (!d.isBean && !d.properties.isEmpty) = false := by
        cases hbean : d.isBean with
        | true => rfl
        | false => simp [hproperties hbean]
      simp only [hadmitted, Bool.false_eq_true, if_false]
      have hnext : b.next.index < b.types.length + 1 := Nat.lt_succ_self _
      cases hdescription : d.description with
      | none =>
        refine .ok ⟨trivial, hproperties⟩ ⟨hsound.wellFormed, ?_⟩
        simp [declared, hdescription]
      | some text =>
        have hdescribed := hsound.wellFormed.describe (by simpa using hnext) text
        refine .ok ⟨trivial, hproperties⟩ ⟨hdescribed.wellFormed, ?_⟩
        rw [Builder.types_describe]
        simp [declared, hdescription]
    · have hrefused : (!d.isBean && !d.properties.isEmpty) = true := by
        simpa using hproperties
      simp only [hrefused, if_true]
      exact .error _ fun h => hproperties h.2

end TypeDefinition

/-! ## All types -/

namespace SchemaDefinition

theorem declareTypes_settles {ts : Entries TypeDefinition} {b : Builder} (hb : b.WellFormed)
    (hnodup : (ts.map Prod.fst).Nodup) :
    Settles (declareTypes ts b)
      (∀ x ∈ ts, b.lookup x.1 = none ∧ (x.2.isBean = false → x.2.properties = []))
      (b.Declared ts) := by
  induction ts generalizing b with
  | nil => exact .ok nofun (.nil hb)
  | cons x ts ih =>
    obtain ⟨name, d⟩ := x
    rw [List.map_cons, List.nodup_cons] at hnodup
    obtain ⟨hname, hnodup⟩ := hnodup
    have hrest : ∀ b', b.Declared [(name, d)] b' → Settles (declareTypes ts b')
        (∀ x ∈ ts, b.lookup x.1 = none ∧ (x.2.isBean = false → x.2.properties = []))
        (b.Declared ((name, d) :: ts)) := by
      intro b' hdeclared
      refine (ih hdeclared.wellFormed hnodup).congr ?_ fun _ h => hdeclared.cons h
      refine forall₂_congr fun x hx => and_congr_left' (hdeclared.lookup_eq_none_iff hb ?_).symm
      intro heq
      exact hname (heq ▸ List.mem_map_of_mem hx)
    exact ((d.addTo_settles hb name).bind fun b' _ => hrest b').congr List.forall_mem_cons fun _ h => h

end SchemaDefinition

end TypedYaml
