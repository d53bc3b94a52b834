import TypedYaml.Proofs.Outcome
import TypedYaml.Proofs.Schema.WellFormed

/-!
# The tables of a builder

A builder looks types up by their names, and lists and maps by the type of their content. Each
table leads from a key to the one type that has it. The name of a container is no such key, so a
type may be declared under it.

* `Registry.Indexed`: a table agrees with a list of types.
* `Builder.WellFormed`: the invariant of a builder.
* `Builder.Sound`: what an operation may do to a builder, with `WellFormed.declare`, `listOf`,
  `mapOf`, `typeOf`, `addProperty` and `describe`, by which the operations do no more.
-/

namespace TypedYaml

namespace Descriptor

/-- The name under which a type is looked up. -/
def declaredName? (d : Descriptor) : Option String :=
  match d.kind with
  | .atomic | .bean => some d.name
  | _ => none

/-- The type of the elements of a sequence. -/
def element? (d : Descriptor) : Option TypeId :=
  match d.kind with
  | .sequence element => some element
  | _ => none

/-- The type of the values of an open map. -/
def value? (d : Descriptor) : Option TypeId :=
  match d.kind with
  | .map value => some value
  | _ => none

theorem element?_eq_some {d : Descriptor} {u : TypeId} :
    d.element? = some u ↔ d.kind = .sequence u := by
  cases hk : d.kind <;> simp [element?, hk]

theorem value?_eq_some {d : Descriptor} {u : TypeId} : d.value? = some u ↔ d.kind = .map u := by
  cases hk : d.kind <;> simp [value?, hk]

end Descriptor

namespace Registry

/-- The types with a key are those that the table has for it, and every entry of the table can be
found. -/
structure Indexed {κ : Type} [BEq κ] (r : Registry) (table : List (κ × TypeId))
    (key? : Descriptor → Option κ) : Prop where
  lookup_iff : ∀ k t, table.lookup k = some t ↔
    t.index < r.size ∧ key? (r.descriptor t) = some k
  lookup_of_mem : ∀ e ∈ table, table.lookup e.1 = some e.2

namespace Indexed

variable {κ : Type} [BEq κ] {r : Registry} {table : List (κ × TypeId)}
  {key? : Descriptor → Option κ}

theorem of_types_eq {r' : Registry} (h : r.Indexed table key?) (ht : r'.types = r.types) :
    r'.Indexed table key? := by
  obtain ⟨types, names, root⟩ := r
  obtain ⟨types', names', root'⟩ := r'
  cases ht
  exact ⟨h.lookup_iff, h.lookup_of_mem⟩

theorem nil (h : ∀ t, key? (r.descriptor t) = none) : r.Indexed [] key? where
  lookup_iff := by
    intro k t
    rw [h t]
    constructor
    · intro hk
      cases hk
    · rintro ⟨-, hk⟩
      cases hk
  lookup_of_mem := by
    intro e he
    cases he

theorem key_ne_of_lookup {k : κ} {t : TypeId} (h : r.Indexed table key?)
    (hk : table.lookup k = none) (ht : t.index < r.size) : key? (r.descriptor t) ≠ some k := by
  intro hkey
  rw [(h.lookup_iff k t).mpr ⟨ht, hkey⟩] at hk
  cases hk

theorem push_of_none {d : Descriptor} (h : r.Indexed table key?) (hd : key? d = none) :
    (r.push d).Indexed table key? where
  lookup_iff := by
    intro k t
    rw [h.lookup_iff, size_push, descriptor_push]
    by_cases ht : t.index = r.size
    · rw [if_pos ht, hd]
      constructor
      · rintro ⟨hlt, -⟩
        omega
      · rintro ⟨-, hk⟩
        cases hk
    · rw [if_neg ht]
      constructor
      · rintro ⟨hlt, hk⟩
        exact ⟨by omega, hk⟩
      · rintro ⟨hlt, hk⟩
        exact ⟨by omega, hk⟩
  lookup_of_mem := h.lookup_of_mem

theorem push_of_some [LawfulBEq κ] {d : Descriptor} {k : κ} (h : r.Indexed table key?)
    (hd : key? d = some k) (hk : table.lookup k = none) :
    (r.push d).Indexed ((k, ⟨r.size⟩) :: table) key? where
  lookup_iff := by
    intro k' t
    rw [List.lookup_cons, size_push, descriptor_push]
    by_cases ht : t.index = r.size
    · have hnew : t = ⟨r.size⟩ := TypeId.eq_of_index_eq ht
      rw [if_pos ht, hd, hnew]
      split
      · next heq => simp [eq_of_beq heq]
      · next hne =>
        constructor
        · intro hold
          have hlt := ((h.lookup_iff _ _).mp hold).1
          exact absurd hlt (Nat.lt_irrefl _)
        · rintro ⟨-, heq⟩
          cases heq
          rw [BEq.rfl] at hne
          cases hne
    · rw [if_neg ht]
      split
      · next heq =>
        rw [eq_of_beq heq]
        constructor
        · intro hnew
          cases hnew
          exact absurd rfl ht
        · rintro ⟨hlt, hkey⟩
          exact absurd hkey (h.key_ne_of_lookup hk (by omega))
      · rw [h.lookup_iff]
        constructor
        · rintro ⟨hlt, hkey⟩
          exact ⟨by omega, hkey⟩
        · rintro ⟨hlt, hkey⟩
          exact ⟨by omega, hkey⟩
  lookup_of_mem := by
    intro e he
    rcases List.mem_cons.mp he with rfl | hmem
    · exact List.lookup_cons_self
    · have hold := h.lookup_of_mem e hmem
      rw [List.lookup_cons]
      split
      · next heq =>
        rw [eq_of_beq heq, hk] at hold
        cases hold
      · exact hold

theorem modify {t : TypeId} {f : Descriptor → Descriptor} (h : r.Indexed table key?)
    (ht : t.index < r.size) (hf : key? (f (r.descriptor t)) = key? (r.descriptor t)) :
    (r.modify t f).Indexed table key? where
  lookup_iff := by
    intro k u
    rw [h.lookup_iff, size_modify, descriptor_modify ht]
    split
    · next hu => rw [hf, hu]
    · rfl
  lookup_of_mem := h.lookup_of_mem

end Indexed

end Registry

namespace Builder

/-- What is true of every builder, however it came about. -/
structure WellFormed (b : Builder) : Prop where
  types : b.build.WellFormed
  names : b.build.Indexed b.names Descriptor.declaredName?
  lists : b.build.Indexed b.lists Descriptor.element?
  maps : b.build.Indexed b.maps Descriptor.value?

/-! ## The empty builder -/

/-- No predeclared type has anything but hints. -/
theorem plain_new (t : TypeId) :
    let d := new.build.descriptor t
    d.kind.content? = none ∧ d.element? = none ∧ d.value? = none ∧ d.properties = [] ∧
      (d.hints ≠ [] → d.kind = .atomic) := by
  have hall : ∀ d ∈ Descriptor.unknown :: new.types,
      d.kind.content? = none ∧ d.element? = none ∧ d.value? = none ∧ d.properties = [] ∧
        (d.hints ≠ [] → d.kind = .atomic) := by decide
  refine hall _ ?_
  rw [Registry.descriptor]
  cases hd : new.build.types[t.index]? with
  | none => exact List.mem_cons_self
  | some d => exact List.mem_cons_of_mem _ (List.mem_of_getElem? hd)

theorem types_new : new.build.WellFormed where
  size_ge := Nat.le_refl 5
  predeclared := by
    intro i d hd
    refine ⟨d.description, ?_⟩
    show new.types[i]?.getD .unknown = d
    rw [hd]
    rfl
  eq_unknown := by
    intro t ht hk
    have hall : ∀ i < 5, new.build.kind ⟨i⟩ = .unknown → i = 0 := by decide
    exact TypeId.eq_of_index_eq (hall t.index ht hk)
  content_lt := by
    intro t u hu
    rw [Registry.kind, (plain_new t).1] at hu
    cases hu
  container_name := by
    intro t u hu
    rw [Registry.kind, (plain_new t).1] at hu
    cases hu
  container_inj := by
    intro t t' u hu
    rw [Registry.kind, (plain_new t).1] at hu
    cases hu
  bean_of_properties := by
    intro t hp
    obtain ⟨-, -, -, hproperties, -⟩ := plain_new t
    exact absurd hproperties hp
  property_lt := by
    intro t p hp
    obtain ⟨-, -, -, hproperties, -⟩ := plain_new t
    rw [hproperties] at hp
    cases hp
  property_nodup := by
    intro t
    obtain ⟨-, -, -, hproperties, -⟩ := plain_new t
    rw [hproperties]
    exact List.nodup_nil
  atomic_of_hints := fun t => (plain_new t).2.2.2.2

theorem names_new : new.build.Indexed new.names Descriptor.declaredName? where
  lookup_iff := by
    intro name t
    constructor
    · intro hname
      have hmem : (name, t) ∈ new.names := mem_of_lookup hname
      have hall : ∀ e ∈ new.names, e.2.index < 5 ∧
          (new.build.descriptor e.2).declaredName? = some e.1 := by decide
      exact hall _ hmem
    · rintro ⟨ht, hname⟩
      have hall : ∀ i < 5, ∀ name ∈ (new.build.descriptor ⟨i⟩).declaredName?,
          new.names.lookup name = some ⟨i⟩ := by decide
      exact hall t.index ht name hname
  lookup_of_mem := by decide

theorem wellFormed_new : new.WellFormed where
  types := types_new
  names := names_new
  lists := .nil fun t => (plain_new t).2.1
  maps := .nil fun t => (plain_new t).2.2.1

/-! ## Operations -/

/-- An operation on a builder keeps its types and what is true of it, and the type that the
operation gives, if any, is one of the types after it. -/
structure Sound (b : Builder) (given : Option TypeId) (b' : Builder) : Prop where
  wellFormed : b'.WellFormed
  length_le : b.types.length ≤ b'.types.length
  given_lt : ∀ t, given = some t → t.index < b'.types.length

variable {b : Builder}

theorem WellFormed.sound_self (h : b.WellFormed) : b.Sound none b := by
  refine ⟨h, Nat.le_refl _, ?_⟩
  intro t ht
  cases ht

/-- What is looked up is given as it is. -/
theorem WellFormed.sound_found {κ : Type} [BEq κ] {table : List (κ × TypeId)}
    {key? : Descriptor → Option κ} {k : κ} {t : TypeId} (h : b.WellFormed)
    (htable : b.build.Indexed table key?) (ht : table.lookup k = some t) :
    b.Sound (some t) b := by
  refine ⟨h, Nat.le_refl _, ?_⟩
  intro u hu
  cases hu
  exact ((htable.lookup_iff k t).mp ht).1

theorem Sound.trans {given given' : Option TypeId} {b' b'' : Builder} (h : b.Sound given b')
    (h' : b'.Sound given' b'') : b.Sound given' b'' :=
  ⟨h'.wellFormed, Nat.le_trans h.length_le h'.length_le, h'.given_lt⟩

theorem Sound.of_push {d : Descriptor} {b' : Builder} (h : b.WellFormed)
    (hd : b.build.Admits d) (htypes : b'.types = b.types ++ [d])
    (hnames : (b.build.push d).Indexed b'.names Descriptor.declaredName?)
    (hlists : (b.build.push d).Indexed b'.lists Descriptor.element?)
    (hmaps : (b.build.push d).Indexed b'.maps Descriptor.value?) :
    b.Sound (some b.next) b' := by
  have hlength : b'.types.length = b.types.length + 1 := by
    rw [htypes, List.length_append, List.length_singleton]
  refine ⟨⟨?_, ?_, ?_, ?_⟩, ?_, ?_⟩
  · exact (h.types.push hd).of_types_eq htypes
  · exact hnames.of_types_eq htypes
  · exact hlists.of_types_eq htypes
  · exact hmaps.of_types_eq htypes
  · omega
  · intro t ht
    cases ht
    rw [hlength]
    exact Nat.lt_succ_self _

/-! ## Declared types -/

theorem WellFormed.declare (h : b.WellFormed) {d : Descriptor}
    (hkind : d.kind = .atomic ∨ d.kind = .bean ∧ d.hints = []) (hproperties : d.properties = []) :
    b.Sound (b.declare d).1.toOption (b.declare d).2 := by
  unfold Builder.declare
  cases hname : b.lookup d.name with
  | some t => exact h.sound_self
  | none =>
    have hkeys : d.kind.content? = none ∧ d.declaredName? = some d.name ∧
        d.element? = none ∧ d.value? = none := by
      rcases hkind with hk | ⟨hk, -⟩ <;>
        simp [hk, Kind.content?, Descriptor.declaredName?, Descriptor.element?, Descriptor.value?]
    obtain ⟨hcontent, hdeclared, helement, hvalue⟩ := hkeys
    have hd : b.build.Admits d := {
      known := by
        intro hk
        rcases hkind with hk' | ⟨hk', -⟩ <;> rw [hk'] at hk <;> cases hk
      content := by
        intro u hu
        rw [hcontent] at hu
        cases hu
      fresh := by
        intro u t hu
        rw [hcontent] at hu
        cases hu
      properties := hproperties
      hints := by
        intro hhints
        rcases hkind with hk | ⟨-, hnone⟩
        · exact hk
        · exact absurd hnone hhints }
    exact .of_push h hd rfl (h.names.push_of_some hdeclared hname) (h.lists.push_of_none helement)
      (h.maps.push_of_none hvalue)

/-! ## Lists and maps -/

theorem WellFormed.lookup_lists_iff (h : b.WellFormed) {t u : TypeId} :
    b.lists.lookup u = some t ↔ b.build.kind t = .sequence u := by
  rw [h.lists.lookup_iff, Descriptor.element?_eq_some]
  exact and_iff_right_of_imp fun hk => Registry.lt_size_of_kind_ne (by simp [Registry.kind, hk])

theorem WellFormed.lookup_maps_iff (h : b.WellFormed) {t u : TypeId} :
    b.maps.lookup u = some t ↔ b.build.kind t = .map u := by
  rw [h.maps.lookup_iff, Descriptor.value?_eq_some]
  exact and_iff_right_of_imp fun hk => Registry.lt_size_of_kind_ne (by simp [Registry.kind, hk])

theorem WellFormed.listOf (h : b.WellFormed) {u : TypeId} (hu : u.index < b.types.length) :
    b.Sound (some (b.listOf u).1) (b.listOf u).2 := by
  unfold Builder.listOf
  cases ht : b.lists.lookup u with
  | some t => exact h.sound_found h.lists ht
  | none =>
    have hfresh : ∀ t, b.build.kind t ≠ .sequence u := by
      intro t hk
      rw [h.lookup_lists_iff.mpr hk] at ht
      cases ht
    have hd : b.build.Admits (.new ("List<" ++ b.build.typeName u ++ ">") (.sequence u)) :=
      Registry.admits_container hu rfl hfresh
    exact .of_push h hd rfl (h.names.push_of_none rfl) (h.lists.push_of_some rfl ht)
      (h.maps.push_of_none rfl)

theorem WellFormed.mapOf (h : b.WellFormed) {u : TypeId} (hu : u.index < b.types.length) :
    b.Sound (some (b.mapOf u).1) (b.mapOf u).2 := by
  unfold Builder.mapOf
  cases ht : b.maps.lookup u with
  | some t => exact h.sound_found h.maps ht
  | none =>
    have hfresh : ∀ t, b.build.kind t ≠ .map u := by
      intro t hk
      rw [h.lookup_maps_iff.mpr hk] at ht
      cases ht
    have hd : b.build.Admits (.new ("Map<String, " ++ b.build.typeName u ++ ">") (.map u)) :=
      Registry.admits_container hu rfl hfresh
    exact .of_push h hd rfl (h.names.push_of_none rfl) (h.lists.push_of_none rfl)
      (h.maps.push_of_some rfl ht)

/-! ## Type expressions -/

/-- Denoting an expression is looking up a name, with lists and maps made after it. -/
theorem denote_induction {P : Option TypeId → Builder → Prop} (found : ∀ name t,
      b.lookup name = some t → P (some t) b) (failed : P none b)
    (list : ∀ u b', P (some u) b' → P (some (b'.listOf u).1) (b'.listOf u).2)
    (map : ∀ u b', P (some u) b' → P (some (b'.mapOf u).1) (b'.mapOf u).2)
    (referencedBy : String) (e : TypeExpr) :
    P (b.denote referencedBy e).1.toOption (b.denote referencedBy e).2 := by
  induction e with
  | name name =>
    unfold Builder.denote
    cases ht : b.lookup name with
    | none => exact failed
    | some t => exact found name t ht
  | list element ih =>
    rw [Builder.denote]
    generalize b.denote referencedBy element = run at ih ⊢
    obtain ⟨outcome, b'⟩ := run
    cases outcome with
    | error _ => exact ih
    | ok u => exact list u b' ih
  | map value ih =>
    rw [Builder.denote]
    generalize b.denote referencedBy value = run at ih ⊢
    obtain ⟨outcome, b'⟩ := run
    cases outcome with
    | error _ => exact ih
    | ok u => exact map u b' ih

theorem WellFormed.denote (h : b.WellFormed) (referencedBy : String) (e : TypeExpr) :
    b.Sound (b.denote referencedBy e).1.toOption (b.denote referencedBy e).2 := by
  refine denote_induction ?_ h.sound_self ?_ ?_ referencedBy e
  · exact fun name t ht => h.sound_found h.names ht
  · exact fun u b' ih => ih.trans (ih.wellFormed.listOf (ih.given_lt u rfl))
  · exact fun u b' ih => ih.trans (ih.wellFormed.mapOf (ih.given_lt u rfl))

theorem WellFormed.typeOf (h : b.WellFormed) (expr referencedBy : String) :
    b.Sound (b.typeOf expr referencedBy).1.toOption (b.typeOf expr referencedBy).2 := by
  unfold Builder.typeOf
  cases TypeExpr.parse expr with
  | error _ => exact h.sound_self
  | ok e => exact h.denote referencedBy e

/-! ## Properties and descriptions -/

theorem WellFormed.modify (h : b.WellFormed) {t : TypeId} {f : Descriptor → Descriptor}
    (ht : t.index < b.types.length)
    (hf : b.build.Allows (b.descriptor t) (f (b.descriptor t))) :
    b.Sound none (b.modify t f) := by
  have hkeys : ∀ old new : Descriptor, new.name = old.name → new.kind = old.kind →
      new.declaredName? = old.declaredName? ∧ new.element? = old.element? ∧
        new.value? = old.value? := by
    intro old new hname hkind
    simp [Descriptor.declaredName?, Descriptor.element?, Descriptor.value?, hname, hkind]
  obtain ⟨hdeclared, helement, hvalue⟩ := hkeys _ _ hf.name hf.kind
  refine ⟨⟨?_, ?_, ?_, ?_⟩, ?_, ?_⟩
  · exact (h.types.modify ht hf).of_types_eq rfl
  · exact (h.names.modify ht hdeclared).of_types_eq rfl
  · exact (h.lists.modify ht helement).of_types_eq rfl
  · exact (h.maps.modify ht hvalue).of_types_eq rfl
  · have hlength : (b.modify t f).types.length = b.types.length := List.length_modify _ _ _
    exact Nat.le_of_eq hlength.symm
  · intro u hu
    cases hu

theorem WellFormed.addProperty (h : b.WellFormed) {t : TypeId} {p : Property}
    (ht : t.index < b.types.length) (hp : p.type.index < b.types.length) :
    b.Sound none (b.addProperty t p).2 := by
  unfold Builder.addProperty
  by_cases hk : (b.descriptor t).kind = .bean
  · cases hfound : (b.descriptor t).property? p.name with
    | some q =>
      simp only [hk, hfound]
      exact h.sound_self
    | none =>
      simp only [hk, hfound]
      have hnew : p.name ∉ (b.descriptor t).properties.map Property.name := by
        intro hmem
        obtain ⟨q, hq, hname⟩ := List.mem_map.mp hmem
        have hdiffers := List.find?_eq_none.mp hfound q hq
        exact absurd hname (by simpa using hdiffers)
      refine h.modify ht ⟨rfl, rfl, rfl, fun hne => absurd hk hne, ?_, ?_⟩
      · intro q hq
        rcases List.mem_append.mp hq with hold | hlast
        · exact h.types.property_lt t q hold
        · rw [List.mem_singleton.mp hlast]
          exact hp
      · rw [List.map_append, List.map_singleton, List.nodup_append]
        refine ⟨h.types.property_nodup t, List.pairwise_singleton _ _, ?_⟩
        intro name hmem name' hlast heq
        rw [heq, List.mem_singleton.mp hlast] at hmem
        exact hnew hmem
  · simp only [if_pos hk]
    exact h.sound_self

theorem WellFormed.describe (h : b.WellFormed) {t : TypeId} (ht : t.index < b.types.length)
    (text : String) : b.Sound none (b.describe t text) :=
  h.modify ht ⟨rfl, rfl, rfl, fun _ => rfl, h.types.property_lt t, h.types.property_nodup t⟩

end Builder

end TypedYaml
