import TypedYaml.Proofs.Schema.Growth

/-!
# What an operation changes

An operation that fails changes nothing, however deep in a type expression it fails: the lists and
maps of an expression are made from the inside, after the name inside all of them was found, and to
make them cannot fail. An operation that succeeds adds types behind those that are there, and
changes at most the one that it is about: a property is put behind the properties of a bean, and a
description takes the place of the one before.

* `Operation.outcome`: what an operation gives back.
* `Operation.effect`: what becomes of a type that is there.
* `Builder.apply_of_error`, `Builder.descriptor_apply`: failure and success.
* `Builder.apply_conservative`: both, for all operations.
-/

namespace TypedYaml.Builder

variable {b : Builder}

/-! ## Failure -/

theorem declare_of_error {d : Descriptor} {x : SchemaError} (h : (b.declare d).1 = .error x) :
    (b.declare d).2 = b := by
  unfold declare at h ⊢
  cases hname : b.lookup d.name with
  | some _ => rfl
  | none =>
    rw [hname] at h
    cases h

theorem addProperty_of_error {t : TypeId} {p : Property} {x : SchemaError}
    (h : (b.addProperty t p).1 = .error x) : (b.addProperty t p).2 = b := by
  simp only [addProperty] at h ⊢
  split
  · rfl
  · next hk =>
    rw [if_neg hk] at h
    split
    · rfl
    · next hp =>
      rw [hp] at h
      cases h

/-- Only the name inside all containers can be missing, and it is looked up first. -/
theorem denote_of_error {referencedBy : String} {e : TypeExpr} {x : SchemaError}
    (h : (b.denote referencedBy e).1 = .error x) : (b.denote referencedBy e).2 = b := by
  have hfailed : (b.denote referencedBy e).1.toOption = none →
      (b.denote referencedBy e).2 = b := by
    refine denote_induction (P := fun given b' => given = none → b' = b) ?_ (fun _ => rfl) ?_ ?_
      referencedBy e
    · exact fun _ _ _ => nofun
    · exact fun _ _ _ => nofun
    · exact fun _ _ _ => nofun
  exact hfailed (by rw [h]; rfl)

theorem typeOf_of_error {expr referencedBy : String} {x : SchemaError}
    (h : (b.typeOf expr referencedBy).1 = .error x) : (b.typeOf expr referencedBy).2 = b := by
  unfold typeOf at h ⊢
  cases he : TypeExpr.parse expr with
  | error _ => rfl
  | ok e =>
    rw [he] at h
    exact denote_of_error h

/-! ## Success -/

theorem addProperty_of_ok {t : TypeId} {p : Property} (h : (b.addProperty t p).1 = .ok ()) :
    (b.addProperty t p).2 = b.modify t fun d => { d with properties := d.properties ++ [p] } := by
  simp only [addProperty] at h ⊢
  split
  · next hk =>
    rw [if_pos hk] at h
    cases h
  · next hk =>
    rw [if_neg hk] at h
    split
    · next hp =>
      rw [hp] at h
      cases h
    · rfl

namespace Operation

/-- An error, or the type that is given back if there is one. -/
def outcome (b : Builder) : Operation → Except SchemaError (Option TypeId)
  | .atomic name => (b.atomic name).1.map some
  | .enumeration name values => (b.enumeration name values).1.map some
  | .bean name => (b.bean name).1.map some
  | .addProperty t p => (b.addProperty t p).1.map fun () => none
  | .describe _ _ => .ok none
  | .listOf element => .ok (some (b.listOf element).1)
  | .mapOf value => .ok (some (b.mapOf value).1)
  | .typeOf expr referencedBy => (b.typeOf expr referencedBy).1.map some

/-- What becomes of a type that is there when the operation succeeds. -/
def effect (op : Operation) (u : TypeId) (d : Descriptor) : Descriptor :=
  match op with
  | .addProperty t p => if u = t then { d with properties := d.properties ++ [p] } else d
  | .describe t description => if u = t then { d with description := some description } else d
  | _ => d

end Operation

theorem apply_of_error (op : Operation) {x : SchemaError} (h : op.outcome b = .error x) :
    op.apply b = b := by
  cases op with
  | atomic name => exact declare_of_error (map_eq_error_iff.mp h)
  | enumeration name values => exact declare_of_error (map_eq_error_iff.mp h)
  | bean name => exact declare_of_error (map_eq_error_iff.mp h)
  | addProperty t p => exact addProperty_of_error (map_eq_error_iff.mp h)
  | describe t description => cases h
  | listOf u => cases h
  | mapOf u => cases h
  | typeOf expr referencedBy => exact typeOf_of_error (map_eq_error_iff.mp h)

theorem descriptor_apply (op : Operation) {given : Option TypeId} (h : op.outcome b = .ok given)
    {u : TypeId} (hu : u.index < b.types.length) :
    (op.apply b).descriptor u = op.effect u (b.descriptor u) := by
  cases op with
  | atomic name => exact (extends_declare _ b).descriptor_eq hu
  | enumeration name values => exact (extends_declare _ b).descriptor_eq hu
  | bean name => exact (extends_declare _ b).descriptor_eq hu
  | addProperty t p =>
    obtain ⟨⟨⟩, hok, -⟩ := map_eq_ok_iff.mp h
    rw [Operation.apply, addProperty_of_ok hok]
    exact b.descriptor_modify _ hu
  | describe t description => exact b.descriptor_modify _ hu
  | listOf element => exact (extends_listOf element b).descriptor_eq hu
  | mapOf value => exact (extends_mapOf value b).descriptor_eq hu
  | typeOf expr referencedBy => exact (extends_typeOf expr referencedBy b).descriptor_eq hu

/-- An operation that fails leaves the builder as it was. One that succeeds keeps the place, the
name, the kind and the hints of each type, its properties in their order, and what each name leads
to. Of the types that were there only the bean that gets a property and the type that is described
differ from what they were, and only in that. -/
theorem apply_conservative (b : Builder) (op : Operation) :
    (∀ x, op.outcome b = .error x → op.apply b = b) ∧
      ∀ given, op.outcome b = .ok given →
        b.Grows (op.apply b) ∧
        ∀ u, u.index < b.types.length →
          (op.apply b).descriptor u = op.effect u (b.descriptor u) :=
  ⟨fun _ h => apply_of_error op h,
    fun _ h => ⟨grows_apply b op, fun _ hu => descriptor_apply op h hu⟩⟩

end TypedYaml.Builder
