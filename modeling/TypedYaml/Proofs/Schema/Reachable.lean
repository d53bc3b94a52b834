import TypedYaml.Proofs.Schema.Closed
import TypedYaml.Proofs.Schema.Tables

/-!
# Builders that come about

A builder comes about from the empty one by operations, in any order and number, some of which may
fail. An operation is given types that the builder has at that time; among them are those that
earlier operations gave back.

* `Builder.stored`: all references to types within a builder.
* `Builder.Operation`, `Builder.Reachable`: the operations and the builders.
* `Builder.invariant_of_reachable`: what is true of these builders and of their registries.
* `Registry.Built`: the registries of these builders, with or without a root.
-/

namespace TypedYaml

/-- All references to types within a type. -/
def Descriptor.stored (d : Descriptor) : List TypeId :=
  d.kind.content?.toList ++ d.properties.map Property.type

namespace Builder

/-- All references to types within a builder. -/
def stored (b : Builder) : List TypeId :=
  b.types.flatMap Descriptor.stored ++ b.names.map Prod.snd ++
    (b.lists ++ b.maps).flatMap fun e => [e.1, e.2]

variable {b : Builder}

theorem WellFormed.descriptor_stored_lt (h : b.WellFormed) {d : Descriptor} (hd : d ∈ b.types) :
    ∀ t ∈ d.stored, t.index < b.types.length := by
  obtain ⟨i, hi⟩ := List.mem_iff_getElem?.mp hd
  have hdescriptor : b.build.descriptor ⟨i⟩ = d := by
    show b.types[i]?.getD .unknown = d
    rw [hi]
    rfl
  intro t ht
  rcases List.mem_append.mp ht with hcontent | hproperty
  · have hkind : b.build.kind ⟨i⟩ = d.kind := congrArg Descriptor.kind hdescriptor
    exact h.types.content_lt_size (hkind ▸ Option.mem_toList.mp hcontent)
  · obtain ⟨p, hp, rfl⟩ := List.mem_map.mp hproperty
    exact h.types.property_lt ⟨i⟩ p (hdescriptor ▸ hp)

/-- An entry for a container refers to it and to its content. -/
theorem WellFormed.entry_lt (h : b.WellFormed) {e : TypeId × TypeId}
    (he : e ∈ b.lists ++ b.maps) : e.1.index < b.types.length ∧ e.2.index < b.types.length := by
  have hcontent : (b.build.kind e.2).content? = some e.1 := by
    rcases List.mem_append.mp he with hlist | hmap
    · rw [h.lookup_lists_iff.mp (h.lists.lookup_of_mem e hlist)]
      rfl
    · rw [h.lookup_maps_iff.mp (h.maps.lookup_of_mem e hmap)]
      rfl
  exact ⟨h.types.content_lt_size hcontent,
    Registry.lt_size_of_kind_ne (Kind.ne_unknown_of_content? hcontent)⟩

theorem WellFormed.stored_lt (h : b.WellFormed) : ∀ t ∈ b.stored, t.index < b.types.length := by
  intro t ht
  rcases List.mem_append.mp ht with ht | hentry
  · rcases List.mem_append.mp ht with htype | hname
    · obtain ⟨d, hd, ht⟩ := List.mem_flatMap.mp htype
      exact h.descriptor_stored_lt hd t ht
    · obtain ⟨e, he, rfl⟩ := List.mem_map.mp hname
      exact ((h.names.lookup_iff e.1 e.2).mp (h.names.lookup_of_mem e he)).1
  · obtain ⟨e, he, ht⟩ := List.mem_flatMap.mp hentry
    obtain ⟨hkey, hvalue⟩ := h.entry_lt he
    rcases List.mem_cons.mp ht with rfl | ht
    · exact hkey
    · rw [List.mem_singleton.mp ht]
      exact hvalue

/-! ## Operations -/

/-- The operations with their arguments. -/
inductive Operation where
  | atomic (name : String)
  | enumeration (name : String) (values : List String)
  | bean (name : String)
  | addProperty (t : TypeId) (p : Property)
  | describe (t : TypeId) (description : String)
  | listOf (element : TypeId)
  | mapOf (value : TypeId)
  | typeOf (expr referencedBy : String)

namespace Operation

/-- The types that the operation is given. -/
def uses : Operation → List TypeId
  | .addProperty t p => [t, p.type]
  | .describe t _ | .listOf t | .mapOf t => [t]
  | .atomic _ | .enumeration .. | .bean _ | .typeOf .. => []

/-- The builder after an operation, whether it fails or not. -/
def apply (b : Builder) : Operation → Builder
  | .atomic name => (b.atomic name).2
  | .enumeration name values => (b.enumeration name values).2
  | .bean name => (b.bean name).2
  | .addProperty t p => (b.addProperty t p).2
  | .describe t description => b.describe t description
  | .listOf element => (b.listOf element).2
  | .mapOf value => (b.mapOf value).2
  | .typeOf expr referencedBy => (b.typeOf expr referencedBy).2

/-- The type that the operation gives back. -/
def given? (b : Builder) : Operation → Option TypeId
  | .atomic name => (b.atomic name).1.toOption
  | .enumeration name values => (b.enumeration name values).1.toOption
  | .bean name => (b.bean name).1.toOption
  | .addProperty .. | .describe .. => none
  | .listOf element => some (b.listOf element).1
  | .mapOf value => some (b.mapOf value).1
  | .typeOf expr referencedBy => (b.typeOf expr referencedBy).1.toOption

end Operation

theorem WellFormed.operation (h : b.WellFormed) (op : Operation)
    (huses : ∀ t ∈ op.uses, t.index < b.types.length) : b.Sound (op.given? b) (op.apply b) := by
  cases op with
  | atomic name => exact h.declare (Or.inl rfl) rfl
  | enumeration name values => exact h.declare (Or.inl rfl) rfl
  | bean name => exact h.declare (Or.inr ⟨rfl, rfl⟩) rfl
  | addProperty t p =>
    have ht := huses t List.mem_cons_self
    have hp := huses p.type (List.mem_cons_of_mem _ List.mem_cons_self)
    exact h.addProperty ht hp
  | describe t description => exact h.describe (huses t List.mem_cons_self) description
  | listOf element => exact h.listOf (huses element List.mem_cons_self)
  | mapOf value => exact h.mapOf (huses value List.mem_cons_self)
  | typeOf expr referencedBy => exact h.typeOf expr referencedBy

/-! ## Runs -/

/-- The builders that operations lead to, if they are given no types but those that are there. -/
inductive Reachable : Builder → Prop where
  | new : Reachable new
  | step {b : Builder} (op : Operation) : Reachable b →
      (∀ t ∈ op.uses, t.index < b.types.length) → Reachable (op.apply b)

theorem Reachable.wellFormed (h : b.Reachable) : b.WellFormed := by
  induction h with
  | new => exact wellFormed_new
  | step op _ huses ih => exact (ih.operation op huses).wellFormed

/-- The types of a builder are well-formed and its tables agree with them, no reference within it
leads out of it, nothing that can be asked about its registry does, and each operation gives back a
type of the builder after it, which has all types of the builder before. -/
theorem invariant_of_reachable (h : b.Reachable) :
    b.WellFormed ∧ (∀ t ∈ b.stored, t.index < b.types.length) ∧ b.build.Closed ∧
      ∀ op : Operation, (∀ t ∈ op.uses, t.index < b.types.length) →
        b.Sound (op.given? b) (op.apply b) := by
  have hb := h.wellFormed
  refine ⟨hb, hb.stored_lt, ?_, hb.operation⟩
  refine hb.types.closed ?_
  intro name t ht
  exact ((hb.names.lookup_iff name t).mp ht).1

/-- An atomic type with the name of a list, that list, and a name that is taken. -/
theorem invariant_of_reachable_list_name :
    let ops : List Operation :=
      [.bean "Server", .atomic "List<Server>", .listOf ⟨5⟩, .bean "Server",
        .addProperty ⟨5⟩ ⟨"peers", ⟨7⟩, none, none⟩, .typeOf "Map<String, Server[]>" "Config"]
    let b := ops.foldl Operation.apply new
    b.Reachable ∧ b.WellFormed ∧ (∀ t ∈ b.stored, t.index < b.types.length) ∧ b.build.Closed ∧
      ∀ op : Operation, (∀ t ∈ op.uses, t.index < b.types.length) →
        b.Sound (op.given? b) (op.apply b) := by
  intro ops b
  have hbean := Reachable.new.step (.bean "Server") (by decide)
  have hatomic := hbean.step (.atomic "List<Server>") (by decide)
  have hlist := hatomic.step (.listOf ⟨5⟩) (by decide)
  have htaken := hlist.step (.bean "Server") (by decide)
  have hproperty := htaken.step (.addProperty ⟨5⟩ ⟨"peers", ⟨7⟩, none, none⟩) (by decide)
  have hb : b.Reachable := hproperty.step (.typeOf "Map<String, Server[]>" "Config") nofun
  exact ⟨hb, invariant_of_reachable hb⟩

end Builder

/-! ## Registries -/

/-- The registry comes from a builder, and may have been given a root. -/
def Registry.Built (r : Registry) : Prop :=
  ∃ b : Builder, b.Reachable ∧ (r = b.build ∨ ∃ root, r = b.build.withRoot root)

theorem Registry.Built.wellFormed {r : Registry} (h : r.Built) : r.WellFormed := by
  obtain ⟨b, hb, rfl | ⟨root, rfl⟩⟩ := h
  · exact hb.wellFormed.types
  · exact hb.wellFormed.types.of_types_eq rfl

end TypedYaml
