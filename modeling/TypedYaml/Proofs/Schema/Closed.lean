import TypedYaml.Check
import TypedYaml.Proofs.Schema.Resolution
import TypedYaml.Proofs.Schema.WellFormed
import TypedYaml.Schema.Navigation

/-!
# Nothing leads out of a list of types

Resolving a path, walking along one and checking a mapping all go from a type to the types of its
properties or of its elements or values. In a well-formed list these are in the list, so whatever
starts in it stays there.

* `Registry.HasPart`: the types to which a type leads.
* `Registry.Closed`, `WellFormed.closed`: the answers to all questions about types are types of the
  list.
-/

namespace TypedYaml

namespace Registry

/-! ## The parts of a type -/

/-- The type of a property, or of the elements or values. -/
def HasPart (r : Registry) (t u : TypeId) : Prop :=
  (∃ p ∈ (r.descriptor t).properties, p.type = u) ∨ u = r.domain t

variable {r : Registry}

theorem hasPart_of_property? {t : TypeId} {name : String} {p : Property}
    (h : (r.descriptor t).property? name = some p) : r.HasPart t p.type :=
  Or.inl ⟨p, List.mem_of_find?_eq_some h, rfl⟩

theorem WellFormed.part_lt (h : r.WellFormed) {t u : TypeId} (hu : r.HasPart t u) :
    u.index < r.size := by
  rcases hu with ⟨p, hp, rfl⟩ | rfl
  · exact h.property_lt t p hp
  · have hunknown : TypeId.unknown.index < r.size := Nat.lt_of_lt_of_le (by decide) h.size_ge
    unfold domain
    cases hk : r.kind t with
    | map value | sequence element => exact h.content_lt_size (congrArg Kind.content? hk)
    | unknown | atomic | bean => exact hunknown

/-- One segment of a path leads to a part. -/
theorem hasPart_of_next {t u : TypeId} {s : Segment} (h : r.next t s = .ok u) :
    r.HasPart t u := by
  rw [next_eq] at h
  split at h
  · cases h
  · cases h
  · cases h
  · split at h
    · next hp =>
      cases h
      exact hasPart_of_property? hp
    · cases h
  · next hk =>
    split at h
    · next hp =>
      cases h
      exact hasPart_of_property? hp
    · cases h
      exact Or.inr (by rw [domain, hk])
  · next hk _ =>
    cases h
    exact Or.inr (by rw [domain, hk])
  · cases h

theorem hasPart_of_descent {t : TypeId} {s : Segment} {us : List TypeId}
    (h : r.descent t s = .ok us) : ∀ u ∈ us, r.HasPart t u := by
  intro u hu
  unfold descent at h
  split at h
  · split at h
    · next hp =>
      cases h
      rw [List.mem_singleton.mp hu]
      exact hasPart_of_property? hp
    · cases h
  · cases h
    obtain ⟨p, hp, rfl⟩ := List.mem_map.mp hu
    exact Or.inl ⟨p, hp, rfl⟩
  · next hk =>
    cases h
    exact Or.inr (by rw [List.mem_singleton.mp hu, domain, hk])
  · next hk =>
    cases h
    exact Or.inr (by rw [List.mem_singleton.mp hu, domain, hk])
  · next hk =>
    cases h
    exact Or.inr (by rw [List.mem_singleton.mp hu, domain, hk])
  · next hk =>
    cases h
    exact Or.inr (by rw [List.mem_singleton.mp hu, domain, hk])
  · cases h
    cases hu
  · cases h
    cases hu
  · cases h

theorem hasPart_of_entryType {t : TypeId} {key : String} {p : Property}
    (h : r.entryType t key = .property p) : r.HasPart t p.type := by
  unfold entryType at h
  split at h
  · next hp =>
    cases h
    exact hasPart_of_property? hp
  · split at h
    · cases h
    · split at h <;> cases h

namespace WellFormed

/-! ## Resolving -/

theorem resolve_lt (h : r.WellFormed) {t u : TypeId} {p : Path} (ht : t.index < r.size)
    (hu : r.resolve t p = .ok u) : u.index < r.size := by
  induction p generalizing t with
  | nil =>
    cases hu
    exact ht
  | cons s p ih =>
    obtain ⟨v, hv, hrest⟩ := resolve_cons_eq_ok hu
    exact ih (h.part_lt (hasPart_of_next hv)) hrest

theorem resolveText?_lt (h : r.WellFormed) {t u : TypeId} {text : String}
    (ht : t.index < r.size) (hu : r.resolveText? t text = some u) : u.index < r.size := by
  obtain ⟨p, -, hp⟩ := Option.bind_eq_some_iff.mp hu
  cases hok : r.resolve t p with
  | error e =>
    rw [hok] at hp
    cases hp
  | ok v =>
    rw [hok] at hp
    cases hp
    exact h.resolve_lt ht hok

theorem resolveDotted?_lt (h : r.WellFormed) {t u : TypeId} {key : String}
    (ht : t.index < r.size) (hu : r.resolveDotted? t key = some u) : u.index < r.size := by
  unfold resolveDotted? at hu
  split at hu
  · cases hu
  · split at hu
    · next hfound =>
      obtain ⟨cut, -, hcut⟩ := List.exists_of_findSome?_eq_some hfound
      obtain ⟨p, hp, heq⟩ := Option.map_eq_some_iff.mp hcut
      cases heq
      exact h.resolveText?_lt (h.part_lt (hasPart_of_property? hp)) hu
    · exact h.resolveText?_lt ht hu

/-! ## Walking -/

theorem select_lt (h : r.WellFormed) (s : Segment) (ts : List TypeId) :
    ∀ u ∈ ts.flatMap (r.descent.select s), u.index < r.size := by
  intro u hu
  obtain ⟨t, -, hchild⟩ := List.mem_flatMap.mp hu
  unfold Descent.select at hchild
  split at hchild
  · cases hchild
  · next hus => exact h.part_lt (hasPart_of_descent hus u hchild)

theorem step_lt (h : r.WellFormed) {ts us : List TypeId} {s : Segment}
    (hus : r.descent.step ts s = .ok us) : ∀ u ∈ us, u.index < r.size := by
  intro u hu
  cases ts with
  | nil =>
    cases hus
    cases hu
  | cons first rest =>
    rw [Descent.step] at hus
    split at hus
    · split at hus
      · cases hus
      · cases hus
        exact h.select_lt s rest u hu
    · next children hchildren =>
      cases hus
      rcases List.mem_append.mp hu with hmem | hmem
      · exact h.part_lt (hasPart_of_descent hchildren u hmem)
      · exact h.select_lt s rest u hmem

theorem traverse_lt (h : r.WellFormed) {ts us : List TypeId} {p : Path}
    (hts : ∀ t ∈ ts, t.index < r.size) (hus : r.descent.traverse ts p = .ok us) :
    ∀ u ∈ us, u.index < r.size := by
  induction p generalizing ts with
  | nil =>
    cases hus
    exact hts
  | cons s p ih =>
    rw [Descent.traverse] at hus
    split at hus
    · cases hus
    · next hstep => exact ih (h.step_lt hstep) (mapError_eq_ok hus)

theorem failure_lt (h : r.WellFormed) {ts : List TypeId} {p : Path} {f : TraversalFailure TypeId}
    (hts : ∀ t ∈ ts, t.index < r.size) (hf : r.descent.traverse ts p = .error f) :
    ∀ u ∈ f.reached, u.index < r.size := by
  induction p generalizing ts f with
  | nil => cases hf
  | cons s p ih =>
    rw [Descent.traverse] at hf
    split at hf
    · cases hf
      exact hts
    · next hstep =>
      obtain ⟨f', hf', rfl⟩ := mapError_eq_error hf
      have hreached := ih (h.step_lt hstep) hf'
      exact hreached

end WellFormed

/-! ## All questions -/

/-- Whatever is asked about the types of the list, the answer is in the list. -/
structure Closed (r : Registry) : Prop where
  lookup_lt : ∀ name t, r.lookup name = some t → t.index < r.size
  domain_lt : ∀ t, (r.domain t).index < r.size
  resolve_lt : ∀ t p u, t.index < r.size → r.resolve t p = .ok u → u.index < r.size
  reached_lt : ∀ t p e, t.index < r.size → r.resolve t p = .error e → e.reached.index < r.size
  traverse_lt : ∀ ts p us, (∀ t ∈ ts, t.index < r.size) → r.descent.traverse ts p = .ok us →
    ∀ u ∈ us, u.index < r.size
  failure_lt : ∀ ts p f, (∀ t ∈ ts, t.index < r.size) → r.descent.traverse ts p = .error f →
    ∀ u ∈ f.reached, u.index < r.size
  property_lt : ∀ t key p, r.entryType t key = .property p → p.type.index < r.size
  value_lt : ∀ t key u, t.index < r.size → r.entryType t key = .value u → u.index < r.size

theorem WellFormed.closed (h : r.WellFormed)
    (hnames : ∀ name t, r.lookup name = some t → t.index < r.size) : r.Closed where
  lookup_lt := hnames
  domain_lt := fun t => h.part_lt (Or.inr rfl)
  resolve_lt := fun t p u => h.resolve_lt
  reached_lt := by
    intro t p e ht he
    obtain ⟨s, rest, -, hok, -⟩ := resolve_error_split he
    exact h.resolve_lt ht hok
  traverse_lt := fun ts p us => h.traverse_lt
  failure_lt := fun ts p f => h.failure_lt
  property_lt := fun t key p hp => h.part_lt (hasPart_of_entryType hp)
  value_lt := by
    intro t key u ht hu
    unfold entryType at hu
    split at hu
    · cases hu
    · split at hu
      · cases hu
        exact h.part_lt (Or.inr rfl)
      · split at hu
        · next hdotted =>
          cases hu
          exact h.resolveDotted?_lt ht hdotted
        · cases hu

end Registry

end TypedYaml
