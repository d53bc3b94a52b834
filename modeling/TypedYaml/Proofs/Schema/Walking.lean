import TypedYaml.Proofs.Navigation
import TypedYaml.Proofs.Schema.Reachable

/-!
# Resolving a path is walking through the schema

A path can be followed through a schema in two ways. Resolving goes from one type to the next and
asks what class the type belongs to. Walking treats types as the nodes of a tree and goes by their
kinds. Where a path has no wildcards both reach the same type, or stop at the same type after the
same part of the path, and say the same about it in their own words (`ToldAs`).

Resolving looks up a key among the properties before it takes the values of a map, and walking does
not. That makes no difference, because only beans have properties.

A wildcard leads to all properties of a bean when walking, and nowhere when resolving. Where
resolving does follow it, walking does as well.

* `descent_of_next`, `descent_of_next_error`: one segment.
* `resolve_agrees_traverse`: whole paths.
-/

namespace TypedYaml

/-- How walking tells of a fault of resolving at a type with the given description. -/
inductive ResolveFault.ToldAs (found : String) : ResolveFault → Segment → NavigationError → Prop
  | unknownProperty (name typeName : String) :
      ToldAs found (.unknownProperty name typeName) (.key name) (.noSuchKey name)
  | atomicType (name typeName : String) :
      ToldAs found (.atomicType typeName) (.key name) (.notAMap name found)
  | notAMap (name typeName : String) :
      ToldAs found (.notAMap typeName) (.key name) (.notAMap name found)
  | notSequencable (i : Int64) (typeName : String) :
      ToldAs found (.notSequencable typeName) (.index i) (.notASequence found)
  | unknownTypeKey (name : String) : ToldAs found .unknownType (.key name) (.notAMap name found)
  | unknownTypeIndex (i : Int64) : ToldAs found .unknownType (.index i) (.notASequence found)

namespace Registry

variable {r : Registry}

/-! ## One segment -/

theorem WellFormed.property?_of_map (h : r.WellFormed) {t value : TypeId}
    (hk : r.kind t = .map value) (name : String) : (r.descriptor t).property? name = none := by
  by_cases hnone : (r.descriptor t).properties = []
  · rw [Descriptor.property?, hnone]
    rfl
  · rw [h.bean_of_properties t hnone] at hk
    cases hk

theorem WellFormed.descent_of_next (h : r.WellFormed) {t u : TypeId} {s : Segment}
    (hu : r.next t s = .ok u) : r.descent t s = .ok [u] := by
  rw [next_eq] at hu
  cases hk : r.kind t with
  | unknown => simp [hk] at hu
  | atomic => cases s <;> simp [hk] at hu
  | bean =>
    cases s with
    | key name =>
      cases hp : (r.descriptor t).property? name with
      | none => simp [hk, hp] at hu
      | some p =>
        have hu : p.type = u := by simpa [hk, hp] using hu
        simp [descent, hk, hp, hu]
    | index i => simp [hk] at hu
    | wildcard => simp [hk] at hu
  | map value =>
    cases s with
    | key name =>
      have hu : value = u := by simpa [hk, h.property?_of_map hk name] using hu
      simp [descent, hk, hu]
    | index i => simp [hk] at hu
    | wildcard => simp [hk] at hu
  | sequence element =>
    cases s with
    | key name => simp [hk] at hu
    | index i | wildcard =>
      have hu : element = u := by simpa [hk] using hu
      simp [descent, hk, hu]

theorem descent_of_next_error {t : TypeId} {s : Segment} {fault : ResolveFault}
    (hs : s ≠ .wildcard) (hfault : r.next t s = .error fault) :
    ∃ error, r.descent t s = .error error ∧ fault.ToldAs (r.kindText t) s error := by
  rw [next_eq] at hfault
  cases s with
  | wildcard => exact absurd rfl hs
  | key name =>
    cases hk : r.kind t with
    | unknown =>
      simp only [hk] at hfault
      cases hfault
      exact ⟨_, by simp only [descent, hk]; rfl, .unknownTypeKey name⟩
    | atomic =>
      simp only [hk] at hfault
      cases hfault
      exact ⟨_, by simp only [descent, hk]; rfl, .atomicType name _⟩
    | sequence element =>
      simp only [hk] at hfault
      cases hfault
      exact ⟨_, by simp only [descent, hk]; rfl, .notAMap name _⟩
    | bean =>
      cases hp : (r.descriptor t).property? name with
      | some p => simp [hk, hp] at hfault
      | none =>
        simp only [hk, hp] at hfault
        cases hfault
        exact ⟨_, by simp only [descent, hk, hp], .unknownProperty name _⟩
    | map value => cases hp : (r.descriptor t).property? name <;> simp [hk, hp] at hfault
  | index i =>
    cases hk : r.kind t with
    | unknown =>
      simp only [hk] at hfault
      cases hfault
      exact ⟨_, by simp only [descent, hk]; rfl, .unknownTypeIndex i⟩
    | sequence element => simp [hk] at hfault
    | atomic | bean | map value =>
      simp only [hk] at hfault
      cases hfault
      exact ⟨_, by simp only [descent, hk]; rfl, .notSequencable i _⟩

/-! ## Whole paths -/

theorem WellFormed.traverse_of_resolve (h : r.WellFormed) {t u : TypeId} {p : Path}
    (hu : r.resolve t p = .ok u) : r.descent.traverse [t] p = .ok [u] := by
  induction p generalizing t with
  | nil =>
    cases hu
    rfl
  | cons s p ih =>
    obtain ⟨v, hv, hrest⟩ := resolve_cons_eq_ok hu
    rw [Descent.traverse, Descent.step_singleton, h.descent_of_next hv]
    show (r.descent.traverse [v] p).mapError (TraversalFailure.under s) = .ok [u]
    rw [ih hrest]
    rfl

/-- Walking stops where resolving does. -/
theorem WellFormed.traverse_of_resolve_error (h : r.WellFormed) {t : TypeId} {p : Path}
    {e : ResolveError} (hp : .wildcard ∉ p) (he : r.resolve t p = .error e) :
    ∃ s rest error, p = e.resolved ++ s :: rest ∧
      e.fault.ToldAs (r.kindText e.reached) s error ∧
      r.descent.traverse [t] p = .error ⟨e.resolved, [e.reached], error⟩ := by
  obtain ⟨s, rest, rfl, hok, hfault⟩ := resolve_error_split he
  have hs : s ≠ .wildcard := by
    rintro rfl
    exact hp (List.mem_append_right _ List.mem_cons_self)
  obtain ⟨error, herror, htold⟩ := descent_of_next_error hs hfault
  refine ⟨s, rest, error, rfl, htold, ?_⟩
  rw [Descent.traverse_append_of_ok (h.traverse_of_resolve hok), Descent.traverse,
    Descent.step_singleton, herror]
  show Except.error (TraversalFailure.beneath e.resolved ⟨[], [e.reached], error⟩) = _
  simp [TraversalFailure.beneath]

end Registry

/-- Without wildcards in the path, resolving and walking from a type come to the same type, or stop
at the same type after the same part of the path, for a reason that each tells in its own words.
With wildcards, walking comes to the type to which resolving does. -/
theorem resolve_agrees_traverse {r : Registry} (h : r.Built) (root : TypeId) (p : Path) :
    (.wildcard ∉ p →
      (∀ t, r.resolve root p = .ok t ↔ r.descent.traverse [root] p = .ok [t]) ∧
      (∀ fault resolved reached, r.resolve root p = .error ⟨fault, resolved, reached⟩ →
        ∃ s rest error, p = resolved ++ s :: rest ∧
          fault.ToldAs (r.kindText reached) s error ∧
          r.descent.traverse [root] p = .error ⟨resolved, [reached], error⟩) ∧
      ∀ f, r.descent.traverse [root] p = .error f →
        ∃ fault reached, f.reached = [reached] ∧
          r.resolve root p = .error ⟨fault, f.valid, reached⟩) ∧
      ∀ t, r.resolve root p = .ok t → r.descent.traverse [root] p = .ok [t] := by
  have hr := h.wellFormed
  refine ⟨fun hp => ⟨?_, ?_, ?_⟩, fun t ht => hr.traverse_of_resolve ht⟩
  · intro t
    refine ⟨fun ht => hr.traverse_of_resolve ht, ?_⟩
    intro ht
    cases hres : r.resolve root p with
    | ok u =>
      rw [hr.traverse_of_resolve hres] at ht
      cases ht
      rfl
    | error e =>
      obtain ⟨_, _, _, -, -, hstop⟩ := hr.traverse_of_resolve_error hp hres
      rw [hstop] at ht
      cases ht
  · intro fault resolved reached he
    exact hr.traverse_of_resolve_error hp he
  · intro f hf
    cases hres : r.resolve root p with
    | ok u =>
      rw [hr.traverse_of_resolve hres] at hf
      cases hf
    | error e =>
      obtain ⟨_, _, _, -, -, hstop⟩ := hr.traverse_of_resolve_error hp hres
      rw [hstop] at hf
      cases hf
      exact ⟨e.fault, e.reached, rfl, rfl⟩

/-- The second peer of the first peer is found, and the port of a list is not. -/
theorem resolve_agrees_traverse_peers :
    let ops : List Builder.Operation :=
      [.bean "Server", .listOf ⟨5⟩, .addProperty ⟨5⟩ ⟨"peers", ⟨6⟩, none, none⟩]
    let r := (ops.foldl Builder.Operation.apply .new).build
    let p : Path := [.key "peers", .key "port"]
    r.Built ∧ .wildcard ∉ p ∧
      r.descent.traverse [⟨5⟩] [.key "peers", .index 0, .key "peers", .index 1] = .ok [⟨5⟩] ∧
      r.descent.traverse [⟨5⟩] p =
        .error ⟨[.key "peers"], [⟨6⟩], .notAMap "port" "List<Server>"⟩ := by
  intro ops r p
  have hbean := Builder.Reachable.new.step (.bean "Server") (by decide)
  have hlist := hbean.step (.listOf ⟨5⟩) (by decide)
  have hproperty := hlist.step (.addProperty ⟨5⟩ ⟨"peers", ⟨6⟩, none, none⟩) (by decide)
  have hr : r.Built := ⟨_, hproperty, Or.inl rfl⟩
  have hp : .wildcard ∉ p := by decide
  refine ⟨hr, hp, (resolve_agrees_traverse hr ⟨5⟩ _).2 ⟨5⟩ rfl, ?_⟩
  obtain ⟨s, rest, error, hpath, htold, hstop⟩ :=
    ((resolve_agrees_traverse hr ⟨5⟩ p).1 hp).2.1 (.notAMap "List<Server>") [.key "peers"] ⟨6⟩ rfl
  cases (List.cons.inj hpath).2
  cases htold
  exact hstop

end TypedYaml
