import TypedYaml.Proofs.Outcome
import TypedYaml.Schema.Navigation

/-!
# Following a path through a schema

What one segment does depends on the kind of the type alone (`next_eq`). A path that cannot be
followed to its end can be followed along the resolved part, and the segment after it is the one
that fails (`resolve_error_split`). Whatever comes after that segment makes no difference
(`resolve_append_of_error`), so of the prefixes of the path those that end with the resolved part or
before it can be followed, and the others fail as the path does.

* `next_eq`: one segment.
* `resolve_append_of_ok`, `resolve_append_of_error`: a path that is continued.
* `resolve_longest_prefix`: one path after the other, and the prefixes of a path that fails.
-/

namespace TypedYaml

/-- The same error seen from further up. -/
def ResolveError.beneath (p : Path) (e : ResolveError) : ResolveError :=
  { e with resolved := p ++ e.resolved }

namespace Registry

variable {r : Registry}

theorem next_eq (t : TypeId) (s : Segment) :
    r.next t s =
      match r.kind t, s with
      | .unknown, _ => .error .unknownType
      | .atomic, .key _ => .error (.atomicType (r.typeName t))
      | .sequence _, .key _ => .error (.notAMap (r.typeName t))
      | .bean, .key name =>
        match (r.descriptor t).property? name with
        | some p => .ok p.type
        | none => .error (.unknownProperty name (r.typeName t))
      | .map value, .key name =>
        match (r.descriptor t).property? name with
        | some p => .ok p.type
        | none => .ok value
      | .sequence element, _ => .ok element
      | _, _ => .error (.notSequencable (r.typeName t)) := by
  cases s with
  | key name =>
    cases hp : (r.descriptor t).property? name <;> cases hk : r.kind t <;>
      simp [next, isUnknown, isAtomic, isMap, isOpenMap, domain, hk, hp]
  | index i => cases hk : r.kind t <;> simp [next, isUnknown, isSequencable, domain, hk]
  | wildcard => cases hk : r.kind t <;> simp [next, isUnknown, isSequencable, domain, hk]

theorem resolve_cons_eq_ok {t u : TypeId} {s : Segment} {p : Path}
    (h : r.resolve t (s :: p) = .ok u) :
    ∃ v, r.next t s = .ok v ∧ r.resolve v p = .ok u := by
  rw [resolve] at h
  cases hn : r.next t s with
  | error fault =>
    rw [hn] at h
    cases h
  | ok v =>
    rw [hn] at h
    exact ⟨v, rfl, mapError_eq_ok h⟩

theorem resolve_cons_of_next {t v : TypeId} {s : Segment} (p : Path) (h : r.next t s = .ok v) :
    r.resolve t (s :: p) = (r.resolve v p).mapError (.under s) := by
  rw [resolve, h]

/-- A path that is continued is followed from the type to which it leads. -/
theorem resolve_append_of_ok {t u : TypeId} {p : Path} (h : r.resolve t p = .ok u) (q : Path) :
    r.resolve t (p ++ q) = (r.resolve u q).mapError (.beneath p) := by
  induction p generalizing t with
  | nil =>
    cases h
    rw [List.nil_append]
    cases r.resolve u q <;> rfl
  | cons s p ih =>
    obtain ⟨v, hv, hrest⟩ := resolve_cons_eq_ok h
    rw [List.cons_append, resolve_cons_of_next _ hv, ih hrest]
    cases r.resolve u q <;> rfl

/-- A path that leaves the schema leaves it at the same place however it is continued. -/
theorem resolve_append_of_error {t : TypeId} {p : Path} {e : ResolveError}
    (h : r.resolve t p = .error e) (q : Path) : r.resolve t (p ++ q) = .error e := by
  induction p generalizing t e with
  | nil => cases h
  | cons s p ih =>
    cases hn : r.next t s with
    | error fault =>
      rw [resolve, hn] at h
      rw [List.cons_append, resolve, hn]
      exact h
    | ok v =>
      rw [resolve_cons_of_next p hn] at h
      obtain ⟨f, hf, rfl⟩ := mapError_eq_error h
      rw [List.cons_append, resolve_cons_of_next _ hn, ih hf]
      rfl

/-- Whatever comes before a place that can be reached can be reached itself. -/
theorem exists_resolve_of_prefix {t u : TypeId} {p q : Path} (h : r.resolve t q = .ok u)
    (hpq : p <+: q) : ∃ v, r.resolve t p = .ok v := by
  obtain ⟨rest, rfl⟩ := hpq
  cases hp : r.resolve t p with
  | ok v => exact ⟨v, rfl⟩
  | error e =>
    rw [resolve_append_of_error hp] at h
    cases h

/-- Resolution stops at a segment: what comes before it resolves to the type reached. -/
theorem resolve_error_split {t : TypeId} {p : Path} {e : ResolveError}
    (h : r.resolve t p = .error e) :
    ∃ s rest, p = e.resolved ++ s :: rest ∧ r.resolve t e.resolved = .ok e.reached ∧
      r.next e.reached s = .error e.fault := by
  induction p generalizing t e with
  | nil => cases h
  | cons s p ih =>
    cases hn : r.next t s with
    | error fault =>
      rw [resolve, hn] at h
      cases h
      exact ⟨s, p, rfl, rfl, hn⟩
    | ok v =>
      rw [resolve_cons_of_next p hn] at h
      obtain ⟨f, hf, rfl⟩ := mapError_eq_error h
      obtain ⟨s', rest, hp, hok, herr⟩ := ih hf
      refine ⟨s', rest, congrArg (s :: ·) hp, ?_, herr⟩
      show r.resolve t (s :: f.resolved) = .ok f.reached
      rw [resolve_cons_of_next f.resolved hn, hok]
      rfl

theorem resolve_of_next_error {t : TypeId} {s : Segment} {fault : ResolveFault}
    (h : r.next t s = .error fault) (p : Path) : r.resolve t (s :: p) = .error ⟨fault, [], t⟩ := by
  rw [resolve, h]

end Registry

/-- A path after another is resolved from the type to which the first leads, and not at all if the
first leads nowhere. So a path that fails fails right after the longest of its prefixes that
resolve: this is the part that the error names, together with the type at its end, and each longer
prefix gives the very same error. -/
theorem resolve_longest_prefix (r : Registry) (root : TypeId) :
    (∀ p q, r.resolve root (p ++ q) =
      match r.resolve root p with
      | .ok t => (r.resolve t q).mapError fun e => { e with resolved := p ++ e.resolved }
      | .error e => .error e) ∧
    ∀ path e, r.resolve root path = .error e →
      e.resolved <+: path ∧ e.resolved ≠ path ∧ r.resolve root e.resolved = .ok e.reached ∧
        (∀ p, p <+: path → p.length ≤ e.resolved.length → ∃ t, r.resolve root p = .ok t) ∧
        ∀ p, p <+: path → e.resolved.length < p.length → r.resolve root p = .error e := by
  constructor
  · intro p q
    cases hp : r.resolve root p with
    | ok t => exact Registry.resolve_append_of_ok hp q
    | error e => exact Registry.resolve_append_of_error hp q
  · intro path e he
    obtain ⟨s, rest, hpath, hreached, hnext⟩ := Registry.resolve_error_split he
    have hresolved : e.resolved <+: path := ⟨s :: rest, hpath.symm⟩
    refine ⟨hresolved, ?_, hreached, ?_, ?_⟩
    · intro heq
      rw [heq, he] at hreached
      cases hreached
    · intro p hp hlength
      exact Registry.exists_resolve_of_prefix hreached
        (List.prefix_of_prefix_length_le hp hresolved hlength)
    · intro p hp hlength
      -- a longer prefix holds the segment that fails
      have hstop : e.resolved ++ [s] <+: path := ⟨rest, by rw [hpath]; simp⟩
      have hlength : (e.resolved ++ [s]).length ≤ p.length := by
        rw [List.length_append, List.length_singleton]
        exact hlength
      obtain ⟨more, rfl⟩ := List.prefix_of_prefix_length_le hstop hp hlength
      rw [List.append_assoc, Registry.resolve_append_of_ok hreached, List.singleton_append,
        Registry.resolve_of_next_error hnext]
      show Except.error (ResolveError.beneath e.resolved ⟨e.fault, [], e.reached⟩) = _
      rw [ResolveError.beneath, List.append_nil]

/-- The peers of a server are a list, which has no port. What would come after the port makes no
difference. -/
theorem resolve_longest_prefix_peers :
    let list := ((Builder.new.bean "Server").2.listOf ⟨5⟩).2
    let r := (list.addProperty ⟨5⟩ ⟨"peers", ⟨6⟩, none, none⟩).2.build
    let path : Path := [.key "peers", .index 0, .key "peers", .key "port", .wildcard]
    let e : ResolveError := ⟨.notAMap "List<Server>", path.take 3, ⟨6⟩⟩
    r.resolve ⟨5⟩ path = .error e ∧ r.resolve ⟨5⟩ (path.take 3) = .ok ⟨6⟩ ∧
      (∃ t, r.resolve ⟨5⟩ (path.take 1) = .ok t) ∧ r.resolve ⟨5⟩ (path.take 4) = .error e ∧
      r.resolve ⟨5⟩ (path.take 2 ++ path) =
        .error { e with resolved := path.take 2 ++ path.take 3 } := by
  intro list r path e
  have he : r.resolve ⟨5⟩ path = .error e := rfl
  obtain ⟨happend, hprefix⟩ := resolve_longest_prefix r ⟨5⟩
  obtain ⟨-, -, hreached, hshorter, hlonger⟩ := hprefix path e he
  refine ⟨he, hreached, ?_, ?_, ?_⟩
  · exact hshorter _ (List.take_prefix 1 path) (by decide)
  · exact hlonger _ (List.take_prefix 4 path) (by decide)
  · rw [happend]
    rfl

end TypedYaml
