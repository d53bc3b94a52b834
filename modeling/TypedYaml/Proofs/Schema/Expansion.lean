import TypedYaml.Proofs.Schema.Walking
import Mathlib.Data.List.Basic

/-!
# Wildcards in a schema

A walk through a schema goes to many types at a wildcard, and drops those that reject a segment.
Resolving comes to one type only, and takes a wildcard for an index. To compare the two, a path is
expanded to paths without wildcards. What a wildcard stands for depends on the type at the end of
what comes before it, so a path is expanded from its start, and each expansion is resolved by
itself.

The types that a walk reaches are those at the end of the expansions, in the same order and as often
(`filterMap_expansions`). Both are made up from the start of the path: one more segment leads from
the types reached so far to the types that the longer expansions reach (`select_eq`,
`select_wildcard`). An expansion that does not resolve adds nothing, like a type that is dropped.

* `Registry.choices`, `Registry.expansions`: what a wildcard stands for, and the expansions.
* `traverse_expansions`: the types that a walk reaches, and where it stops.
-/

namespace TypedYaml

namespace Registry

/-! ## Expansions -/

/-- The segments for which a wildcard stands at a type. All values of an open map have the same
type, so any one key will do. -/
def choices (r : Registry) (key : String) (t : TypeId) : List Segment :=
  match r.kind t with
  | .bean => (r.descriptor t).properties.map fun p => .key p.name
  | .map _ => [.key key]
  | .sequence _ => [.index 0]
  | .unknown | .atomic => []

/-- The type at the end of a path, if the path can be followed to its end. -/
def resolve? (r : Registry) (t : TypeId) (p : Path) : Option TypeId := (r.resolve t p).toOption

/-- The expansions of a path that comes after a path without wildcards. The keys of open maps are
chosen freely, for each place at which one is needed. -/
def expansions (r : Registry) (key : Path → String) (root : TypeId) (q : Path) : Path → List Path
  | [] => [q]
  | .wildcard :: p =>
    match r.resolve? root q with
    | some t => (r.choices (key q) t).flatMap fun s => r.expansions key root (q ++ [s]) p
    | none => []
  | s :: p => r.expansions key root (q ++ [s]) p

variable {r : Registry}

/-! ## One segment -/

theorem WellFormed.select_eq (h : r.WellFormed) (t : TypeId) {s : Segment} (hs : s ≠ .wildcard) :
    r.descent.select s t = (r.next t s).toOption.toList := by
  cases hnext : r.next t s with
  | ok u => rw [Descent.select_of_ok (h.descent_of_next hnext)]; rfl
  | error fault =>
    obtain ⟨error, herror, -⟩ := descent_of_next_error hs hnext
    rw [Descent.select_of_rejects (Descent.rejects_iff.mpr ⟨error, herror⟩)]
    rfl

/-- A wildcard leads to the types to which its choices lead. -/
theorem WellFormed.select_wildcard (h : r.WellFormed) (key : String) (t : TypeId) :
    r.descent.select .wildcard t =
      (r.choices key t).flatMap fun s => (r.next t s).toOption.toList := by
  cases hk : r.kind t with
  | unknown | atomic => simp [Descent.select, descent, choices, hk]
  | bean =>
    have hnext : ∀ p ∈ (r.descriptor t).properties, r.next t (.key p.name) = .ok p.type := by
      intro p hp
      rw [next_eq, hk]
      simp only [h.property?_of_mem hp]
    have hselect :
        r.descent.select .wildcard t = (r.descriptor t).properties.map Property.type := by
      simp only [Descent.select, descent, hk]
    rw [hselect, choices, hk, List.flatMap_map, List.map_eq_flatMap]
    refine List.flatMap_congr fun p hp => ?_
    rw [hnext p hp]
    rfl
  | map value =>
    have hnext : r.next t (.key key) = .ok value := by
      simp only [next_eq, hk, h.property?_of_map hk key]
    simp [Descent.select, descent, choices, hk, hnext, Except.toOption]
  | sequence element =>
    have hnext : r.next t (.index 0) = .ok element := by simp only [next_eq, hk]
    simp [Descent.select, descent, choices, hk, hnext, Except.toOption]

theorem resolve?_concat (root : TypeId) (q : Path) (s : Segment) :
    r.resolve? root (q ++ [s]) = (r.resolve? root q).bind fun t => (r.next t s).toOption := by
  unfold resolve?
  cases hq : r.resolve root q with
  | error e => rw [resolve_append_of_error hq]; rfl
  | ok t =>
    rw [resolve_append_of_ok hq, resolve, Except.toOption, Option.bind_some]
    cases r.next t s <;> rfl

/-! ## Whole paths -/

/-- What is reached from the ends of a path is what is reached from the ends of its expansions. -/
theorem WellFormed.filterMap_expansions (h : r.WellFormed) (key : Path → String) (root : TypeId)
    (q p : Path) :
    (r.expansions key root q p).filterMap (r.resolve? root) =
      r.descent.reach (r.resolve? root q).toList p := by
  induction p generalizing q with
  | nil =>
    rw [Descent.reach_nil, expansions]
    cases hq : r.resolve? root q <;> simp [hq]
  | cons s p ih =>
    rw [Descent.reach_cons]
    by_cases hs : s = .wildcard
    · subst hs
      cases hq : r.resolve? root q with
      | none => simp [expansions, hq, Descent.reach]
      | some t =>
        have hstep : ∀ s, (r.resolve? root (q ++ [s])).toList = (r.next t s).toOption.toList := by
          intro s
          rw [resolve?_concat, hq, Option.bind_some]
        simp only [expansions, hq, List.filterMap_flatMap, ih, hstep, Option.toList_some,
          List.flatMap_singleton, h.select_wildcard (key q) t]
        exact List.flatMap_assoc.symm
    · have hstep : (r.resolve? root (q ++ [s])).toList =
          (r.resolve? root q).toList.flatMap (r.descent.select s) := by
        rw [resolve?_concat]
        cases r.resolve? root q with
        | none => rfl
        | some t => simp [h.select_eq t hs]
      rw [← hstep, ← ih]
      cases s with
      | wildcard => exact absurd rfl hs
      | key name => rfl
      | index i => rfl

theorem WellFormed.resolve?_expansions (h : r.WellFormed) (key : Path → String) (root : TypeId)
    (p : Path) :
    (r.expansions key root [] p).filterMap (r.resolve? root) = r.descent.reach [root] p :=
  h.filterMap_expansions key root [] p

end Registry

/-- A walk that comes to its end reaches the types at the end of the expansions that resolve, in
their order. One that stops before a segment stops because no expansion of the path up to that
segment resolves. -/
theorem traverse_expansions {r : Registry} (h : r.Built) (key : Path → String) (root : TypeId)
    (p : Path) :
    (∀ ts, r.descent.traverse [root] p = .ok ts →
      ts = (r.expansions key root [] p).filterMap (r.resolve? root)) ∧
    ∀ f, r.descent.traverse [root] p = .error f →
      ∃ s rest, p = f.valid ++ s :: rest ∧
        ∀ q ∈ r.expansions key root [] (f.valid ++ [s]), r.resolve? root q = none := by
  have hreach := h.wellFormed.resolve?_expansions key root
  constructor
  · intro ts hts
    rw [hreach, Descent.traverse_eq_ok hts]
  · intro f hf
    obtain ⟨s, rest, -, -, hp, hreached, hblocked, -⟩ := Descent.traverse_eq_error hf
    refine ⟨s, rest, hp, List.filterMap_eq_nil_iff.mp ?_⟩
    rw [hreach]
    exact Descent.reach_of_blocked [] (hreached ▸ hblocked)

/-- The parts of the parts of a server are the servers in the list of its peers and the texts under
its tags. Its name has no parts. None of them has a port. -/
theorem traverse_expansions_peers :
    let ops : List Builder.Operation :=
      [.bean "Server", .listOf ⟨5⟩, .mapOf .string,
        .addProperty ⟨5⟩ ⟨"name", .string, none, none⟩,
        .addProperty ⟨5⟩ ⟨"peers", ⟨6⟩, none, none⟩,
        .addProperty ⟨5⟩ ⟨"tags", ⟨7⟩, none, none⟩]
    let r := (ops.foldl Builder.Operation.apply .new).build
    let key : Path → String := fun _ => "any"
    let p : Path := [.wildcard, .wildcard]
    let port : Segment := .key "port"
    r.Built ∧
      r.expansions key ⟨5⟩ [] p = [[.key "peers", .index 0], [.key "tags", .key "any"]] ∧
      r.descent.traverse [⟨5⟩] p = .ok [⟨5⟩, .string] ∧
      [⟨5⟩, .string] = (r.expansions key ⟨5⟩ [] p).filterMap (r.resolve? ⟨5⟩) ∧
      r.descent.traverse [⟨5⟩] (p ++ [port]) = .error ⟨p, [⟨5⟩, .string], .noSuchKey "port"⟩ ∧
      ∀ q ∈ r.expansions key ⟨5⟩ [] (p ++ [port]), r.resolve? ⟨5⟩ q = none := by
  intro ops r key p port
  have hbean := Builder.Reachable.new.step (.bean "Server") (by decide)
  have hlist := hbean.step (.listOf ⟨5⟩) (by decide)
  have hmap := hlist.step (.mapOf .string) (by decide)
  have hname := hmap.step (.addProperty ⟨5⟩ ⟨"name", .string, none, none⟩) (by decide)
  have hpeers := hname.step (.addProperty ⟨5⟩ ⟨"peers", ⟨6⟩, none, none⟩) (by decide)
  have htags := hpeers.step (.addProperty ⟨5⟩ ⟨"tags", ⟨7⟩, none, none⟩) (by decide)
  have hr : r.Built := ⟨_, htags, Or.inl rfl⟩
  have hp : r.descent.traverse [⟨5⟩] p = .ok [⟨5⟩, .string] := rfl
  have hport : r.descent.traverse [⟨5⟩] (p ++ [port]) =
    .error ⟨p, [⟨5⟩, .string], .noSuchKey "port"⟩ := rfl
  refine ⟨hr, by decide, hp, (traverse_expansions hr key ⟨5⟩ p).1 _ hp, hport, ?_⟩
  obtain ⟨s, rest, heq, hnone⟩ := (traverse_expansions hr key ⟨5⟩ (p ++ [port])).2 _ hport
  cases heq
  exact hnone

end TypedYaml
