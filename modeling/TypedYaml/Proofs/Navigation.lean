import TypedYaml.Node
import TypedYaml.Proofs.Outcome

/-!
# Walking level by level

A walk goes from a list of nodes to the children of all of them, one segment after the other, and
drops the nodes that reject a segment. The nodes at the end can also be found below each node on
its own, depth first. Both ways agree, because a node that is dropped has no children along the
segment, and because a walk stops only where nothing is left (`reach_of_blocked`).

* `Descent.follow`, `Descent.reach`: the nodes at the end of a path, found depth first.
* `Descent.Blocked`: nodes at which a walk stops.
* `traverse_eq_ok`, `traverse_eq_error`, `exists_error_of_blocked`: what a walk reaches, and where
  it stops.
* `traverse_split`: a walk along a path that is split anywhere.
* `traverse_map`: a walk through nodes that carry more along is the same walk.
-/

namespace TypedYaml

/-- The same failure among other nodes. -/
def TraversalFailure.map {α β : Type} (f : α → β) (e : TraversalFailure α) : TraversalFailure β :=
  ⟨e.valid, e.reached.map f, e.error⟩

/-- The same failure seen from further up. -/
def TraversalFailure.beneath {α : Type} (p : Path) (e : TraversalFailure α) : TraversalFailure α :=
  { e with valid := p ++ e.valid }

namespace Descent

variable {α β : Type} {d : Descent α}

/-- The nodes at the end of a path that starts at a node. -/
def follow (d : Descent α) (n : α) : Path → List α
  | [] => [n]
  | s :: p => (d.select s n).flatMap fun m => d.follow m p

/-- The nodes at the end of a path that starts at any of the given nodes. -/
def reach (d : Descent α) (nodes : List α) (p : Path) : List α :=
  nodes.flatMap fun n => d.follow n p

/-- There are nodes, and all of them reject the segment. -/
def Blocked (d : Descent α) (s : Segment) (nodes : List α) : Prop :=
  nodes ≠ [] ∧ ∀ n ∈ nodes, d.rejects s n

/-! ## One node -/

theorem rejects_iff {s : Segment} {n : α} : d.rejects s n ↔ ∃ e, d n s = .error e := by
  unfold rejects
  cases d n s <;> simp

theorem select_of_rejects {s : Segment} {n : α} (h : d.rejects s n) : d.select s n = [] := by
  obtain ⟨e, he⟩ := rejects_iff.mp h
  rw [select, he]

theorem select_of_ok {s : Segment} {n : α} {children : List α} (h : d n s = .ok children) :
    d.select s n = children := by
  rw [select, h]

/-! ## One step -/

theorem step_singleton (d : Descent α) (node : α) (s : Segment) : d.step [node] s = d node s := by
  rw [step]
  cases d node s with
  | error e => rfl
  | ok children => simp

/-- A step fails with the error of the first node. -/
theorem step_of_blocked {s : Segment} {nodes : List α} (h : d.Blocked s nodes) :
    ∃ first rest e, nodes = first :: rest ∧ d first s = .error e ∧
      d.step nodes s = .error e := by
  obtain ⟨hne, hall⟩ := h
  obtain ⟨first, rest, rfl⟩ := List.exists_cons_of_ne_nil hne
  obtain ⟨e, he⟩ := rejects_iff.mp (hall first List.mem_cons_self)
  have hrest : rest.all (d.rejects s) :=
    List.all_eq_true.mpr fun n hn => hall n (List.mem_cons_of_mem _ hn)
  refine ⟨first, rest, e, rfl, he, ?_⟩
  rw [step, he]
  exact if_pos hrest

theorem step_of_not_blocked {s : Segment} {nodes : List α} (h : ¬ d.Blocked s nodes) :
    d.step nodes s = .ok (nodes.flatMap (d.select s)) := by
  cases nodes with
  | nil => rfl
  | cons first rest =>
    rw [step, List.flatMap_cons]
    cases hfirst : d first s with
    | ok children => rw [select_of_ok hfirst]
    | error e =>
      have hrejects : d.rejects s first := rejects_iff.mpr ⟨e, hfirst⟩
      have hrest : ¬ rest.all (d.rejects s) := by
        intro hall
        refine h ⟨List.cons_ne_nil _ _, ?_⟩
        exact List.forall_mem_cons.mpr ⟨hrejects, List.all_eq_true.mp hall⟩
      rw [select_of_rejects hrejects, List.nil_append]
      exact if_neg hrest

/-! ## Reaching depth first -/

theorem reach_nil (d : Descent α) (nodes : List α) : d.reach nodes [] = nodes :=
  List.flatMap_singleton' nodes

theorem reach_cons (d : Descent α) (nodes : List α) (s : Segment) (p : Path) :
    d.reach nodes (s :: p) = d.reach (nodes.flatMap (d.select s)) p :=
  List.flatMap_assoc.symm

theorem reach_append (d : Descent α) (nodes : List α) (p q : Path) :
    d.reach nodes (p ++ q) = d.reach (d.reach nodes p) q := by
  induction p generalizing nodes with
  | nil => rw [List.nil_append, reach_nil]
  | cons s p ih => rw [List.cons_append, reach_cons, reach_cons, ih]

theorem reach_singleton (d : Descent α) (n : α) (p : Path) : d.reach [n] p = d.follow n p :=
  List.flatMap_singleton _ _

/-- Nothing lies beyond a place where a walk stops. -/
theorem reach_of_blocked {s : Segment} {nodes : List α} {valid : Path} (rest : Path)
    (h : d.Blocked s (d.reach nodes valid)) : d.reach nodes (valid ++ s :: rest) = [] := by
  have hnone : (d.reach nodes valid).flatMap (d.select s) = [] :=
    List.flatMap_eq_nil_iff.mpr fun n hn => select_of_rejects (h.2 n hn)
  rw [reach_append, reach_cons, hnone]
  rfl

/-! ## Whole walks -/

theorem traverse_cons_of_blocked {s : Segment} {nodes : List α} (h : d.Blocked s nodes)
    (p : Path) :
    ∃ first rest e, nodes = first :: rest ∧ d first s = .error e ∧
      d.traverse nodes (s :: p) = .error ⟨[], nodes, e⟩ := by
  obtain ⟨first, rest, e, hnodes, he, hstep⟩ := step_of_blocked h
  refine ⟨first, rest, e, hnodes, he, ?_⟩
  rw [traverse, hstep]

theorem traverse_cons_of_not_blocked {s : Segment} {nodes : List α} (h : ¬ d.Blocked s nodes)
    (p : Path) :
    d.traverse nodes (s :: p) =
      (d.traverse (nodes.flatMap (d.select s)) p).mapError (.under s) := by
  rw [traverse, step_of_not_blocked h]

theorem traverse_eq_ok {nodes ms : List α} {p : Path} (h : d.traverse nodes p = .ok ms) :
    ms = d.reach nodes p := by
  induction p generalizing nodes with
  | nil =>
    cases h
    exact (reach_nil d ms).symm
  | cons s p ih =>
    by_cases hb : d.Blocked s nodes
    · obtain ⟨_, _, e, -, -, hstop⟩ := traverse_cons_of_blocked hb p
      rw [hstop] at h
      cases h
    · rw [traverse_cons_of_not_blocked hb] at h
      rw [reach_cons]
      exact ih (mapError_eq_ok h)

/-- A walk that fails stops at the nodes along the valid part of its path, and gives the reason of
the first of them. -/
theorem traverse_eq_error {nodes : List α} {p : Path} {f : TraversalFailure α}
    (h : d.traverse nodes p = .error f) :
    ∃ s rest first others, p = f.valid ++ s :: rest ∧ f.reached = d.reach nodes f.valid ∧
      d.Blocked s f.reached ∧ f.reached = first :: others ∧ d first s = .error f.error := by
  induction p generalizing nodes f with
  | nil => cases h
  | cons s p ih =>
    by_cases hb : d.Blocked s nodes
    · obtain ⟨first, others, e, hnodes, he, hstop⟩ := traverse_cons_of_blocked hb p
      rw [hstop] at h
      cases h
      exact ⟨s, p, first, others, rfl, (reach_nil d nodes).symm, hb, hnodes, he⟩
    · rw [traverse_cons_of_not_blocked hb] at h
      obtain ⟨g, hg, rfl⟩ := mapError_eq_error h
      obtain ⟨t, rest, first, others, hp, hreached, hblocked, hfirst, he⟩ := ih hg
      exact ⟨t, rest, first, others, congrArg (s :: ·) hp,
        hreached.trans (reach_cons d nodes s g.valid).symm, hblocked, hfirst, he⟩

theorem exists_error_of_blocked {s : Segment} {nodes : List α} {valid : Path} (rest : Path)
    (h : d.Blocked s (d.reach nodes valid)) :
    ∃ f, d.traverse nodes (valid ++ s :: rest) = .error f := by
  induction valid generalizing nodes with
  | nil =>
    rw [reach_nil] at h
    obtain ⟨_, _, e, -, -, hstop⟩ := traverse_cons_of_blocked h rest
    exact ⟨_, hstop⟩
  | cons t valid ih =>
    by_cases hb : d.Blocked t nodes
    · obtain ⟨_, _, e, -, -, hstop⟩ := traverse_cons_of_blocked hb (valid ++ s :: rest)
      exact ⟨_, hstop⟩
    · rw [reach_cons] at h
      obtain ⟨f, hf⟩ := ih h
      rw [List.cons_append, traverse_cons_of_not_blocked hb, hf]
      exact ⟨_, rfl⟩

/-- A walk goes on from the nodes that it reaches. -/
theorem traverse_append_of_ok {nodes ms : List α} {p : Path} (h : d.traverse nodes p = .ok ms)
    (q : Path) :
    d.traverse nodes (p ++ q) = (d.traverse ms q).mapError (.beneath p) := by
  induction p generalizing nodes with
  | nil =>
    cases h
    show d.traverse ms q = _
    cases d.traverse ms q <;> rfl
  | cons s p ih =>
    rw [traverse] at h
    cases hstep : d.step nodes s with
    | error e =>
      rw [hstep] at h
      cases h
    | ok children =>
      rw [hstep] at h
      rw [List.cons_append, traverse, hstep]
      show (d.traverse children (p ++ q)).mapError (TraversalFailure.under s) = _
      rw [ih (mapError_eq_ok h)]
      cases d.traverse ms q <;> rfl

/-- A walk that has stopped does not go on. -/
theorem traverse_append_of_error {nodes : List α} {p : Path} {f : TraversalFailure α}
    (h : d.traverse nodes p = .error f) (q : Path) : d.traverse nodes (p ++ q) = .error f := by
  induction p generalizing nodes f with
  | nil => cases h
  | cons s p ih =>
    rw [traverse] at h
    rw [List.cons_append, traverse]
    cases hstep : d.step nodes s with
    | error e =>
      rw [hstep] at h
      exact h
    | ok children =>
      rw [hstep] at h
      obtain ⟨g, hg, rfl⟩ := mapError_eq_error h
      show (d.traverse children (p ++ q)).mapError (TraversalFailure.under s) = _
      rw [ih hg]
      rfl

/-! ## Nodes that carry more along -/

section Map

variable {d' : Descent β} {f : α → β} (h : ∀ x s, d' (f x) s = (d x s).map (List.map f))

include h

theorem blocked_map {s : Segment} {nodes : List α} :
    d'.Blocked s (nodes.map f) ↔ d.Blocked s nodes := by
  have hrejects : ∀ x, d'.rejects s (f x) = d.rejects s x := by
    intro x
    rw [rejects, rejects, h]
    cases d x s <;> rfl
  simp [Blocked, hrejects]

theorem select_map (s : Segment) (x : α) : d'.select s (f x) = (d.select s x).map f := by
  rw [select, select, h]
  cases d x s <;> rfl

theorem traverse_map (nodes : List α) (p : Path) :
    d'.traverse (nodes.map f) p =
      ((d.traverse nodes p).map (List.map f)).mapError (.map f) := by
  induction p generalizing nodes with
  | nil => rfl
  | cons s p ih =>
    by_cases hb : d.Blocked s nodes
    · obtain ⟨first, rest, e, rfl, he, hstop⟩ := traverse_cons_of_blocked hb p
      obtain ⟨_, _, e', hcons, he', hstop'⟩ :=
        traverse_cons_of_blocked ((blocked_map h).mpr hb) p
      cases hcons
      rw [h, he] at he'
      cases he'
      rw [hstop, hstop']
      rfl
    · have hchildren : (nodes.map f).flatMap (d'.select s) =
          (nodes.flatMap (d.select s)).map f := by
        simp only [List.flatMap_map, List.map_flatMap, select_map h]
      rw [traverse_cons_of_not_blocked hb,
        traverse_cons_of_not_blocked (fun hb' => hb ((blocked_map h).mp hb')), hchildren, ih]
      cases d.traverse (nodes.flatMap (d.select s)) p <;> rfl

end Map

end Descent

/-! ## Paths in two parts -/

/-- Wherever a path is split, a walk that stops within the first part is the walk along that part,
and any other goes on along the second part from the nodes that the first part reaches. A failure
there has the whole first part before its own valid part. -/
theorem traverse_split {α : Type} (d : Descent α) (nodes : List α) (p : Path) (n : Nat) :
    (∀ f, d.traverse nodes (p.take n) = .error f → d.traverse nodes p = .error f) ∧
      ∀ mid, d.traverse nodes (p.take n) = .ok mid →
        (∀ ms, d.traverse nodes p = .ok ms ↔ d.traverse mid (p.drop n) = .ok ms) ∧
        ∀ f, d.traverse nodes p = .error f ↔
          ∃ g, d.traverse mid (p.drop n) = .error g ∧
            f = ⟨p.take n ++ g.valid, g.reached, g.error⟩ := by
  have hp : p.take n ++ p.drop n = p := List.take_append_drop n p
  constructor
  · intro f hf
    rw [← hp]
    exact Descent.traverse_append_of_error hf (p.drop n)
  · intro mid hmid
    have hwhole := Descent.traverse_append_of_ok hmid (p.drop n)
    rw [hp] at hwhole
    rw [hwhole]
    refine ⟨fun ms => ⟨mapError_eq_ok, fun hms => ?_⟩, fun f => ⟨fun hf => ?_, ?_⟩⟩
    · rw [hms]
      rfl
    · obtain ⟨g, hg, rfl⟩ := mapError_eq_error hf
      exact ⟨g, hg, rfl⟩
    · rintro ⟨g, hg, rfl⟩
      rw [hg]
      rfl

/-- One server has no host and is dropped, and the hosts of the others have no names. Without
servers there is nothing that could reject the rest of the path. -/
theorem traverse_split_hosts :
    let servers : List Node :=
      [.mapping [("host", .string "a")], .null, .mapping [("host", .string "b")]]
    let doc : Node := .mapping [("servers", .sequence servers), ("spare", .sequence [])]
    let p : Path := [.key "servers", .wildcard, .key "host", .key "name"]
    let q : Path := [.key "spare", .wildcard, .key "host", .key "name"]
    let hosts : List Node := [.string "a", .string "b"]
    Node.descent.traverse [doc] (p.take 2) = .ok servers ∧
      Node.descent.traverse servers (p.drop 2) =
        .error ⟨[.key "host"], hosts, .notAMap "name" "string"⟩ ∧
      Node.descent.traverse [doc] p = .error ⟨p.take 3, hosts, .notAMap "name" "string"⟩ ∧
      Node.descent.traverse [doc] (p ++ q) = .error ⟨p.take 3, hosts, .notAMap "name" "string"⟩ ∧
      Node.descent.traverse [doc] (q.take 2) = .ok [] ∧ Node.descent.traverse [doc] q = .ok [] := by
  intro servers doc p q hosts
  have hmid : Node.descent.traverse [doc] (p.take 2) = .ok servers := rfl
  have hrest : Node.descent.traverse servers (p.drop 2) =
      .error ⟨[.key "host"], hosts, .notAMap "name" "string"⟩ := rfl
  have hp := (((traverse_split Node.descent [doc] p 2).2 servers hmid).2 _).mpr ⟨_, hrest, rfl⟩
  have hempty : Node.descent.traverse [doc] (q.take 2) = .ok [] := rfl
  have hq := (((traverse_split Node.descent [doc] q 2).2 [] hempty).1 []).mpr rfl
  exact ⟨hmid, hrest, hp, (traverse_split Node.descent [doc] (p ++ q) 4).1 _ hp, hempty, hq⟩

end TypedYaml
