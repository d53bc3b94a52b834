import TypedYaml.Node
import TypedYaml.Proofs.Navigation
import Mathlib.Data.List.Nodup

/-!
# The nodes that match a path

Which positions of a document match a path can be said of one node at a time: each segment selects
some of the children, and the rest of the path goes on below them. Walking finds these positions
in document order, and finds none twice.

A node of a document does not know where it stands, and equal nodes may stand in many places. So
the walk is repeated with nodes that know their place. It is the same walk (`descent_map`), and
the places that it comes to differ because different children have different numbers.

* `Node.selects`, `Node.matching`: the children that a segment selects, and the nodes that match a
  path.
* `Place`: a node with the numbers of the children that lead to it.
* `traverse_matching`: a walk finds the matching nodes, and where it stops there are none.
-/

namespace TypedYaml

namespace Node

/-- Whether a segment selects the child with the given number. A negative index counts from the
end. -/
def selects : Node → Segment → Nat → Bool
  | _, .wildcard, _ => true
  | .mapping entries, .key name, i => entries.findIdx? (·.1 == name) == some i
  | .sequence items, .index k, i | .stream items, .index k, i =>
    k.toInt == i || items.length + k.toInt == i
  | _, _, _ => false

/-- The children that a segment selects, with their numbers. -/
def selected (n : Node) (s : Segment) : List (Node × Nat) :=
  n.children.zipIdx.filter fun e => n.selects s e.2

/-- The nodes below a node that match a path, in document order. -/
def matching (n : Node) : Path → List Node
  | [] => [n]
  | s :: p => (n.selected s).flatMap fun e => e.1.matching p

/-! ## One segment -/

/-- Of numbered elements, a condition on the number that one number meets leaves one element. -/
theorem filter_zipIdx {items : List Node} {q : Nat → Bool} {place : Option Nat} {m : Nat}
    (h : ∀ i < items.length, q (m + i) = (place == some i)) :
    ((items.zipIdx m).filter fun e => q e.2).map Prod.fst =
      (place.bind fun k => items[k]?).toList := by
  induction items generalizing place m with
  | nil => cases place <;> rfl
  | cons n items ih =>
    have hhead : q m = (place == some 0) := h 0 (Nat.succ_pos _)
    have htail : ∀ i < items.length, q (m + 1 + i) = (place == some (i + 1)) := by
      intro i hi
      rw [Nat.add_assoc, Nat.add_comm 1 i]
      exact h (i + 1) (Nat.succ_lt_succ hi)
    rw [List.zipIdx_cons, List.filter_cons, hhead]
    rcases place with _ | _ | k
    · exact @ih none (m + 1) htail
    · have hrest := @ih none (m + 1) htail
      simpa using hrest
    · have hrest := @ih (some k) (m + 1) (by simpa using htail)
      simpa using hrest

theorem lookup_eq_findIdx? (entries : List (String × Node)) (name : String) :
    entries.lookup name =
      (entries.findIdx? (·.1 == name)).bind fun k => (entries.map Prod.snd)[k]? := by
  induction entries with
  | nil => rfl
  | cons e entries ih =>
    rw [List.lookup_cons, List.findIdx?_cons, ih]
    by_cases he : e.1 = name
    · simp [he]
    · have hne : (name == e.1) = false := beq_eq_false_iff_ne.mpr fun heq => he heq.symm
      cases entries.findIdx? (·.1 == name) <;> simp [he, hne]

/-- The place to which an index leads, counted from the front. -/
def placeOf (length : Nat) (index : Int) : Option Nat :=
  if 0 ≤ index then some index.toNat
  else if 0 ≤ length + index then some (length + index).toNat
  else none

theorem element?_eq (items : List Node) (k : Int64) :
    element? items k = (placeOf items.length k.toInt).bind fun i => items[i]? := by
  simp only [element?, placeOf]
  split
  · rfl
  · split <;> rfl

theorem placeOf_eq {length i : Nat} (hi : i < length) (index : Int) :
    (index == i || length + index == i) = (placeOf length index == some i) := by
  unfold placeOf
  grind

/-- An index selects at most one element, the one to which it leads. -/
theorem selected_index {n : Node} {k : Int64}
    (h : ∀ i, n.selects (.index k) i = (k.toInt == i || n.children.length + k.toInt == i)) :
    (n.selected (.index k)).map Prod.fst = (element? n.children k).toList := by
  rw [element?_eq]
  refine filter_zipIdx (m := 0) (q := n.selects (.index k)) fun i hi => ?_
  rw [Nat.zero_add, h, placeOf_eq hi]

/-- Walking takes the children that a segment selects. -/
theorem select_eq (n : Node) (s : Segment) :
    descent.select s n = (n.selected s).map Prod.fst := by
  cases s with
  | wildcard =>
    have hall : n.selected .wildcard = n.children.zipIdx :=
      List.filter_eq_self.mpr fun e _ => by cases n <;> rfl
    rw [hall, List.zipIdx_map_fst]
    cases n <;> rfl
  | key name =>
    cases n with
    | mapping entries =>
      have hplace := @filter_zipIdx (entries.map Prod.snd)
        (fun i => entries.findIdx? (·.1 == name) == some i) _ 0 fun i _ => by rw [Nat.zero_add]
      rw [← lookup_eq_findIdx?] at hplace
      refine Eq.trans ?_ hplace.symm
      rw [Descent.select, descent, descendEntries]
      cases entries.lookup name <;> rfl
    | _ => simp [Descent.select, descent, descendItems, Segment.mismatch, selected, selects]
  | index k =>
    cases n with
    | sequence items | stream items =>
      rw [selected_index fun _ => rfl, Descent.select, descent, descendItems, children]
      cases element? items k <;> rfl
    | _ => simp [Descent.select, descent, descendEntries, Segment.mismatch, selected, selects]

/-- A node rejects the segments that select none of its children, except for the wildcard. -/
theorem rejects_iff (n : Node) (s : Segment) :
    descent.rejects s n ↔ s ≠ .wildcard ∧ n.selected s = [] := by
  have hempty : n.selected s = [] ↔ descent.select s n = [] := by
    rw [select_eq, List.map_eq_nil_iff]
  rw [hempty, Descent.rejects, Descent.select]
  cases s with
  | wildcard => cases n <;> simp [descent, descendEntries, descendItems]
  | key name =>
    cases n with
    | mapping entries =>
      rw [descent, descendEntries]
      cases entries.lookup name <;> simp
    | _ => simp [descent, descendItems]
  | index k =>
    cases n with
    | sequence items | stream items =>
      rw [descent, descendItems]
      cases element? items k <;> simp
    | _ => simp [descent, descendEntries]

theorem matching_eq_follow (n : Node) (p : Path) : n.matching p = descent.follow n p := by
  induction p generalizing n with
  | nil => rfl
  | cons s p ih =>
    rw [matching, Descent.follow, select_eq, List.flatMap_map]
    simp only [ih]

/-- The node to which the numbers of children lead. -/
def at? (n : Node) : List Nat → Option Node
  | [] => some n
  | i :: address => n.children[i]?.bind fun child => child.at? address

theorem at?_concat (n : Node) (address : List Nat) (i : Nat) :
    n.at? (address ++ [i]) = (n.at? address).bind fun m => m.children[i]? := by
  induction address generalizing n with
  | nil => cases h : n.children[i]? <;> simp [at?, h]
  | cons j address ih => simp [at?, ih, Option.bind_assoc]

end Node

/-! ## Nodes that know their place -/

/-- A node of a document, and the numbers of the children that lead to it from the root. -/
structure Place where
  address : List Nat
  node : Node

namespace Place

/-- The root of a document at its place. -/
def root (d : Node) : Place := ⟨[], d⟩

/-- A child at its place, given with its number. -/
def child (x : Place) (e : Node × Nat) : Place := ⟨x.address ++ [e.2], e.1⟩

/-- The children to which a segment leads, at their places. -/
def descent : Descent Place := fun x s =>
  (Node.descent x.node s).map fun _ => (x.node.selected s).map x.child

theorem descent_map (x : Place) (s : Segment) :
    Node.descent x.node s = (descent x s).map (List.map Place.node) := by
  rw [descent]
  cases hn : Node.descent x.node s with
  | error e => rfl
  | ok children =>
    have hchildren : children = (x.node.selected s).map Prod.fst := by
      rw [← Node.select_eq, Descent.select_of_ok hn]
    show Except.ok children = Except.ok (((x.node.selected s).map x.child).map Place.node)
    rw [List.map_map, hchildren]
    rfl

theorem select_eq (x : Place) (s : Segment) :
    descent.select s x = (x.node.selected s).map x.child := by
  rw [Descent.select, descent]
  cases hn : Node.descent x.node s with
  | ok children => rfl
  | error e =>
    have hnone : x.node.selected s = [] :=
      ((Node.rejects_iff x.node s).mp (Descent.rejects_iff.mpr ⟨e, hn⟩)).2
    rw [hnone]
    rfl

/-- A walk only goes downwards. -/
theorem address_prefix {x y : Place} {p : Path} (hy : y ∈ descent.follow x p) :
    x.address <+: y.address := by
  induction p generalizing x with
  | nil =>
    cases List.mem_singleton.mp hy
    exact List.prefix_rfl
  | cons s p ih =>
    obtain ⟨c, hc, hy⟩ := List.mem_flatMap.mp hy
    rw [select_eq] at hc
    obtain ⟨e, -, rfl⟩ := List.mem_map.mp hc
    exact (List.prefix_append _ _).trans (ih hy)

theorem pairwise_selected (n : Node) (s : Segment) :
    (n.selected s).Pairwise fun e e' => e.2 ≠ e'.2 := by
  have hnumbers : (n.children.zipIdx.map Prod.snd).Nodup := by
    rw [List.zipIdx_map_snd]
    exact List.nodup_range'
  exact (List.pairwise_map.mp hnumbers).filter _

/-- No walk comes to the same place twice. -/
theorem nodup_addresses (x : Place) (p : Path) :
    ((descent.follow x p).map Place.address).Nodup := by
  induction p generalizing x with
  | nil => exact List.nodup_singleton _
  | cons s p ih =>
    rw [Descent.follow, List.map_flatMap, List.nodup_flatMap, select_eq, List.pairwise_map]
    refine ⟨fun c _ => ih c, (pairwise_selected x.node s).imp ?_⟩
    -- below different children the addresses differ where the children do
    intro e e' hne address he he'
    obtain ⟨y, hy, rfl⟩ := List.mem_map.mp he
    obtain ⟨y', hy', heq⟩ := List.mem_map.mp he'
    have hprefix := address_prefix hy
    have hprefix' := address_prefix hy'
    rw [heq] at hprefix'
    have hsame : x.address ++ [e.2] = x.address ++ [e'.2] :=
      List.prefix_of_prefix_length_le hprefix hprefix' (by simp [child]) |>.eq_of_length
        (by simp [child])
    exact hne (List.singleton_inj.mp (List.append_cancel_left hsame))

/-- The address of a place leads to its node. -/
theorem at?_address {d : Node} {x y : Place} {p : Path} (hx : d.at? x.address = some x.node)
    (hy : y ∈ descent.follow x p) : d.at? y.address = some y.node := by
  induction p generalizing x with
  | nil => rwa [List.mem_singleton.mp hy]
  | cons s p ih =>
    obtain ⟨c, hc, hy⟩ := List.mem_flatMap.mp hy
    rw [select_eq] at hc
    obtain ⟨e, he, rfl⟩ := List.mem_map.mp hc
    refine ih ?_ hy
    rw [child, Node.at?_concat, hx, Option.bind_some]
    exact List.mem_zipIdx_iff_getElem?.mp (List.mem_of_mem_filter he)

/-- A walk through nodes is the same walk through places. -/
theorem exists_of_traverse {d : Node} {p : Path} {ns : List Node}
    (h : Node.descent.traverse [d] p = .ok ns) :
    ∃ places, descent.traverse [root d] p = .ok places ∧ places.map Place.node = ns := by
  have hsame : Node.descent.traverse [d] p = _ := Descent.traverse_map descent_map [root d] p
  rw [h] at hsame
  cases hplaces : descent.traverse [root d] p with
  | error f =>
    rw [hplaces] at hsame
    cases hsame
  | ok places =>
    rw [hplaces] at hsame
    cases hsame
    exact ⟨places, rfl, rfl⟩

end Place

/-! ## Walks -/

/-- A walk that comes to its end finds the nodes that match its path, in document order and each at
a place of its own. It stops short where some nodes match a part of the path and all of them reject
the next segment, gives the reason of the first of them, and then no node matches the path. A node
rejects the segments other than the wildcard that select none of its children. -/
theorem traverse_matching (d : Node) (p : Path) :
    (∀ ns, Node.descent.traverse [d] p = .ok ns →
      ns = d.matching p ∧
        ∃ places, Place.descent.traverse [.root d] p = .ok places ∧
          places.map Place.node = ns ∧ (places.map Place.address).Nodup ∧
          ∀ x ∈ places, d.at? x.address = some x.node) ∧
      (∀ f, Node.descent.traverse [d] p = .error f →
        (∃ s rest first others, p = f.valid ++ s :: rest ∧ f.reached = d.matching f.valid ∧
          (∀ n ∈ f.reached, Node.descent.rejects s n) ∧ f.reached = first :: others ∧
          Node.descent first s = .error f.error) ∧
        d.matching p = []) ∧
      ((∃ f, Node.descent.traverse [d] p = .error f) ↔
        ∃ valid s rest, p = valid ++ s :: rest ∧ d.matching valid ≠ [] ∧
          ∀ n ∈ d.matching valid, Node.descent.rejects s n) ∧
      ∀ n s, Node.descent.rejects s n ↔ s ≠ .wildcard ∧ n.selected s = [] := by
  have hreach : ∀ q, Node.descent.reach [d] q = d.matching q := by
    intro q
    rw [Descent.reach_singleton, Node.matching_eq_follow]
  refine ⟨?_, ?_, ?_, Node.rejects_iff⟩
  · intro ns hns
    refine ⟨(Descent.traverse_eq_ok hns).trans (hreach p), ?_⟩
    obtain ⟨places, hplaces, rfl⟩ := Place.exists_of_traverse hns
    have hfollow : places = Place.descent.follow (.root d) p :=
      (Descent.traverse_eq_ok hplaces).trans (Descent.reach_singleton _ _ _)
    refine ⟨places, hplaces, rfl, ?_, ?_⟩
    · rw [hfollow]
      exact Place.nodup_addresses _ p
    · intro x hx
      rw [hfollow] at hx
      exact Place.at?_address rfl hx
  · intro f hf
    obtain ⟨s, rest, first, others, hp, hreached, hblocked, hfirst, he⟩ :=
      Descent.traverse_eq_error hf
    rw [hreach] at hreached
    refine ⟨⟨s, rest, first, others, hp, hreached, hblocked.2, hfirst, he⟩, ?_⟩
    rw [hreached, ← hreach] at hblocked
    rw [← hreach, hp]
    exact Descent.reach_of_blocked rest hblocked
  · constructor
    · rintro ⟨f, hf⟩
      obtain ⟨s, rest, -, -, hp, hreached, hblocked, -, -⟩ := Descent.traverse_eq_error hf
      rw [hreached, hreach] at hblocked
      exact ⟨f.valid, s, rest, hp, hblocked⟩
    · rintro ⟨valid, s, rest, rfl, hblocked⟩
      refine Descent.exists_error_of_blocked rest ?_
      rw [hreach]
      exact hblocked

/-- The last element of each list, where one child is no list, and a key in texts that stand at two
places. -/
theorem traverse_matching_last :
    let d : Node := .mapping [("a", .sequence [.string "x", .string "x"]), ("b", .null)]
    let p : Path := [.wildcard, .index (-1)]
    let q : Path := [.key "a", .wildcard, .key "x", .wildcard]
    let f : TraversalFailure Node :=
      ⟨[.key "a", .wildcard], [.string "x", .string "x"], .notAMap "x" "string"⟩
    Node.descent.traverse [d] p = .ok [.string "x"] ∧
      ([.string "x"] = d.matching p ∧
        ∃ places, Place.descent.traverse [.root d] p = .ok places ∧
          places.map Place.node = [.string "x"] ∧ (places.map Place.address).Nodup ∧
          ∀ x ∈ places, d.at? x.address = some x.node) ∧
      Node.descent.traverse [d] q = .error f ∧ d.matching q = [] := by
  intro d p q f
  have hp : Node.descent.traverse [d] p = .ok [.string "x"] := rfl
  have hq : Node.descent.traverse [d] q = .error f := rfl
  exact ⟨hp, (traverse_matching d p).1 _ hp, hq, ((traverse_matching d q).2.1 f hq).2⟩

end TypedYaml
