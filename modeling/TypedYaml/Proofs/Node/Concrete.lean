import TypedYaml.Node
import TypedYaml.Proofs.Navigation
import Mathlib.Algebra.Group.Nat.Defs

/-!
# Concrete paths in a document

A path without wildcards and negative indices names at most one position of a document. Walking
along it therefore passes through single nodes, and each step leads to an entry of a mapping, an
element of a sequence or a document of a stream.

* `Node.WellFormed`: the documents that can be held in memory.
* `Segment.IsConcrete`, `Path.IsConcrete`: the paths that name one position.
* `Node.Leads`: the steps between nodes; `traverse_cons_eq_ok` splits a walk into them.
* `exists_of_traverse_append`: a walk passes through a single node at every split of its path.
* `Node.NoStreamAbove`: no stream is passed on the way to a position.
-/

namespace TypedYaml

namespace Node

/-- Whether a node holds several documents. Reading makes a stream at the root only. -/
def isStream : Node → Bool
  | .stream _ => true
  | _ => false

/-- The keys of a mapping differ from each other, and a list has fewer elements than there are
indices. -/
inductive WellFormed : Node → Prop
  | scalar {n : Node} (hn : n.isScalar) : WellFormed n
  | mapping {entries : List (String × Node)} (hkeys : (entries.map Prod.fst).Nodup)
      (hvalues : ∀ e ∈ entries, WellFormed e.2) : WellFormed (.mapping entries)
  | sequence {items : List Node} (hlength : items.length < 2 ^ 63)
      (hitems : ∀ n ∈ items, WellFormed n) : WellFormed (.sequence items)
  | stream {documents : List Node} (hlength : documents.length < 2 ^ 63)
      (hdocuments : ∀ n ∈ documents, WellFormed n) : WellFormed (.stream documents)

@[simp] theorem wellFormed_mapping {entries : List (String × Node)} :
    (mapping entries).WellFormed ↔
      (entries.map Prod.fst).Nodup ∧ ∀ e ∈ entries, e.2.WellFormed := by
  constructor
  · intro h
    cases h with
    | scalar hn => cases hn
    | mapping hkeys hvalues => exact ⟨hkeys, hvalues⟩
  · exact fun h => .mapping h.1 h.2

@[simp] theorem wellFormed_sequence {items : List Node} :
    (sequence items).WellFormed ↔ items.length < 2 ^ 63 ∧ ∀ n ∈ items, n.WellFormed := by
  constructor
  · intro h
    cases h with
    | scalar hn => cases hn
    | sequence hlength hitems => exact ⟨hlength, hitems⟩
  · exact fun h => .sequence h.1 h.2

@[simp] theorem wellFormed_stream {documents : List Node} :
    (stream documents).WellFormed ↔ documents.length < 2 ^ 63 ∧ ∀ n ∈ documents, n.WellFormed := by
  constructor
  · intro h
    cases h with
    | scalar hn => cases hn
    | stream hlength hdocuments => exact ⟨hlength, hdocuments⟩
  · exact fun h => .stream h.1 h.2

@[simp] theorem wellFormed_null : null.WellFormed := .scalar rfl

@[simp] theorem wellFormed_number (n : Number) : (number n).WellFormed := .scalar rfl

@[simp] theorem wellFormed_string (s : String) : (string s).WellFormed := .scalar rfl

end Node

/-- The segment says which child is meant without looking at the node. -/
def Segment.IsConcrete : Segment → Prop
  | .key _ => True
  | .index i => 0 ≤ i.toInt
  | .wildcard => False

/-- The path leads to one position at most. -/
def Path.IsConcrete (p : Path) : Prop := ∀ s ∈ p, s.IsConcrete

theorem Path.IsConcrete.head {s : Segment} {p : Path} (h : Path.IsConcrete (s :: p)) :
    s.IsConcrete := h s List.mem_cons_self

theorem Path.IsConcrete.tail {s : Segment} {p : Path} (h : Path.IsConcrete (s :: p)) :
    Path.IsConcrete p := fun t ht => h t (List.mem_cons_of_mem s ht)

theorem Path.IsConcrete.left {p q : Path} (h : Path.IsConcrete (p ++ q)) : Path.IsConcrete p :=
  fun s hs => h s (List.mem_append_left q hs)

theorem Path.IsConcrete.right {p q : Path} (h : Path.IsConcrete (p ++ q)) : Path.IsConcrete q :=
  fun s hs => h s (List.mem_append_right p hs)

/-! ## Steps between nodes -/

namespace Node

/-- A segment leads from a node to one of its children. -/
inductive Leads : Node → Segment → Node → Prop
  | entry {entries : List (String × Node)} {name : String} {child : Node}
      (h : entries.lookup name = some child) : Leads (.mapping entries) (.key name) child
  | element {items : List Node} {i : Nat} {child : Node} (h : items[i]? = some child) :
      Leads (.sequence items) (.index (Int64.ofNat i)) child
  | document {documents : List Node} {i : Nat} {child : Node}
      (h : documents[i]? = some child) :
      Leads (.stream documents) (.index (Int64.ofNat i)) child

/-- An index that does not count from the end is the place it names. -/
theorem element?_of_nonneg {items : List Node} {i : Int64} {child : Node} (hi : 0 ≤ i.toInt)
    (h : element? items i = some child) :
    ∃ k : Nat, i = Int64.ofNat k ∧ items[k]? = some child := by
  refine ⟨i.toInt.toNat, ?_, ?_⟩
  · rw [← Int64.ofInt_eq_ofNat, Int.toNat_of_nonneg hi, Int64.ofInt_toInt]
  · simpa only [element?, if_pos hi] using h

/-- A step of a concrete walk leads to one child. -/
theorem leads_of_descent {n : Node} {s : Segment} {ms : List Node} (hs : s.IsConcrete)
    (h : descent n s = .ok ms) : ∃ m, ms = [m] ∧ n.Leads s m := by
  cases s with
  | wildcard => exact absurd hs (by simp [Segment.IsConcrete])
  | key name =>
    cases n with
    | mapping entries =>
      simp only [descent, descendEntries] at h
      split at h
      · next child hc =>
        cases h
        exact ⟨child, rfl, .entry hc⟩
      · cases h
    | _ => cases h
  | index i =>
    have hi : 0 ≤ i.toInt := hs
    cases n with
    | sequence items =>
      simp only [descent, descendItems] at h
      split at h
      · next child hc =>
        cases h
        obtain ⟨k, rfl, hk⟩ := element?_of_nonneg hi hc
        exact ⟨child, rfl, .element hk⟩
      · cases h
    | stream documents =>
      simp only [descent, descendItems] at h
      split at h
      · next child hc =>
        cases h
        obtain ⟨k, rfl, hk⟩ := element?_of_nonneg hi hc
        exact ⟨child, rfl, .document hk⟩
      · cases h
    | _ => cases h

theorem Leads.wellFormed {n m : Node} {s : Segment} (hm : n.Leads s m) (hn : n.WellFormed) :
    m.WellFormed := by
  cases hm with
  | entry hchild => exact (wellFormed_mapping.mp hn).2 _ (mem_of_lookup hchild)
  | element hchild => exact (wellFormed_sequence.mp hn).2 _ (List.mem_of_getElem? hchild)
  | document hchild => exact (wellFormed_stream.mp hn).2 _ (List.mem_of_getElem? hchild)

end Node

namespace Node

theorem element?_ofNat {items : List Node} {i : Nat} {child : Node}
    (hlength : items.length < 2 ^ 63) (h : items[i]? = some child) :
    element? items (Int64.ofNat i) = some child := by
  have hi : i < items.length := (List.getElem?_eq_some_iff.mp h).1
  have hint : (Int64.ofNat i).toInt = i := Int64.toInt_ofNat_of_lt (by omega)
  simp [element?, hint, h]

/-- A step to a child is a step of a walk, which leads nowhere else. -/
theorem Leads.descent {n m : Node} {s : Segment} (hm : n.Leads s m) (hn : n.WellFormed) :
    n.descent s = .ok [m] := by
  cases hm with
  | entry hchild => simp only [Node.descent, descendEntries, hchild]
  | element hchild =>
    have hlength := (wellFormed_sequence.mp hn).1
    simp only [Node.descent, descendItems, element?_ofNat hlength hchild]
  | document hchild =>
    have hlength := (wellFormed_stream.mp hn).1
    simp only [Node.descent, descendItems, element?_ofNat hlength hchild]

theorem Leads.unique {n m m' : Node} {s : Segment} (hn : n.WellFormed) (hm : n.Leads s m)
    (hm' : n.Leads s m') : m = m' := by
  have hsame := (hm.descent hn).symm.trans (hm'.descent hn)
  cases hsame
  rfl

end Node

/-! ## Walks -/

namespace Node

theorem traverse_cons_eq_ok {n : Node} {s : Segment} {p : Path} {ms : List Node}
    (hs : s.IsConcrete) (h : descent.traverse [n] (s :: p) = .ok ms) :
    ∃ m, n.Leads s m ∧ descent n s = .ok [m] ∧ descent.traverse [m] p = .ok ms := by
  rw [Descent.traverse, Descent.step_singleton] at h
  cases hd : descent n s with
  | error e =>
    rw [hd] at h
    cases h
  | ok children =>
    rw [hd] at h
    obtain ⟨m, rfl, hm⟩ := leads_of_descent hs hd
    exact ⟨m, hm, rfl, mapError_eq_ok h⟩

theorem traverse_cons_of_descent {n m : Node} {s : Segment} (p : Path)
    (h : descent n s = .ok [m]) :
    descent.traverse [n] (s :: p) = (descent.traverse [m] p).mapError (.under s) := by
  rw [Descent.traverse, Descent.step_singleton, h]

/-- A concrete walk passes through one node at every split of its path. -/
theorem exists_of_traverse_append {n : Node} {p q : Path} {ms : List Node} (hp : p.IsConcrete)
    (h : descent.traverse [n] (p ++ q) = .ok ms) :
    ∃ m, descent.traverse [n] p = .ok [m] ∧ descent.traverse [m] q = .ok ms := by
  induction p generalizing n with
  | nil => exact ⟨n, rfl, h⟩
  | cons s p ih =>
    obtain ⟨k, -, hk, hrest⟩ := traverse_cons_eq_ok hp.head h
    obtain ⟨m, hm, hq⟩ := ih hp.tail hrest
    refine ⟨m, ?_, hq⟩
    rw [traverse_cons_of_descent p hk, hm]
    rfl

/-! ## Streams on the way -/

/-- No stream is passed on the way to a position. -/
def NoStreamAbove (n : Node) (p : Path) : Prop :=
  ∀ q, q <+: p → q ≠ p → ∀ documents, descent.traverse [n] q ≠ .ok [.stream documents]

theorem noStreamAbove_nil (n : Node) : n.NoStreamAbove [] :=
  fun _ hq hne => absurd (List.prefix_nil.mp hq) hne

theorem NoStreamAbove.cons {n m : Node} {s : Segment} {p : Path} (hn : n.isStream = false)
    (hm : descent n s = .ok [m]) (h : m.NoStreamAbove p) : n.NoStreamAbove (s :: p) := by
  intro q hq hne documents ht
  cases q with
  | nil =>
    cases ht
    cases hn
  | cons s' q =>
    obtain ⟨rfl, hqp⟩ := List.cons_prefix_cons.mp hq
    rw [traverse_cons_of_descent q hm] at ht
    exact h q hqp (fun heq => hne (congrArg (s' :: ·) heq)) documents (mapError_eq_ok ht)

theorem NoStreamAbove.head {n : Node} {s : Segment} {p : Path} (h : n.NoStreamAbove (s :: p)) :
    n.isStream = false := by
  cases n with
  | stream documents =>
    exact absurd rfl (h [] (List.nil_prefix) (List.cons_ne_nil s p).symm documents)
  | _ => rfl

theorem NoStreamAbove.tail {n m : Node} {s : Segment} {p : Path} (h : n.NoStreamAbove (s :: p))
    (hm : descent n s = .ok [m]) : m.NoStreamAbove p := by
  intro q hq hne documents hstream
  refine h (s :: q) (List.cons_prefix_cons.mpr ⟨rfl, hq⟩) ?_ documents ?_
  · exact fun heq => hne (List.cons.inj heq).2
  · rw [traverse_cons_of_descent q hm, hstream]
    rfl

end Node

end TypedYaml
