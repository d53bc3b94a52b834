import TypedYaml.Check
import TypedYaml.Proofs.Node.Concrete
import TypedYaml.Proofs.Schema.Resolution
import Mathlib.Data.List.Nodup

/-!
# Checking is local

What is reported about a position depends on the node there and on the type that the schema
expects there, and on nothing else of the document. The type is the one that `resolve` finds, and
the node is the one that `traverse` finds.

The diagnostics of a mapping and of a list are those of the children, one after the other, each
under its own segment (`checkEntries_eq`, `checkItems_eq`). The segments differ, so only one child
reports below a given one (`filter_flatMap_under`), and the rest is an induction on the path.

A warning about a deprecated property stands at the position of its value, but belongs to the
mapping that holds it. It is left out of what concerns the value.

* `Diagnostic.concerns`: the diagnostics of a position.
* `check_concerns`: below a node.
* `validate_concerns`: in a document, and in the documents of a stream.
-/

namespace TypedYaml

/-- The problem is that a property is deprecated. -/
def Problem.isDeprecation : Problem → Bool
  | .deprecated .. => true
  | _ => false

namespace Diagnostic

/-- A diagnostic at the position or below it, other than the warning that the property which leads
there is deprecated. -/
def concerns (p : Path) (d : Diagnostic) : Bool :=
  decide (p <+: d.path) && !(d.path == p && d.problem.isDeprecation)

/-- Nothing but a deprecation is worth no more than a warning. -/
theorem isError_eq (d : Diagnostic) : d.isError = !d.problem.isDeprecation := by
  obtain ⟨p, problem⟩ := d
  cases problem <;> rfl

/-- The same problem seen from further up. -/
def beneath (p : Path) (d : Diagnostic) : Diagnostic := { d with path := p ++ d.path }

theorem concerns_under_self (s : Segment) (p : Path) (d : Diagnostic) :
    (d.under s).concerns (s :: p) = d.concerns p := by
  simp [concerns, under, List.cons_prefix_cons]

theorem concerns_under_of_ne {s t : Segment} (h : s ≠ t) (p : Path) (d : Diagnostic) :
    (d.under t).concerns (s :: p) = false := by
  simp [concerns, under, List.cons_prefix_cons, h]

end Diagnostic

/-! ## Diagnostics under different segments -/

/-- What is selected of a child's diagnostics does not depend on where they are seen from, if the
condition does not. -/
theorem filter_under {P Q : Diagnostic → Bool} {s : Segment} (h : ∀ d, P (d.under s) = Q d)
    (ds : List Diagnostic) : (ds.map (.under s)).filter P = (ds.filter Q).map (.under s) := by
  rw [List.filter_map]
  congr 2
  funext d
  exact h d

theorem filter_map_under (ds : List Diagnostic) (s : Segment) (p : Path) :
    (ds.map (.under s)).filter (Diagnostic.concerns (s :: p)) =
      (ds.filter (Diagnostic.concerns p)).map (.under s) :=
  filter_under (Diagnostic.concerns_under_self s p) ds

theorem filter_map_under_of_ne (ds : List Diagnostic) {s t : Segment} (h : s ≠ t) (p : Path) :
    (ds.map (.under t)).filter (Diagnostic.concerns (s :: p)) = [] := by
  rw [List.filter_map, List.map_eq_nil_iff, List.filter_eq_nil_iff]
  intro d _
  simp [Diagnostic.concerns_under_of_ne h]

/-- Of children under different segments, only one reports below its segment. -/
theorem filter_flatMap_under {α : Type} {children : List α} {segment : α → Segment}
    (report : α → List Diagnostic) (hnodup : (children.map segment).Nodup) {x : α}
    (hx : x ∈ children) (p : Path) :
    (children.flatMap fun y => (report y).map (.under (segment y))).filter
        (Diagnostic.concerns (segment x :: p)) =
      ((report x).filter (Diagnostic.concerns p)).map (.under (segment x)) := by
  induction children with
  | nil => cases hx
  | cons y children ih =>
    rw [List.map_cons, List.nodup_cons] at hnodup
    rw [List.flatMap_cons, List.filter_append]
    by_cases hxy : segment x = segment y
    · -- the other children stand under other segments
      have hrest : (children.flatMap fun y => (report y).map (.under (segment y))).filter
          (Diagnostic.concerns (segment x :: p)) = [] := by
        rw [List.filter_flatMap, List.flatMap_eq_nil_iff]
        intro z hz
        refine filter_map_under_of_ne _ (fun heq => hnodup.1 ?_) p
        rw [← hxy, heq]
        exact List.mem_map_of_mem hz
      have hsame : x = y := by
        rcases List.mem_cons.mp hx with rfl | hmem
        · rfl
        · exact absurd (hxy ▸ List.mem_map_of_mem hmem) hnodup.1
      subst hsame
      rw [hrest, List.append_nil, filter_map_under]
    · have hmem : x ∈ children := by
        rcases List.mem_cons.mp hx with rfl | hmem
        · exact absurd rfl hxy
        · exact hmem
      rw [filter_map_under_of_ne _ hxy, List.nil_append, ih hnodup.2 hmem]

namespace Registry

variable {r : Registry} {o : CheckOptions}

/-! ## The check of a node -/

/-- The kind of the type decides first what is looked for, and then the node whether it is
there. -/
theorem check_eq (t : TypeId) (n : Node) :
    r.check o t n =
      match n, r.kind t with
      | .null, _ => []
      | _, .unknown => []
      | n, .atomic => r.checkScalar t n
      | .sequence items, .sequence element => r.checkItems o element 0 items
      | n, .sequence element => r.checkShorthand t element n
      | .mapping entries, _ => r.checkEntries o t entries
      | n, _ => [⟨[], .expectedMap (r.typeName t) n.kindName⟩] := by
  cases n <;> cases hk : r.kind t <;>
    simp [check, hk, checkScalar, checkShorthand, Node.scalarText?, Node.isScalar,
      Node.isMapping, Node.isSequence, Node.kindName]

/-! ## The children of a mapping and of a list -/

/-- The diagnostics of an entry, with paths from its value. -/
def checkEntry (r : Registry) (o : CheckOptions) (t : TypeId) (key : String) (value : Node) :
    List Diagnostic :=
  match r.entryType t key with
  | .property p => deprecations o p ++ r.check o p.type value
  | .value u => r.check o u value
  | .undeclared => [⟨[], .unknownProperty key (r.typeName t)⟩]

/-- Values about which the same is reported, in some respect, are the same in this respect as values
of an entry. -/
theorem checkEntry_congr {F : List Diagnostic → List Diagnostic}
    (hF : ∀ ds es, F (ds ++ es) = F ds ++ F es) {value value' : Node}
    (h : ∀ u, F (r.check o u value) = F (r.check o u value')) (t : TypeId) (key : String) :
    F (r.checkEntry o t key value) = F (r.checkEntry o t key value') := by
  unfold checkEntry
  cases r.entryType t key with
  | property p => simp only [hF, h p.type]
  | value u => exact h u
  | undeclared => rfl

/-- An undeclared entry of a bean is reported unless its key stands for a path. -/
theorem checkEntry_of_undeclared {t : TypeId} {key : String} (hk : r.kind t = .bean)
    (hp : (r.descriptor t).property? key = none) (value : Node) :
    r.checkEntry o t key value =
      match r.resolveDotted? t key with
      | some u => r.check o u value
      | none => [⟨[], .unknownProperty key (r.typeName t)⟩] := by
  cases hd : r.resolveDotted? t key <;> simp [checkEntry, entryType, hp, isOpenMap, hk, hd]

theorem checkEntries_cons (t : TypeId) (key : String) (value : Node)
    (rest : List (String × Node)) :
    r.checkEntries o t ((key, value) :: rest) =
      (r.checkEntry o t key value).map (.under (.key key)) ++ r.checkEntries o t rest := by
  rw [checkEntries]
  rfl

theorem checkEntries_eq (t : TypeId) (entries : List (String × Node)) :
    r.checkEntries o t entries =
      entries.flatMap fun e => (r.checkEntry o t e.1 e.2).map (.under (.key e.1)) := by
  induction entries with
  | nil => rfl
  | cons e entries ih => rw [checkEntries_cons, ih, List.flatMap_cons]

theorem checkItems_eq (element : TypeId) (i : Nat) (items : List Node) :
    r.checkItems o element i items =
      (items.zipIdx i).flatMap fun e =>
        (r.check o element e.1).map (.under (indexSegment e.2)) := by
  induction items generalizing i with
  | nil => rfl
  | cons n items ih =>
    rw [checkItems, ih, List.zipIdx_cons, List.flatMap_cons]

theorem indexSegment_inj {i j : Nat} (hi : i < 2 ^ 63) (hj : j < 2 ^ 63)
    (h : indexSegment i = indexSegment j) : i = j := by
  have hint := congrArg Int64.toInt (Segment.index.inj h)
  rw [Int64.toInt_ofNat_of_lt hi, Int64.toInt_ofNat_of_lt hj] at hint
  exact Int.ofNat_inj.mp hint

theorem nodup_indexSegments {items : List Node} (h : items.length < 2 ^ 63) :
    (items.zipIdx.map fun e => indexSegment e.2).Nodup := by
  have hmap : (items.zipIdx.map fun e => indexSegment e.2) =
      (List.range' 0 items.length).map indexSegment := by
    rw [← List.zipIdx_map_snd 0 items, List.map_map]
    rfl
  rw [hmap]
  refine List.Nodup.map_on ?_ List.nodup_range'
  intro i hi j hj heq
  rw [List.mem_range'_1] at hi hj
  exact indexSegment_inj (by omega) (by omega) heq

theorem checkEntries_concerns {entries : List (String × Node)} {key : String} {value : Node}
    (hkeys : (entries.map Prod.fst).Nodup) (h : entries.lookup key = some value) (t : TypeId)
    (p : Path) :
    (r.checkEntries o t entries).filter (Diagnostic.concerns (.key key :: p)) =
      ((r.checkEntry o t key value).filter (Diagnostic.concerns p)).map (.under (.key key)) := by
  have hmem : (key, value) ∈ entries := mem_of_lookup h
  have hnodup : (entries.map fun e => Segment.key e.1).Nodup := by
    have hmap : (entries.map fun e => Segment.key e.1) = (entries.map Prod.fst).map .key := by
      rw [List.map_map]
      rfl
    rw [hmap]
    exact hkeys.map fun _ _ heq => Segment.key.inj heq
  rw [checkEntries_eq]
  exact filter_flatMap_under (fun e => r.checkEntry o t e.1 e.2) hnodup hmem p

theorem checkItems_concerns {items : List Node} {i : Nat} {item : Node}
    (hlength : items.length < 2 ^ 63) (h : items[i]? = some item) (element : TypeId) (p : Path) :
    (r.checkItems o element 0 items).filter (Diagnostic.concerns (indexSegment i :: p)) =
      ((r.check o element item).filter (Diagnostic.concerns p)).map
        (.under (indexSegment i)) := by
  have hmem : (item, i) ∈ items.zipIdx := List.mk_mem_zipIdx_iff_getElem?.mpr h
  rw [checkItems_eq]
  exact filter_flatMap_under (fun e => r.check o element e.1) (nodup_indexSegments hlength) hmem p

/-! ## One step -/

theorem of_mem_deprecations {property : Property} {d : Diagnostic}
    (hd : d ∈ deprecations o property) : d.path = [] ∧ d.problem.isDeprecation := by
  unfold deprecations at hd
  split at hd
  · split at hd
    · rw [List.mem_singleton] at hd
      subst hd
      exact ⟨rfl, rfl⟩
    · cases hd
  · cases hd

theorem filter_deprecations (property : Property) (p : Path) :
    (deprecations o property).filter (Diagnostic.concerns p) = [] := by
  rw [List.filter_eq_nil_iff]
  intro d hd
  obtain ⟨hpath, hdeprecation⟩ := of_mem_deprecations hd
  cases p <;> simp [Diagnostic.concerns, hpath, hdeprecation]

/-- The type of an entry is the one to which its key leads. A dotted key that stands for a path
leads nowhere as a key. -/
theorem entryType_of_next {t u : TypeId} {key : String} (h : r.next t (.key key) = .ok u) :
    (∃ p, r.entryType t key = .property p ∧ p.type = u) ∨ r.entryType t key = .value u := by
  rw [next_eq] at h
  cases hp : (r.descriptor t).property? key with
  | some p =>
    refine Or.inl ⟨p, by rw [entryType, hp], ?_⟩
    cases hk : r.kind t <;> simp only [hk, hp] at h <;> cases h
    all_goals rfl
  | none =>
    refine Or.inr ?_
    cases hk : r.kind t <;> simp only [hk, hp] at h <;> cases h
    simp [entryType, hp, isOpenMap, domain, hk]

theorem checkEntry_concerns {t u : TypeId} {key : String} (h : r.next t (.key key) = .ok u)
    (value : Node) (p : Path) :
    (r.checkEntry o t key value).filter (Diagnostic.concerns p) =
      (r.check o u value).filter (Diagnostic.concerns p) := by
  rcases entryType_of_next h with ⟨property, hp, rfl⟩ | hv
  · rw [checkEntry, hp]
    show (deprecations o property ++ r.check o property.type value).filter _ = _
    rw [List.filter_append, filter_deprecations, List.nil_append]
  · rw [checkEntry, hv]

theorem check_mapping {t u : TypeId} {key : String} (h : r.next t (.key key) = .ok u)
    (entries : List (String × Node)) :
    r.check o t (.mapping entries) = r.checkEntries o t entries := by
  rw [next_eq] at h
  rw [check_eq]
  cases hk : r.kind t <;> simp only [hk] at h ⊢ <;> cases h

theorem check_sequence {t u : TypeId} {i : Int64} (h : r.next t (.index i) = .ok u)
    (items : List Node) : r.check o t (.sequence items) = r.checkItems o u 0 items := by
  rw [next_eq] at h
  rw [check_eq]
  cases hk : r.kind t <;> simp only [hk] at h ⊢ <;> cases h
  rfl

/-- What is reported below a segment is what the child reports there. -/
theorem check_concerns_of_leads {n m : Node} {s : Segment} {t u : TypeId} (hn : n.WellFormed)
    (hstream : n.isStream = false) (hm : n.Leads s m) (hu : r.next t s = .ok u) (p : Path) :
    (r.check o t n).filter (Diagnostic.concerns (s :: p)) =
      ((r.check o u m).filter (Diagnostic.concerns p)).map (.under s) := by
  cases hm with
  | entry hchild =>
    have hkeys := (Node.wellFormed_mapping.mp hn).1
    rw [check_mapping hu, checkEntries_concerns hkeys hchild, checkEntry_concerns hu]
  | element hchild =>
    have hlength := (Node.wellFormed_sequence.mp hn).1
    rw [check_sequence hu]
    exact checkItems_concerns hlength hchild u p
  | document hchild => cases hstream

/-! ## Whole paths -/

/-- Only a warning about deprecation at the root does not concern the root, and there is none. -/
theorem concerns_root_under (s : Segment) (d : Diagnostic) : (d.under s).concerns [] := by
  simp [Diagnostic.concerns, Diagnostic.under]

theorem checkScalar_concerns_root {t : TypeId} {n : Node} {d : Diagnostic}
    (hd : d ∈ r.checkScalar t n) : d.concerns [] := by
  unfold checkScalar at hd
  split at hd
  · rw [List.mem_singleton] at hd
    subst hd
    rfl
  · split at hd
    · cases hd
    · rw [List.mem_singleton] at hd
      subst hd
      rfl

theorem checkShorthand_concerns_root {t element : TypeId} {n : Node} {d : Diagnostic}
    (hd : d ∈ r.checkShorthand t element n) : d.concerns [] := by
  unfold checkShorthand at hd
  split at hd
  · split at hd
    · rw [checkParts, List.mem_flatten] at hd
      obtain ⟨ds, hds, hd⟩ := hd
      obtain ⟨e, -, rfl⟩ := List.mem_map.mp hds
      obtain ⟨c, -, rfl⟩ := List.mem_map.mp hd
      exact concerns_root_under _ c
    · obtain ⟨c, -, rfl⟩ := List.mem_map.mp hd
      exact concerns_root_under _ c
  · rw [List.mem_singleton] at hd
    subst hd
    rfl

theorem checkEntries_concerns_root {t : TypeId} {entries : List (String × Node)} {d : Diagnostic}
    (hd : d ∈ r.checkEntries o t entries) : d.concerns [] := by
  rw [checkEntries_eq] at hd
  obtain ⟨e, -, hd⟩ := List.mem_flatMap.mp hd
  obtain ⟨c, -, rfl⟩ := List.mem_map.mp hd
  exact concerns_root_under _ c

theorem checkItems_concerns_root {element : TypeId} {i : Nat} {items : List Node} {d : Diagnostic}
    (hd : d ∈ r.checkItems o element i items) : d.concerns [] := by
  rw [checkItems_eq] at hd
  obtain ⟨e, -, hd⟩ := List.mem_flatMap.mp hd
  obtain ⟨c, -, rfl⟩ := List.mem_map.mp hd
  exact concerns_root_under _ c

theorem check_concerns_root {t : TypeId} {n : Node} {d : Diagnostic} (hd : d ∈ r.check o t n) :
    d.concerns [] := by
  rw [check_eq] at hd
  split at hd
  · cases hd
  · cases hd
  · exact checkScalar_concerns_root hd
  · exact checkItems_concerns_root hd
  · exact checkShorthand_concerns_root hd
  · exact checkEntries_concerns_root hd
  · rw [List.mem_singleton] at hd
    subst hd
    rfl

/-- What is reported about a position is what its own node and type report. -/
theorem check_concerns {n m : Node} {p : Path} {t u : TypeId} (hn : n.WellFormed)
    (hp : p.IsConcrete) (hm : Node.descent.traverse [n] p = .ok [m])
    (hu : r.resolve t p = .ok u) (hstream : n.NoStreamAbove p) :
    (r.check o t n).filter (Diagnostic.concerns p) = (r.check o u m).map (.beneath p) := by
  induction p generalizing n t with
  | nil =>
    cases hm
    cases hu
    rw [List.filter_eq_self.mpr fun d hd => check_concerns_root hd]
    exact (List.map_id _).symm
  | cons s p ih =>
    obtain ⟨k, hleads, hk, hrest⟩ := Node.traverse_cons_eq_ok hp.head hm
    obtain ⟨v, hv, hresolve⟩ := resolve_cons_eq_ok hu
    rw [check_concerns_of_leads hn hstream.head hleads hv,
      ih (hleads.wellFormed hn) hp.tail hrest hresolve (hstream.tail hk), List.map_map]
    rfl

theorem validate_eq_check {n : Node} (h : n.isStream = false) (t : TypeId) :
    r.validate o t n = r.check o t n := by
  cases n with
  | stream documents => cases h
  | _ => rfl

end Registry

/-- What is reported about a position of a document is what is reported about the node there as a
document of its own, checked against the type to which the path resolves. In a stream the same
holds of each document, under its index. -/
theorem validate_concerns (r : Registry) (o : CheckOptions) {root t : TypeId} {p : Path}
    (hp : p.IsConcrete) (ht : r.resolve root p = .ok t) :
    (∀ doc n : Node, doc.WellFormed → doc.isStream = false → doc.NoStreamAbove p →
        Node.descent.traverse [doc] p = .ok [n] → n.isStream = false →
        (r.validate o root doc).filter (Diagnostic.concerns p) =
          (r.validate o t n).map (.beneath p)) ∧
      ∀ (documents : List Node) (i : Nat) (doc n : Node), (Node.stream documents).WellFormed →
        documents[i]? = some doc → doc.NoStreamAbove p →
        Node.descent.traverse [doc] p = .ok [n] → n.isStream = false →
        (r.validate o root (.stream documents)).filter
            (Diagnostic.concerns (Registry.indexSegment i :: p)) =
          (r.validate o t n).map (.beneath (Registry.indexSegment i :: p)) := by
  constructor
  · intro doc n hdoc hstream habove hn hnstream
    rw [Registry.validate_eq_check hstream, Registry.validate_eq_check hnstream]
    exact Registry.check_concerns hdoc hp hn ht habove
  · intro documents i doc n hdocs hi habove hn hnstream
    obtain ⟨hlength, hdocuments⟩ := Node.wellFormed_stream.mp hdocs
    have hdoc := hdocuments doc (List.mem_of_getElem? hi)
    rw [Registry.validate, Registry.checkItems_concerns hlength hi,
      Registry.check_concerns hdoc hp hn ht habove, Registry.validate_eq_check hnstream,
      List.map_map]
    rfl

/-- A deprecated property of the wrong type, and an undeclared one, in a document and in the second
document of a stream. -/
theorem validate_concerns_port :
    let b := ((Builder.new.bean "Server").2.addProperty ⟨5⟩
      ⟨"port", .integer, none, some ⟨none, none⟩⟩).2
    let doc : Node := .mapping [("host", .null), ("port", .string "eighty")]
    let p : Path := [.key "port"]
    p.IsConcrete ∧ b.build.resolve ⟨5⟩ p = .ok .integer ∧ doc.WellFormed ∧
      Node.descent.traverse [doc] p = .ok [.string "eighty"] ∧ doc.NoStreamAbove p ∧
      (b.build.validate ⟨true⟩ ⟨5⟩ doc).filter (Diagnostic.concerns p) =
        (b.build.validate ⟨true⟩ .integer (.string "eighty")).map (.beneath p) ∧
      (b.build.validate ⟨true⟩ ⟨5⟩ (.stream [.null, doc])).filter
          (Diagnostic.concerns (Registry.indexSegment 1 :: p)) =
        (b.build.validate ⟨true⟩ .integer (.string "eighty")).map
          (.beneath (Registry.indexSegment 1 :: p)) := by
  intro b doc p
  have hp : p.IsConcrete := by simp [p, Path.IsConcrete, Segment.IsConcrete]
  have ht : b.build.resolve ⟨5⟩ p = .ok .integer := rfl
  have hdoc : doc.WellFormed := by simp [doc]
  have hn : Node.descent.traverse [doc] p = .ok [.string "eighty"] := rfl
  have habove : doc.NoStreamAbove p := .cons rfl rfl (Node.noStreamAbove_nil _)
  have hdocs : (Node.stream [.null, doc]).WellFormed := by simp [doc]
  have hlocal := validate_concerns b.build ⟨true⟩ hp ht
  exact ⟨hp, ht, hdoc, hn, habove, hlocal.1 doc _ hdoc rfl habove hn rfl,
    hlocal.2 _ 1 doc _ hdocs rfl habove hn rfl⟩

/-- A list in a stream in a list: the stream is no list, so nothing below it is checked. -/
theorem validate_concerns_nested_stream :
    let r := ((Builder.new.listOf .integer).2.listOf ⟨5⟩).2.build
    let doc : Node := .sequence [.stream [.sequence [.number (.int 1)]]]
    let n : Node := .sequence [.number (.int 1)]
    let p : Path := [.index 0, .index 0]
    doc.WellFormed ∧ doc.isStream = false ∧ p.IsConcrete ∧ r.resolve ⟨6⟩ p = .ok .integer ∧
      Node.descent.traverse [doc] p = .ok [n] ∧ n.isStream = false ∧
      (r.validate ⟨true⟩ ⟨6⟩ doc).filter (Diagnostic.concerns p) ≠
        (r.validate ⟨true⟩ .integer n).map (.beneath p) := by
  intro r doc n p
  have hdoc : doc.WellFormed := by simp [doc]
  have hp : p.IsConcrete := by simp [p, Path.IsConcrete, Segment.IsConcrete]
  exact ⟨hdoc, rfl, hp, rfl, rfl, rfl, by decide⟩

end TypedYaml
