import TypedYaml.Proofs.Check.Reach

/-!
# Lists that are written as one scalar

Where a list of atomic values is expected, a scalar stands for a list: a text for the texts between
its commas, and any other scalar for itself as the only element. The check reads such a scalar in a
way of its own, with paths that it makes up, but it says what it says about the list. An element of
the list is no null, because the text of an element is a text and the scalar itself is no null, and
so each element is checked as a value of the atomic type, as the part of the scalar is
(`check_elements`).

The check goes on below mappings and lists as before when the scalars in them are replaced, since it
looks at keys and numbers there. So the same is reported about a document in which all lists are
written in full.

* `Node.elements`, `Registry.isShorthand`: the list for which a scalar stands, and where it does.
* `Registry.inFull`, `Registry.documentInFull`: all such scalars replaced by their lists.
* `validate_inFull`: the reports about both documents, and where they differ.
-/

namespace TypedYaml

/-- The elements of the list for which a scalar stands. -/
def Node.elements : Node → List Node
  | .string text => (Registry.splitList text).map .string
  | node => [node]

namespace Registry

/-- Whether a node is a scalar in the place of a list of atomic values. Null is accepted there as
it is. -/
def isShorthand (r : Registry) (t : TypeId) : Node → Bool
  | .null => false
  | node => node.isScalar && r.isSequencable t && r.isAtomic (r.domain t)

mutual

/-- A node of which the given type is expected, with all its lists in full. -/
def inFull (r : Registry) (t : TypeId) : Node → Node
  | .mapping entries =>
    if r.isMap t then .mapping (inFullEntries r t entries) else .mapping entries
  | .sequence items =>
    if r.isSequencable t then .sequence (inFullItems r (r.domain t) items) else .sequence items
  | node => if r.isShorthand t node then .sequence node.elements else node

/-- A value under a key that is not known is left as it is. -/
def inFullEntries (r : Registry) (t : TypeId) : List (String × Node) → List (String × Node)
  | [] => []
  | (key, node) :: rest =>
    (key, match (r.entryType t key).type? with
      | some u => inFull r u node
      | none => node) :: inFullEntries r t rest

/-- The items of a sequence, each with all its lists in full. -/
def inFullItems (r : Registry) (element : TypeId) : List Node → List Node
  | [] => []
  | node :: rest => inFull r element node :: inFullItems r element rest

end

/-- A document or the documents of a stream, with all lists in full. -/
def documentInFull (r : Registry) (root : TypeId) : Node → Node
  | .stream documents => .stream (r.inFullItems root documents)
  | document => r.inFull root document

variable {r : Registry} {o : CheckOptions}

/-! ## One scalar -/

theorem exists_of_isShorthand {t : TypeId} {n : Node} (h : r.isShorthand t n) :
    n ≠ .null ∧ n.isScalar ∧ ∃ element, r.kind t = .sequence element ∧ r.isAtomic element := by
  have hscalar : n.isScalar && r.isSequencable t && r.isAtomic (r.domain t) := by
    cases n with
    | null => cases h
    | _ => exact h
  simp only [Bool.and_eq_true] at hscalar
  obtain ⟨⟨hscalar, hlist⟩, hatomic⟩ := hscalar
  refine ⟨?_, hscalar, ?_⟩
  · rintro rfl
    cases h
  · cases hk : r.kind t with
    | sequence element =>
      rw [domain, hk] at hatomic
      exact ⟨element, rfl, hatomic⟩
    | unknown | atomic | bean | map value => simp [isSequencable, hk] at hlist

theorem check_atomic {t : TypeId} (ht : r.isAtomic t) {n : Node} (hn : n ≠ .null) :
    r.check o t n = r.checkScalar t n := by
  have hk : r.kind t = .atomic := by simpa [isAtomic] using ht
  cases n with
  | null => exact absurd rfl hn
  | _ => simp only [check_eq, hk]

/-- The parts of a text are checked as the elements of a list of texts. -/
theorem checkItems_texts {element : TypeId} (h : r.isAtomic element) (parts : List String) :
    r.checkItems o element 0 (parts.map .string) = r.checkParts element parts := by
  have hpart : ∀ part, r.check o element (.string part) = r.checkScalar element (.string part) :=
    fun _ => check_atomic h nofun
  rw [checkItems_eq, List.zipIdx_map, List.flatMap_map, checkParts, ← List.flatMap_def]
  simp only [Prod.map_fst, Prod.map_snd, id_eq, hpart]

/-- A scalar and the list for which it stands are checked alike. -/
theorem check_elements {t : TypeId} {n : Node} (h : r.isShorthand t n) :
    r.check o t (.sequence n.elements) = r.check o t n := by
  obtain ⟨hnull, hscalar, element, hk, hatomic⟩ := exists_of_isShorthand h
  have hlist : r.check o t (.sequence n.elements) = r.checkItems o element 0 n.elements := by
    simp only [check_eq, hk]
  have hsingle : r.checkItems o element 0 [n] =
      (r.checkScalar element n).map (.under (indexSegment 0)) := by
    rw [checkItems, checkItems, List.append_nil, check_atomic hatomic hnull]
  rw [hlist]
  cases n with
  | null => exact absurd rfl hnull
  | string text =>
    refine (checkItems_texts hatomic (splitList text)).trans ?_
    simp [check_eq, hk, checkShorthand, hatomic, hscalar]
  | bool | number =>
    refine hsingle.trans ?_
    simp [check_eq, hk, checkShorthand, hatomic, hscalar]
  | sequence | mapping | stream => cases hscalar

theorem inFull_of_isScalar (t : TypeId) {n : Node} (hn : n.isScalar) :
    r.inFull t n = if r.isShorthand t n then .sequence n.elements else n := by
  cases n with
  | sequence | mapping => cases hn
  | _ => simp only [inFull]

/-! ## All lists of a document -/

theorem check_inFull_of_leaf (t : TypeId) (n : Node) :
    r.check o t (if r.isShorthand t n then .sequence n.elements else n) = r.check o t n := by
  split
  · next h => exact check_elements h
  · rfl

mutual

theorem check_inFull (t : TypeId) : ∀ n : Node, r.check o t (r.inFull t n) = r.check o t n
  | .null => check_inFull_of_leaf t .null
  | .bool b => check_inFull_of_leaf t (.bool b)
  | .number n => check_inFull_of_leaf t (.number n)
  | .string text => check_inFull_of_leaf t (.string text)
  | .stream documents => check_inFull_of_leaf t (.stream documents)
  | .mapping entries => by
    have hentries := checkEntries_inFull t entries
    cases hk : r.kind t with
    | bean | map value => simp [inFull, isMap, check, hk, hentries]
    | unknown | atomic | sequence element => simp [inFull, isMap, hk]
  | .sequence items => by
    cases hk : r.kind t with
    | sequence element =>
      have hitems := checkItems_inFull element 0 items
      simp [inFull, isSequencable, domain, check, hk, hitems]
    | unknown | atomic | bean | map value => simp [inFull, isSequencable, hk]

theorem checkEntries_inFull (t : TypeId) : ∀ entries : List (String × Node),
    r.checkEntries o t (r.inFullEntries t entries) = r.checkEntries o t entries
  | [] => rfl
  | (key, node) :: rest => by
    have hnode := fun u => check_inFull u node
    have hrest := checkEntries_inFull t rest
    rw [inFullEntries, checkEntries_cons, checkEntries_cons, hrest]
    cases he : r.entryType t key <;> simp [checkEntry, he, EntryType.type?, hnode]

theorem checkItems_inFull (element : TypeId) (i : Nat) : ∀ items : List Node,
    r.checkItems o element i (r.inFullItems element items) = r.checkItems o element i items
  | [] => rfl
  | node :: rest => by
    have hnode := check_inFull element node
    have hrest := checkItems_inFull element (i + 1) rest
    rw [inFullItems, checkItems, checkItems, hnode, hrest]

end

/-! ## Where the lists are -/

theorem getElem?_inFullItems (element : TypeId) (items : List Node) (i : Nat) :
    (r.inFullItems element items)[i]? = items[i]?.map (r.inFull element) := by
  induction items generalizing i with
  | nil => rfl
  | cons node rest ih => cases i <;> simp [inFullItems, ih]

theorem mem_inFullEntries {t u : TypeId} {entries : List (String × Node)} {key : String}
    {value : Node} (h : (key, value) ∈ entries) (hu : (r.entryType t key).type? = some u) :
    (key, r.inFull u value) ∈ r.inFullEntries t entries := by
  induction entries with
  | nil => cases h
  | cons e entries ih =>
    rcases List.mem_cons.mp h with rfl | h
    · simp [inFullEntries, hu]
    · exact List.mem_cons_of_mem _ (ih h)

/-- The check goes on to the same children, in which all lists are in full. -/
theorem Goes.inFull {t u : TypeId} {n m : Node} {s : Segment} (h : r.Goes t n s u m) :
    r.Goes t (r.inFull t n) s u (r.inFull u m) := by
  cases h with
  | entry ht hmem hu =>
    rw [Registry.inFull, if_pos ht]
    exact .entry ht (mem_inFullEntries hmem hu) hu
  | item ht hi =>
    have hlist : r.isSequencable t := by simp [isSequencable, ht]
    have hdomain : r.domain t = u := by simp [domain, ht]
    rw [Registry.inFull, if_pos hlist, hdomain]
    exact .item ht (by rw [getElem?_inFullItems, hi]; rfl)

theorem Reaches.inFull {t u : TypeId} {n m : Node} {p : Path} (h : r.Reaches t n p u m) :
    r.Reaches t (r.inFull t n) p u (r.inFull u m) := by
  induction h with
  | here t n => exact .here t _
  | step hgoes _ ih => exact .step hgoes.inFull ih

theorem documentInFull_eq {doc : Node} (h : doc.isStream = false) (root : TypeId) :
    r.documentInFull root doc = r.inFull root doc := by
  cases doc with
  | stream documents => cases h
  | _ => rfl

theorem isStream_inFull (t : TypeId) {n : Node} (hn : n.isStream = false) :
    (r.inFull t n).isStream = false := by
  cases n with
  | stream documents => cases hn
  | _ =>
    simp only [Registry.inFull]
    split <;> rfl

theorem Visits.inFull {root t : TypeId} {doc n : Node} {p : Path}
    (h : r.Visits root doc p t n) :
    r.Visits root (r.documentInFull root doc) p t (r.inFull t n) := by
  cases h with
  | document hdoc hreaches =>
    rw [documentInFull_eq hdoc]
    exact .document (isStream_inFull root hdoc) hreaches.inFull
  | stream hi hreaches =>
    exact .stream (by rw [getElem?_inFullItems, hi]; rfl) hreaches.inFull

end Registry

/-- The same is reported about a document and about that in which all lists are written in full.
There, each scalar to which the check comes is a list if a list of atomic values is expected, and
is the same scalar if not. -/
theorem validate_inFull (r : Registry) (o : CheckOptions) (root : TypeId) (doc : Node) :
    r.validate o root (r.documentInFull root doc) = r.validate o root doc ∧
      ∀ p t n, r.Visits root doc p t n → n.isScalar →
        r.Visits root (r.documentInFull root doc) p t
          (if r.isShorthand t n then .sequence n.elements else n) := by
  constructor
  · cases hdoc : doc.isStream with
    | false =>
      rw [Registry.documentInFull_eq hdoc, Registry.validate_eq_check hdoc,
        Registry.validate_eq_check (Registry.isStream_inFull root hdoc), Registry.check_inFull]
    | true =>
      cases doc with
      | stream documents => exact Registry.checkItems_inFull root 0 documents
      | _ => cases hdoc
  · intro p t n hvisits hscalar
    rw [← Registry.inFull_of_isScalar t hscalar]
    exact hvisits.inFull

/-- In the second document of a stream ports are written as one text, with a comma at the end, a list
of lists has a number for one of its elements, and a map has a truth value for a list. -/
theorem validate_inFull_ports :
    let b := (((Builder.new.listOf .integer).2.listOf ⟨5⟩).2.mapOf ⟨5⟩).2
    let ports : Property := ⟨"ports", ⟨5⟩, none, none⟩
    let bean := ((b.bean "Config").2.addProperty ⟨8⟩ ports).2
    let ranges := (bean.addProperty ⟨8⟩ ⟨"ranges", ⟨6⟩, none, none⟩).2
    let r := (ranges.addProperty ⟨8⟩ ⟨"pools", ⟨7⟩, none, none⟩).2.build
    let one : Node := .number (.int 1)
    let pools : Node := .mapping [("main", .bool true)]
    let entries := [("ports", .string "80, x ,"), ("ranges", .sequence [one, .null]),
      ("pools", pools)]
    let doc : Node := .stream [.null, .mapping entries]
    let full : Node := .stream [.null, .mapping
      [("ports", .sequence [.string "80", .string "x", .string ""]),
        ("ranges", .sequence [.sequence [one], .null]),
        ("pools", .mapping [("main", .sequence [.bool true])])]]
    let second := Registry.indexSegment 1
    let main : Path := [second, .key "pools", .key "main"]
    r.documentInFull ⟨8⟩ doc = full ∧
      r.validate ⟨true⟩ ⟨8⟩ doc =
        [⟨[second, .key "ports", second], .invalidValue "x" "Integer"⟩,
          ⟨[second, .key "ports", Registry.indexSegment 2], .invalidValue "" "Integer"⟩,
          ⟨main ++ [Registry.indexSegment 0], .invalidValue "true" "Integer"⟩] ∧
      r.validate ⟨true⟩ ⟨8⟩ full = r.validate ⟨true⟩ ⟨8⟩ doc ∧
      r.Visits ⟨8⟩ doc main ⟨5⟩ (.bool true) ∧ (Node.bool true).isScalar ∧
      r.Visits ⟨8⟩ full main ⟨5⟩ (.sequence [.bool true]) := by
  intro b ports bean ranges r one pools entries doc full second main
  have htypes : (r.entryType ⟨8⟩ "ports").type? = some ⟨5⟩ ∧
      (r.entryType ⟨8⟩ "ranges").type? = some ⟨6⟩ ∧ (r.entryType ⟨8⟩ "pools").type? = some ⟨7⟩ ∧
      (r.entryType ⟨7⟩ "main").type? = some ⟨5⟩ := by decide +kernel
  obtain ⟨hports, hranges, hpools, hmain⟩ := htypes
  have hkinds : r.isMap ⟨8⟩ ∧ r.isMap ⟨7⟩ ∧ r.isSequencable ⟨6⟩ ∧ r.domain ⟨6⟩ = ⟨5⟩ ∧
      r.isSequencable ⟨5⟩ ∧ r.isAtomic (r.domain ⟨5⟩) := by decide +kernel
  obtain ⟨hconfig, hmap, hlists, hlist, hnumbers, hinteger⟩ := hkinds
  have hparts : Registry.splitList "80, x ," = ["80", "x", ""] := by decide +kernel
  have hfull : r.documentInFull ⟨8⟩ doc = full := by
    simp [doc, full, entries, pools, one, Registry.documentInFull, Registry.inFullItems,
      Registry.inFull, Registry.inFullEntries, Registry.isShorthand, Node.elements, Node.isScalar,
      Node.isMapping, Node.isSequence, hports, hranges, hpools, hmain, hconfig, hmap, hlists,
      hlist, hnumbers, hinteger, hparts]
  have hmember : ("pools", pools) ∈ entries := by simp [entries]
  have hvisits : r.Visits ⟨8⟩ doc main ⟨5⟩ (.bool true) :=
    .stream rfl (.step (.entry hconfig hmember hpools)
      (.step (.entry hmap List.mem_cons_self hmain) (.here _ _)))
  obtain ⟨hsame, hvisited⟩ := validate_inFull r ⟨true⟩ ⟨8⟩ doc
  have hbool := hvisited main ⟨5⟩ (.bool true) hvisits rfl
  rw [hfull] at hsame hbool
  exact ⟨hfull, by decide +kernel, hsame, hvisits, rfl, hbool⟩

end TypedYaml
