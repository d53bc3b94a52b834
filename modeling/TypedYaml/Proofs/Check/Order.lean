import TypedYaml.Proofs.Check.Reach

/-!
# Diagnostics in document order

A position of a document is told by the numbers of the children on the way to it, and positions are
ordered like such lists of numbers, the first difference deciding. So a position comes before all
that is below it, and what is below a child comes before what is below a later one.

The check reports in this order. Reports of different children come one after the other
(`pairwise_flatMap_under`), and a node with an error of its own has no other reports. Only the
warning that a property is deprecated may be followed by an error at the same position, since it is
about the entry and the error about the value.

* `Node.position`, `Node.InOrder`: the order, and what may follow a diagnostic.
* `Node.ShortTexts`: documents in which the elements of a list written as a text can be counted.
* `validate_ordered`: the order of the diagnostics, none of which is repeated or repeats what is
  below it.
-/

namespace TypedYaml

namespace Node

/-! ## Positions -/

/-- The number of the child to which a segment leads, or which it would have. -/
def rank : Node → Segment → Nat
  | .mapping entries, .key name => (entries.map Prod.fst).idxOf name
  | _, .index i => i.toInt.toNat
  | _, _ => 0

/-- The child to which a segment leads. A scalar that stands for a list has no children. -/
def child (n : Node) (s : Segment) : Node :=
  match n.descent s with
  | .ok (m :: _) => m
  | _ => .null

/-- The numbers of the children on the way along a path. -/
def position (n : Node) : Path → List Nat
  | [] => []
  | s :: p => n.rank s :: (n.child s).position p

theorem position_lt_of_prefix {n : Node} {p q : Path} (h : p <+: q) (hne : p ≠ q) :
    n.position p < n.position q := by
  induction p generalizing n q with
  | nil =>
    obtain ⟨s, q, rfl⟩ := List.exists_cons_of_ne_nil hne.symm
    exact List.nil_lt_cons _ _
  | cons s p ih =>
    obtain ⟨rest, rfl⟩ := h
    refine List.cons_lt_cons_iff.mpr (Or.inr ⟨rfl, ih (List.prefix_append _ _) ?_⟩)
    exact fun heq => hne (congrArg (s :: ·) heq)

theorem rank_indexSegment (n : Node) {i : Nat} (hi : i < 2 ^ 63) :
    n.rank (Registry.indexSegment i) = i := by
  have hint : (Int64.ofNat i).toInt.toNat = i := by rw [Int64.toInt_ofNat_of_lt hi]; rfl
  cases n <;> exact hint

theorem Leads.child {n m : Node} {s : Segment} (hm : n.Leads s m) (hn : n.WellFormed) :
    n.child s = m := by
  rw [Node.child, hm.descent hn]

/-- What may come after a diagnostic in the report about a document. -/
def InOrder (n : Node) (d e : Diagnostic) : Prop :=
  (n.position d.path < n.position e.path ∨
      d.path = e.path ∧ d.problem.isDeprecation ∧ e.isError) ∧
    (d.isError → ¬ d.path <+: e.path)

variable {n : Node} {d e : Diagnostic} {s s' : Segment}

theorem InOrder.under (h : (n.child s).InOrder d e) : n.InOrder (d.under s) (e.under s) := by
  refine ⟨h.1.imp ?_ ?_, fun hd hprefix => h.2 hd (List.cons_prefix_cons.mp hprefix).2⟩
  · exact fun hlt => List.cons_lt_cons_iff.mpr (Or.inr ⟨rfl, hlt⟩)
  · exact fun ⟨hpath, hd, he⟩ => ⟨congrArg (s :: ·) hpath, hd, he⟩

theorem inOrder_of_rank_lt (h : n.rank s < n.rank s') : n.InOrder (d.under s) (e.under s') := by
  refine ⟨Or.inl (List.cons_lt_cons_iff.mpr (Or.inl h)), fun _ hprefix => ?_⟩
  rw [(List.cons_prefix_cons.mp hprefix).1] at h
  exact absurd h (Nat.lt_irrefl _)

/-- Children one after the other report one after the other. -/
theorem pairwise_flatMap_under {α : Type} {children : List α} {segment : α → Segment}
    {report : α → List Diagnostic}
    (hrank : children.Pairwise fun x y => n.rank (segment x) < n.rank (segment y))
    (hreport : ∀ x ∈ children, (report x).Pairwise (n.child (segment x)).InOrder) :
    (children.flatMap fun x => (report x).map (.under (segment x))).Pairwise n.InOrder := by
  refine List.pairwise_flatMap.mpr ⟨fun x hx => ?_, hrank.imp ?_⟩
  · exact List.pairwise_map.mpr ((hreport x hx).imp InOrder.under)
  · intro x y hlt d hd e he
    obtain ⟨d, -, rfl⟩ := List.mem_map.mp hd
    obtain ⟨e, -, rfl⟩ := List.mem_map.mp he
    exact inOrder_of_rank_lt hlt

theorem pairwise_rank_entries {entries : List (String × Node)}
    (hkeys : (entries.map Prod.fst).Nodup) :
    entries.Pairwise fun e e' =>
      (mapping entries).rank (.key e.1) < (mapping entries).rank (.key e'.1) := by
  refine List.pairwise_iff_getElem.mpr fun i j hi hj hij => ?_
  have hrank : ∀ k (hk : k < entries.length), (mapping entries).rank (.key entries[k].1) = k := by
    intro k hk
    have hlt : k < (entries.map Prod.fst).length := by rwa [List.length_map]
    have hkey : (entries.map Prod.fst)[k] = entries[k].1 := List.getElem_map _
    rw [rank, ← hkey]
    exact hkeys.idxOf_getElem k hlt
  rwa [hrank i hi, hrank j hj]

theorem pairwise_rank_items {α : Type} (n : Node) {items : List α}
    (hlength : items.length ≤ 2 ^ 63) :
    items.zipIdx.Pairwise fun e e' =>
      n.rank (Registry.indexSegment e.2) < n.rank (Registry.indexSegment e'.2) := by
  refine List.pairwise_iff_getElem.mpr fun i j hi hj hij => ?_
  rw [List.length_zipIdx] at hi hj
  simp only [List.getElem_zipIdx, Nat.zero_add]
  rwa [rank_indexSegment n (by omega), rank_indexSegment n (by omega)]

/-! ## Texts -/

/-- Every text can be held in memory, so it has fewer characters than there are indices. -/
inductive ShortTexts : Node → Prop
  | node {n : Node} (htext : ∀ text, n = string text → text.length < 2 ^ 63)
      (hchildren : ∀ m ∈ n.children, ShortTexts m) : ShortTexts n

theorem ShortTexts.length_lt {text : String} (h : (string text).ShortTexts) :
    text.length < 2 ^ 63 := by
  cases h with
  | node htext _ => exact htext text rfl

theorem ShortTexts.child {m : Node} (h : n.ShortTexts) (hm : m ∈ n.children) : m.ShortTexts := by
  cases h with
  | node _ hchildren => exact hchildren m hm

end Node

namespace Registry

variable {r : Registry} {o : CheckOptions} {t : TypeId}

theorem length_splitOnP_le (q : Char → Bool) (cs : List Char) :
    (cs.splitOnP q).length ≤ cs.length + 1 := by
  induction cs with
  | nil => simp
  | cons c cs ih =>
    rw [List.splitOnP_cons_eq_if_modifyHead]
    split
    · simpa using ih
    · rw [List.length_modifyHead]
      exact Nat.le_succ_of_le ih

theorem length_splitList_le (text : String) : (splitList text).length ≤ text.length + 1 := by
  rw [splitList, List.length_map, List.splitOn_eq_splitOnP, ← String.length_toList]
  exact length_splitOnP_le _ _

/-! ## The order of the reports -/

/-- A scalar has at most one report. -/
theorem pairwise_checkScalar (t : TypeId) (n : Node) (R : Diagnostic → Diagnostic → Prop) :
    (r.checkScalar t n).Pairwise R := by
  unfold checkScalar
  split
  · exact List.pairwise_singleton _ _
  · split
    · exact .nil
    · exact List.pairwise_singleton _ _

theorem pairwise_checkParts (element : TypeId) {text : String} (htext : text.length < 2 ^ 63) :
    (r.checkParts element (splitList text)).Pairwise (Node.string text).InOrder := by
  have hlength := length_splitList_le text
  exact Node.pairwise_flatMap_under (Node.pairwise_rank_items _ (by omega))
    fun _ _ => pairwise_checkScalar _ _ _

theorem pairwise_checkShorthand (element : TypeId) {n : Node} (htexts : n.ShortTexts) :
    (r.checkShorthand t element n).Pairwise n.InOrder := by
  unfold checkShorthand
  split
  · split
    · exact pairwise_checkParts element htexts.length_lt
    · exact List.pairwise_map.mpr (pairwise_checkScalar _ _ _)
  · exact List.pairwise_singleton _ _

/-- The warning about the property comes first, and at the same position only an error. -/
theorem pairwise_checkEntry {key : String} {value : Node}
    (hvalue : ∀ u, (r.check o u value).Pairwise value.InOrder) :
    (r.checkEntry o t key value).Pairwise value.InOrder := by
  unfold checkEntry
  split
  · next p _ =>
    refine List.pairwise_append.mpr ⟨?_, hvalue p.type, ?_⟩
    · unfold deprecations
      split
      · split
        · exact List.pairwise_singleton _ _
        · exact .nil
      · exact .nil
    · intro d hd e he
      obtain ⟨hpath, hdeprecation⟩ := of_mem_deprecations hd
      refine ⟨?_, fun herror => ?_⟩
      · cases hp : e.path with
        | nil =>
          have hconcerns := check_concerns_root he
          have herror : e.isError := by
            simpa [Diagnostic.concerns, hp, Diagnostic.isError_eq] using hconcerns
          exact Or.inr ⟨hpath, hdeprecation, herror⟩
        | cons s p =>
          rw [hpath]
          exact Or.inl (List.nil_lt_cons _ _)
      · rw [Diagnostic.isError_eq, hdeprecation] at herror
        cases herror
  · exact hvalue _
  · exact List.pairwise_singleton _ _

theorem pairwise_checkItems (n : Node) {element : TypeId} {items : List Node}
    (hlength : items.length < 2 ^ 63)
    (hchild : ∀ i item, items[i]? = some item → n.child (indexSegment i) = item)
    (hitems : ∀ item ∈ items, (r.check o element item).Pairwise item.InOrder) :
    (r.checkItems o element 0 items).Pairwise n.InOrder := by
  rw [checkItems_eq]
  refine Node.pairwise_flatMap_under (Node.pairwise_rank_items n (Nat.le_of_lt hlength)) ?_
  rintro ⟨item, i⟩ he
  have hi := List.mem_zipIdx_iff_getElem?.mp he
  rw [hchild i item hi]
  exact hitems item (List.mem_of_getElem? hi)

theorem pairwise_checkEntries {entries : List (String × Node)}
    (hn : (Node.mapping entries).WellFormed)
    (hvalues : ∀ e ∈ entries, ∀ u, (r.check o u e.2).Pairwise e.2.InOrder) :
    (r.checkEntries o t entries).Pairwise (Node.mapping entries).InOrder := by
  have hkeys := (Node.wellFormed_mapping.mp hn).1
  rw [checkEntries_eq]
  refine Node.pairwise_flatMap_under (Node.pairwise_rank_entries hkeys) ?_
  rintro ⟨key, value⟩ he
  have hleads : (Node.mapping entries).Leads (.key key) value := .entry (lookup_of_mem hkeys he)
  rw [hleads.child hn]
  exact pairwise_checkEntry (hvalues _ he)

/-- The check of a node reports in order. -/
theorem pairwise_check {n : Node} (hn : n.WellFormed) (htexts : n.ShortTexts) (t : TypeId) :
    (r.check o t n).Pairwise n.InOrder := by
  induction n using Node.induction generalizing t with
  | step n ih =>
    rw [check_eq]
    split
    · exact .nil
    · exact .nil
    · exact pairwise_checkScalar _ _ _
    · next items element _ =>
      obtain ⟨hlength, hitems⟩ := Node.wellFormed_sequence.mp hn
      refine pairwise_checkItems _ hlength ?_ ?_
      · exact fun i item hi => (Node.Leads.element hi).child hn
      · exact fun item hi => ih item hi (hitems item hi) (htexts.child hi) element
    · exact pairwise_checkShorthand _ htexts
    · next _ entries _ _ _ =>
      refine pairwise_checkEntries hn fun e he u => ?_
      have hchild : e.2 ∈ (Node.mapping entries).children := List.mem_map_of_mem he
      exact ih e.2 hchild ((Node.wellFormed_mapping.mp hn).2 e he) (htexts.child hchild) u
    · exact List.pairwise_singleton _ _

theorem pairwise_validate {doc : Node} (hdoc : doc.WellFormed) (htexts : doc.ShortTexts)
    (root : TypeId) : (r.validate o root doc).Pairwise doc.InOrder := by
  cases doc with
  | stream documents =>
    obtain ⟨hlength, hdocuments⟩ := Node.wellFormed_stream.mp hdoc
    refine pairwise_checkItems _ hlength ?_ ?_
    · exact fun i item hi => (Node.Leads.document hi).child hdoc
    · exact fun item hi => pairwise_check (hdocuments item hi) (htexts.child hi) root
  | _ =>
    rw [validate_eq_check rfl]
    exact pairwise_check hdoc htexts root

end Registry

/-- The diagnostics of a document are in document order. Where two have the same path, the first is
the warning about a deprecated property and the second an error. After an error nothing is reported
above or below it. -/
theorem validate_ordered (r : Registry) (o : CheckOptions) (root : TypeId) {doc : Node}
    (hdoc : doc.WellFormed) (htexts : doc.ShortTexts) :
    (r.validate o root doc).Pairwise fun d e =>
      (doc.position d.path < doc.position e.path ∨ d.path = e.path) ∧
      (d.isError → ¬ d.path <+: e.path ∧ ¬ e.path <+: d.path) ∧
      (d.path = e.path → d.problem.isDeprecation ∧ e.isError) := by
  refine (Registry.pairwise_validate hdoc htexts root).imp ?_
  intro d e h
  have hpath : d.path = e.path → d.problem.isDeprecation ∧ e.isError := by
    intro heq
    rcases h.1 with hlt | ⟨-, hproblems⟩
    · exact absurd (heq ▸ hlt) (List.lt_irrefl _)
    · exact hproblems
  refine ⟨h.1.imp_right And.left, fun hd => ⟨h.2 hd, fun hprefix => ?_⟩, hpath⟩
  have hne : e.path ≠ d.path := fun heq => h.2 hd (heq ▸ List.prefix_refl _)
  rcases h.1 with hlt | ⟨heq, -⟩
  · exact List.lt_asymm hlt (Node.position_lt_of_prefix hprefix hne)
  · exact hne heq.symm

/-- The entries are reported as they stand in the document. The elements of the list that is written
as one text come after the warning about the list, as the error does that is about its value. -/
theorem validate_ordered_ports :
    let list := (Builder.new.listOf .integer).2
    let ports : Property := ⟨"ports", ⟨5⟩, none, some ⟨none, none⟩⟩
    let bean := ((list.bean "Config").2.addProperty ⟨6⟩ ports).2
    let r := (bean.addProperty ⟨6⟩ ⟨"host", .string, none, some ⟨none, none⟩⟩).2.build
    let entries := [("ports", Node.string "x, 80, y"), ("hots", .null), ("host", .sequence [])]
    let doc : Node := .mapping entries
    doc.WellFormed ∧ doc.ShortTexts ∧
      r.validate ⟨true⟩ ⟨6⟩ doc =
        [⟨[.key "ports"], .deprecated "ports" none⟩,
          ⟨[.key "ports", Registry.indexSegment 0], .invalidValue "x" "Integer"⟩,
          ⟨[.key "ports", Registry.indexSegment 2], .invalidValue "y" "Integer"⟩,
          ⟨[.key "hots"], .unknownProperty "hots" "Config"⟩,
          ⟨[.key "host"], .deprecated "host" none⟩,
          ⟨[.key "host"], .expectedScalar "String" "sequence"⟩] ∧
      (r.validate ⟨true⟩ ⟨6⟩ doc).Pairwise fun d e =>
        (doc.position d.path < doc.position e.path ∨ d.path = e.path) ∧
        (d.isError → ¬ d.path <+: e.path ∧ ¬ e.path <+: d.path) ∧
        (d.path = e.path → d.problem.isDeprecation ∧ e.isError) := by
  intro list ports bean r entries doc
  have hdoc : doc.WellFormed := by simp [doc, entries]
  have hvalues : ∀ e ∈ entries, e.2.ShortTexts := by
    refine List.forall_mem_cons.mpr ⟨.node ?_ nofun, List.forall_mem_cons.mpr
      ⟨.node nofun nofun, List.forall_mem_singleton.mpr (.node nofun nofun)⟩⟩
    rintro text ⟨⟩
    decide
  have htexts : doc.ShortTexts := .node nofun (List.forall_mem_map.mpr hvalues)
  exact ⟨hdoc, htexts, by decide +kernel, validate_ordered r ⟨true⟩ ⟨6⟩ hdoc htexts⟩

end TypedYaml
