import TypedYaml.Proofs.Check.Locality

/-!
# Where a check goes

The check of a node goes on to the children that fit the expected type, and to no others: to the
elements of a list where one is expected, and to the values of a mapping under the keys that the
type knows. At each position to which it comes it reports what is wrong there, and nothing else is
ever reported (`mem_check_iff`, `mem_validate_iff`). So what holds of all diagnostics has to be
shown of a single position only.

* `Registry.Goes`, `Registry.Reaches`: one step, and the positions below a node.
* `Registry.Visits`: the positions of a document, or of the documents of a stream.
* `Registry.reports`: what is reported at a position.
-/

namespace TypedYaml

/-! ## Induction on documents -/

theorem Node.sizeOf_lt_of_mem_children {n m : Node} (h : m ∈ n.children) :
    sizeOf m < sizeOf n := by
  cases n with
  | mapping entries =>
    obtain ⟨e, he, rfl⟩ := List.mem_map.mp h
    have hentry := List.sizeOf_lt_of_mem he
    have hvalue : sizeOf e.2 < sizeOf e := by
      cases e
      simp only [Prod.mk.sizeOf_spec]
      omega
    simp only [Node.mapping.sizeOf_spec]
    omega
  | sequence items | stream documents =>
    have hchild := List.sizeOf_lt_of_mem h
    simp only [Node.children, Node.sequence.sizeOf_spec, Node.stream.sizeOf_spec] at hchild ⊢
    omega
  | _ => cases h

/-- What follows for a node from its children holds of all nodes. -/
theorem Node.induction {motive : Node → Prop}
    (step : ∀ n : Node, (∀ m ∈ n.children, motive m) → motive n) (n : Node) : motive n :=
  step n fun m hm =>
    have : sizeOf m < sizeOf n := Node.sizeOf_lt_of_mem_children hm
    induction step m
termination_by sizeOf n

namespace Registry

/-! ## The way of a check -/

/-- The type that is expected of the value, if the key is known. -/
def EntryType.type? : EntryType → Option TypeId
  | .property p => some p.type
  | .value type => some type
  | .undeclared => none

/-- The check of a node goes on to a child, of which the second type is expected. -/
inductive Goes (r : Registry) : TypeId → Node → Segment → TypeId → Node → Prop
  | entry {t u : TypeId} {entries : List (String × Node)} {key : String} {value : Node}
      (ht : r.isMap t) (hmem : (key, value) ∈ entries)
      (hu : (r.entryType t key).type? = some u) : Goes r t (.mapping entries) (.key key) u value
  | item {t element : TypeId} {items : List Node} {i : Nat} {item : Node}
      (ht : r.kind t = .sequence element) (hi : items[i]? = some item) :
      Goes r t (.sequence items) (indexSegment i) element item

/-- The check of a node comes to the position at the end of a path. -/
inductive Reaches (r : Registry) : TypeId → Node → Path → TypeId → Node → Prop
  | here (t : TypeId) (n : Node) : Reaches r t n [] t n
  | step {t u v : TypeId} {n m k : Node} {s : Segment} {p : Path} (h : r.Goes t n s u m)
      (hrest : Reaches r u m p v k) : Reaches r t n (s :: p) v k

/-- The check of a document comes to the position at the end of a path. -/
inductive Visits (r : Registry) (root : TypeId) : Node → Path → TypeId → Node → Prop
  | document {doc n : Node} {p : Path} {t : TypeId} (hdoc : doc.isStream = false)
      (h : r.Reaches root doc p t n) : Visits r root doc p t n
  | stream {documents : List Node} {i : Nat} {doc n : Node} {p : Path} {t : TypeId}
      (hi : documents[i]? = some doc) (h : r.Reaches root doc p t n) :
      Visits r root (.stream documents) (indexSegment i :: p) t n

/-- What is reported about an entry for its key, whatever its value is. -/
def keyReports (r : Registry) (o : CheckOptions) (t : TypeId) (key : String) : List Diagnostic :=
  match r.entryType t key with
  | .property p => deprecations o p
  | .value _ => []
  | .undeclared => [⟨[], .unknownProperty key (r.typeName t)⟩]

/-- What is reported about a node itself, and about the keys of its entries. -/
def reports (r : Registry) (o : CheckOptions) (t : TypeId) (n : Node) : List Diagnostic :=
  match n, r.kind t with
  | .null, _ => []
  | _, .unknown => []
  | n, .atomic => r.checkScalar t n
  | .sequence _, .sequence _ => []
  | n, .sequence element => r.checkShorthand t element n
  | .mapping entries, _ =>
    entries.flatMap fun e => (r.keyReports o t e.1).map (.under (.key e.1))
  | n, _ => [⟨[], .expectedMap (r.typeName t) n.kindName⟩]

variable {r : Registry} {o : CheckOptions}

theorem reports_mapping {t : TypeId} (ht : r.isMap t) (entries : List (String × Node)) :
    r.reports o t (.mapping entries) =
      entries.flatMap fun e => (r.keyReports o t e.1).map (.under (.key e.1)) := by
  unfold isMap at ht
  cases hk : r.kind t <;> simp_all [reports]

/-! ## One step -/

theorem Goes.mem_children {t u : TypeId} {n m : Node} {s : Segment} (h : r.Goes t n s u m) :
    m ∈ n.children := by
  cases h with
  | entry _ hmem _ => exact List.mem_map.mpr ⟨_, hmem, rfl⟩
  | item _ hi => exact List.mem_of_getElem? hi

theorem mem_checkEntry_iff {t : TypeId} {key : String} {value : Node} {d : Diagnostic} :
    d ∈ r.checkEntry o t key value ↔
      d ∈ r.keyReports o t key ∨
        ∃ u, (r.entryType t key).type? = some u ∧ d ∈ r.check o u value := by
  unfold checkEntry keyReports
  cases r.entryType t key <;> simp [EntryType.type?]

/-- What a mapping reports comes from a key or from a value. -/
theorem mem_checkEntries_iff {t : TypeId} {entries : List (String × Node)} {d : Diagnostic}
    (ht : r.isMap t) :
    d ∈ r.checkEntries o t entries ↔
      d ∈ entries.flatMap (fun e => (r.keyReports o t e.1).map (.under (.key e.1))) ∨
        ∃ s u m c, r.Goes t (.mapping entries) s u m ∧ c ∈ r.check o u m ∧ d = c.under s := by
  rw [checkEntries_eq]
  constructor
  · intro hd
    obtain ⟨⟨key, value⟩, he, hd⟩ := List.mem_flatMap.mp hd
    obtain ⟨c, hc, rfl⟩ := List.mem_map.mp hd
    rcases mem_checkEntry_iff.mp hc with hkey | ⟨u, hu, hc⟩
    · exact Or.inl (List.mem_flatMap.mpr ⟨_, he, List.mem_map_of_mem hkey⟩)
    · exact Or.inr ⟨_, u, value, c, .entry ht he hu, hc, rfl⟩
  · rintro (hd | ⟨s, u, m, c, hgoes, hc, rfl⟩)
    · obtain ⟨e, he, hd⟩ := List.mem_flatMap.mp hd
      obtain ⟨c, hc, rfl⟩ := List.mem_map.mp hd
      exact List.mem_flatMap.mpr
        ⟨e, he, List.mem_map_of_mem (mem_checkEntry_iff.mpr (Or.inl hc))⟩
    · cases hgoes with
      | entry _ hmem hu =>
        exact List.mem_flatMap.mpr
          ⟨_, hmem, List.mem_map_of_mem (mem_checkEntry_iff.mpr (Or.inr ⟨u, hu, hc⟩))⟩

theorem mem_checkItems_iff {element : TypeId} {items : List Node} {d : Diagnostic} :
    d ∈ r.checkItems o element 0 items ↔
      ∃ i item c, items[i]? = some item ∧ c ∈ r.check o element item ∧
        d = c.under (indexSegment i) := by
  rw [checkItems_eq]
  constructor
  · intro hd
    obtain ⟨⟨item, i⟩, he, hd⟩ := List.mem_flatMap.mp hd
    obtain ⟨c, hc, rfl⟩ := List.mem_map.mp hd
    exact ⟨i, item, c, List.mem_zipIdx_iff_getElem?.mp he, hc, rfl⟩
  · rintro ⟨i, item, c, hi, hc, rfl⟩
    exact List.mem_flatMap.mpr
      ⟨(item, i), List.mem_zipIdx_iff_getElem?.mpr hi, List.mem_map_of_mem hc⟩

/-- A diagnostic is about the node itself or comes from a child to which the check goes on. -/
theorem mem_check_step {t : TypeId} {n : Node} {d : Diagnostic} :
    d ∈ r.check o t n ↔
      d ∈ r.reports o t n ∨
        ∃ s u m c, r.Goes t n s u m ∧ c ∈ r.check o u m ∧ d = c.under s := by
  have hnowhere : r.check o t n = r.reports o t n → (∀ s u m, ¬ r.Goes t n s u m) →
      (d ∈ r.check o t n ↔ d ∈ r.reports o t n ∨
        ∃ s u m c, r.Goes t n s u m ∧ c ∈ r.check o u m ∧ d = c.under s) := by
    intro hsame hno
    rw [hsame, or_iff_left]
    rintro ⟨s, u, m, c, hgoes, -⟩
    exact hno s u m hgoes
  cases n with
  | mapping entries =>
    cases hk : r.kind t with
    | unknown | atomic | sequence element =>
      refine hnowhere (by simp only [check_eq, reports, hk]) ?_
      rintro _ _ _ hgoes
      cases hgoes with
      | entry ht _ _ => simp [isMap, hk] at ht
    | bean | map value =>
      have hmap : r.isMap t := by simp [isMap, hk]
      have hcheck : r.check o t (.mapping entries) = r.checkEntries o t entries := by
        simp only [check_eq, hk]
      rw [hcheck, mem_checkEntries_iff hmap, reports_mapping hmap]
  | sequence items =>
    cases hk : r.kind t with
    | unknown | atomic | bean | map value =>
      refine hnowhere (by simp only [check_eq, reports, hk]) ?_
      rintro _ _ _ hgoes
      cases hgoes with
      | item ht _ =>
        rw [hk] at ht
        cases ht
    | sequence element =>
      have hcheck : r.check o t (.sequence items) = r.checkItems o element 0 items := by
        simp only [check_eq, hk]
      rw [hcheck, mem_checkItems_iff]
      simp only [reports, hk, List.not_mem_nil, false_or]
      constructor
      · rintro ⟨i, item, c, hi, hc, rfl⟩
        exact ⟨_, element, item, c, .item hk hi, hc, rfl⟩
      · rintro ⟨s, u, m, c, hgoes, hc, rfl⟩
        cases hgoes with
        | item ht hi =>
          rw [hk] at ht
          cases ht
          exact ⟨_, m, c, hi, hc, rfl⟩
  | _ =>
    refine hnowhere ?_ ?_
    · cases hk : r.kind t <;> simp only [check_eq, reports, hk]
    · rintro _ _ _ hgoes
      cases hgoes

/-! ## All positions -/

/-- A check reports what is reported at the positions to which it comes. -/
theorem mem_check_iff {t : TypeId} {n : Node} {d : Diagnostic} :
    d ∈ r.check o t n ↔
      ∃ p u m c, r.Reaches t n p u m ∧ c ∈ r.reports o u m ∧ d = c.beneath p := by
  constructor
  · intro hd
    induction n using Node.induction generalizing t d with
    | step n ih =>
      rcases mem_check_step.mp hd with hown | ⟨s, u, m, c, hgoes, hc, rfl⟩
      · exact ⟨[], t, n, d, .here t n, hown, rfl⟩
      · obtain ⟨p, v, k, c, hreaches, hown, rfl⟩ := ih m hgoes.mem_children hc
        exact ⟨s :: p, v, k, c, .step hgoes hreaches, hown, rfl⟩
  · rintro ⟨p, u, m, c, hreaches, hc, rfl⟩
    induction hreaches with
    | here t n => exact mem_check_step.mpr (Or.inl hc)
    | step hgoes _ ih => exact mem_check_step.mpr (Or.inr ⟨_, _, _, _, hgoes, ih hc, rfl⟩)

/-- The same of a whole document. -/
theorem mem_validate_iff {root : TypeId} {doc : Node} {d : Diagnostic} :
    d ∈ r.validate o root doc ↔
      ∃ p t n c, r.Visits root doc p t n ∧ c ∈ r.reports o t n ∧ d = c.beneath p := by
  have hdocument : doc.isStream = false → (d ∈ r.validate o root doc ↔
      ∃ p t n c, r.Visits root doc p t n ∧ c ∈ r.reports o t n ∧ d = c.beneath p) := by
    intro hdoc
    rw [validate_eq_check hdoc, mem_check_iff]
    constructor
    · rintro ⟨p, t, n, c, hreaches, hc⟩
      exact ⟨p, t, n, c, .document hdoc hreaches, hc⟩
    · rintro ⟨p, t, n, c, hvisits, hc⟩
      cases hvisits with
      | document _ hreaches => exact ⟨p, t, n, c, hreaches, hc⟩
      | stream _ _ => cases hdoc
  cases doc with
  | stream documents =>
    rw [validate, mem_checkItems_iff]
    constructor
    · rintro ⟨i, doc, c, hi, hc, rfl⟩
      obtain ⟨p, t, n, c, hreaches, hown, rfl⟩ := mem_check_iff.mp hc
      exact ⟨_, t, n, c, .stream hi hreaches, hown, rfl⟩
    · rintro ⟨_, t, n, c, hvisits, hc, rfl⟩
      cases hvisits with
      | document hdoc _ => cases hdoc
      | stream hi hreaches =>
        exact ⟨_, _, _, hi, mem_check_iff.mpr ⟨_, t, n, c, hreaches, hc, rfl⟩, rfl⟩
  | _ => exact hdocument rfl

/-! ## What is said about a position -/

/-- What the reports about a node of the given type can be. A list that is written as a scalar is
reported under the index of an element. -/
inductive Reported (r : Registry) (o : CheckOptions) (t : TypeId) : Node → Diagnostic → Prop
  | key {entries : List (String × Node)} {key : String} {value : Node} {d : Diagnostic}
      (hmem : (key, value) ∈ entries) (hd : d ∈ r.keyReports o t key) :
      Reported r o t (.mapping entries) (d.under (.key key))
  | noMapping {n : Node} (hn : n.isMapping = false) :
      Reported r o t n ⟨[], .expectedMap (r.typeName t) n.kindName⟩
  | noSequence {n : Node} (hn : ∀ items, n ≠ .sequence items) :
      Reported r o t n ⟨[], .expectedSequence (r.typeName t) n.kindName⟩
  | noScalar {n : Node} (hn : n.isScalar = false) :
      Reported r o t n ⟨[], .expectedScalar (r.typeName t) n.kindName⟩
  | invalid {n : Node} {text : String} (hn : n.scalarText? = some text) :
      Reported r o t n ⟨[], .invalidValue text (r.typeName t)⟩
  | invalidPart {text part : String} {i : Nat} (element : TypeId)
      (hi : (splitList text)[i]? = some part) :
      Reported r o t (.string text) ⟨[indexSegment i], .invalidValue part (r.typeName element)⟩
  | invalidSingle {n : Node} {text : String} (element : TypeId) (hnull : n ≠ .null)
      (hstring : ∀ s, n ≠ .string s) (hn : n.scalarText? = some text) :
      Reported r o t n ⟨[indexSegment 0], .invalidValue text (r.typeName element)⟩

theorem entryType_of_property? {t : TypeId} {key : String} {q : Property}
    (hq : (r.descriptor t).property? key = some q) : r.entryType t key = .property q := by
  rw [entryType, hq]

theorem property?_of_entryType {t : TypeId} {key : String} {q : Property}
    (h : r.entryType t key = .property q) : (r.descriptor t).property? key = some q := by
  unfold entryType at h
  split at h
  · next hq =>
    cases h
    exact hq
  · split at h
    · cases h
    · split at h <;> cases h

theorem name_of_property? {d : Descriptor} {key : String} {q : Property}
    (hq : d.property? key = some q) : q.name = key := by
  simpa using List.find?_some hq

/-- A key is reported if it is deprecated or unknown. -/
theorem mem_keyReports_iff {t : TypeId} {key : String} {d : Diagnostic} :
    d ∈ r.keyReports o t key ↔
      (∃ q c, (r.descriptor t).property? key = some q ∧ q.deprecation = some c ∧
        o.reportDeprecated ∧ d = ⟨[], .deprecated key c.replacement⟩) ∨
      r.entryType t key = .undeclared ∧ d = ⟨[], .unknownProperty key (r.typeName t)⟩ := by
  unfold keyReports
  cases he : r.entryType t key with
  | property q =>
    have hq := property?_of_entryType he
    cases hc : q.deprecation <;> simp [deprecations, hq, hc, name_of_property? hq]
  | value u | undeclared =>
    have hnone : (r.descriptor t).property? key = none := by
      cases hq : (r.descriptor t).property? key with
      | none => rfl
      | some q =>
        rw [entryType_of_property? hq] at he
        cases he
    simp [hnone]

theorem scalarText?_eq_none {n : Node} : n.scalarText? = none ↔ n.isScalar = false := by
  cases n <;> simp [Node.scalarText?, Node.isScalar, Node.isMapping, Node.isSequence]

theorem mem_checkScalar {t : TypeId} {n : Node} {d : Diagnostic} (hd : d ∈ r.checkScalar t n) :
    n.isScalar = false ∧ d = ⟨[], .expectedScalar (r.typeName t) n.kindName⟩ ∨
      ∃ text, n.scalarText? = some text ∧ d = ⟨[], .invalidValue text (r.typeName t)⟩ := by
  unfold checkScalar at hd
  split at hd
  · next hnone => exact Or.inl ⟨scalarText?_eq_none.mp hnone, List.mem_singleton.mp hd⟩
  · next text htext =>
    split at hd
    · cases hd
    · exact Or.inr ⟨text, htext, List.mem_singleton.mp hd⟩

theorem mem_checkParts {element : TypeId} {parts : List String} {d : Diagnostic}
    (hd : d ∈ r.checkParts element parts) :
    ∃ i part, parts[i]? = some part ∧
      d = ⟨[indexSegment i], .invalidValue part (r.typeName element)⟩ := by
  rw [checkParts, List.mem_flatten] at hd
  obtain ⟨ds, hds, hd⟩ := hd
  obtain ⟨⟨part, i⟩, he, rfl⟩ := List.mem_map.mp hds
  obtain ⟨c, hc, rfl⟩ := List.mem_map.mp hd
  rcases mem_checkScalar hc with ⟨hn, -⟩ | ⟨text, htext, rfl⟩
  · cases hn
  · cases htext
    exact ⟨i, part, List.mem_zipIdx_iff_getElem?.mp he, rfl⟩

theorem mem_checkShorthand {t element : TypeId} {n : Node} {d : Diagnostic} (hnull : n ≠ .null)
    (hn : ∀ items, n ≠ .sequence items) (hd : d ∈ r.checkShorthand t element n) :
    r.Reported o t n d := by
  unfold checkShorthand at hd
  split at hd
  · split at hd
    · obtain ⟨i, part, hi, rfl⟩ := mem_checkParts hd
      exact .invalidPart element hi
    · next hscalar _ hstring =>
      obtain ⟨c, hc, rfl⟩ := List.mem_map.mp hd
      rcases mem_checkScalar hc with ⟨hno, -⟩ | ⟨text, htext, rfl⟩
      · simp [hno] at hscalar
      · exact .invalidSingle element hnull (fun s hs => hstring s hs) htext
  · rw [List.mem_singleton.mp hd]
    exact .noSequence hn

theorem reported_of_mem {t : TypeId} {n : Node} {d : Diagnostic} (hd : d ∈ r.reports o t n) :
    r.Reported o t n d := by
  unfold reports at hd
  split at hd
  · cases hd
  · cases hd
  · rcases mem_checkScalar hd with ⟨hn, rfl⟩ | ⟨text, htext, rfl⟩
    · exact .noScalar hn
    · exact .invalid htext
  · cases hd
  · next hnull hnone _ => exact mem_checkShorthand hnull hnone hd
  · obtain ⟨⟨key, value⟩, he, hd⟩ := List.mem_flatMap.mp hd
    obtain ⟨c, hc, rfl⟩ := List.mem_map.mp hd
    exact .key he hc
  · next n _ _ _ hnomapping _ _ _ _ =>
    rw [List.mem_singleton.mp hd]
    exact .noMapping (by cases n <;> first | rfl | exact (hnomapping _ rfl).elim)

/-! ## Positions are found -/

theorem Goes.leads {t u : TypeId} {n m : Node} {s : Segment} (hn : n.WellFormed)
    (h : r.Goes t n s u m) : n.Leads s m := by
  cases h with
  | entry _ hmem _ =>
    exact .entry (lookup_of_mem (Node.wellFormed_mapping.mp hn).1 hmem)
  | item _ hi => exact .element hi

/-- A walk along the path comes to the position. -/
theorem Reaches.traverse {t u : TypeId} {n m : Node} {p : Path} (hn : n.WellFormed)
    (h : r.Reaches t n p u m) : Node.descent.traverse [n] p = .ok [m] ∧ m.WellFormed := by
  induction h with
  | here t n => exact ⟨rfl, hn⟩
  | step hgoes _ ih =>
    have hleads := hgoes.leads hn
    obtain ⟨hwalk, hm⟩ := ih (hleads.wellFormed hn)
    rw [Node.traverse_cons_of_descent _ (hleads.descent hn), hwalk]
    exact ⟨rfl, hm⟩

theorem leads_document {documents : List Node} {i : Nat} {doc : Node}
    (hi : documents[i]? = some doc) : (Node.stream documents).Leads (indexSegment i) doc :=
  .document hi

theorem Visits.traverse {root t : TypeId} {doc n : Node} {p : Path} (hdoc : doc.WellFormed)
    (h : r.Visits root doc p t n) : Node.descent.traverse [doc] p = .ok [n] ∧ n.WellFormed := by
  cases h with
  | document _ hreaches => exact hreaches.traverse hdoc
  | stream hi hreaches =>
    have hleads := leads_document hi
    obtain ⟨hwalk, hn⟩ := hreaches.traverse (hleads.wellFormed hdoc)
    rw [Node.traverse_cons_of_descent _ (hleads.descent hdoc), hwalk]
    exact ⟨rfl, hn⟩

/-- The type that is expected of a child depends on its segment alone. -/
theorem Goes.type_unique {t u u' : TypeId} {n m m' : Node} {s : Segment}
    (h : r.Goes t n s u m) (h' : r.Goes t n s u' m') : u = u' := by
  cases h with
  | entry _ _ hu =>
    cases h' with
    | entry _ _ hu' => exact Option.some.inj (hu.symm.trans hu')
  | item ht _ =>
    generalize hs : indexSegment _ = s at h'
    cases h' with
    | item ht' _ =>
      rw [ht] at ht'
      cases ht'
      rfl

theorem Reaches.unique {t u u' : TypeId} {n m m' : Node} {p : Path} (hn : n.WellFormed)
    (h : r.Reaches t n p u m) (h' : r.Reaches t n p u' m') : u = u' ∧ m = m' := by
  induction h with
  | here t n =>
    cases h'
    exact ⟨rfl, rfl⟩
  | step hgoes _ ih =>
    cases h' with
    | step hgoes' hrest' =>
      have hleads := hgoes.leads hn
      cases hgoes.type_unique hgoes'
      cases hleads.unique hn (hgoes'.leads hn)
      exact ih (hleads.wellFormed hn) hrest'

/-- There is one type that is expected at the end of a path. -/
theorem Visits.unique {root t t' : TypeId} {doc n n' : Node} {p : Path} (hdoc : doc.WellFormed)
    (h : r.Visits root doc p t n) (h' : r.Visits root doc p t' n') : t = t' ∧ n = n' := by
  cases h with
  | document hstream hreaches =>
    cases h' with
    | document _ hreaches' => exact hreaches.unique hdoc hreaches'
    | stream _ _ => cases hstream
  | stream hi hreaches =>
    generalize hs : indexSegment _ = s at h'
    cases h' with
    | document hstream _ => cases hstream
    | stream hi' hreaches' =>
      have hleads := leads_document hi
      have hleads' := leads_document hi'
      rw [← hs] at hleads'
      cases hleads.unique hdoc hleads'
      exact hreaches.unique (hleads.wellFormed hdoc) hreaches'

end Registry

end TypedYaml
