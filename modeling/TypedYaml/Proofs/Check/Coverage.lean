import TypedYaml.Proofs.Check.Locality

/-!
# Nothing outside the schema goes unreported

Where the document goes on and the schema does not, something is reported, and the fault of the
resolution says what and where. The resolution fails at a segment that leads on in the document, so
the node reached there is no scalar, and the fault tells the kind of the type that is expected of
it (`accounts_of_next_error`). What the node reports is then found in the document, because
checking is local (`Accounts.beneath`).

* `Registry.Accounts`: what is reported for each fault.
* `validate_accounts`: it is reported wherever a path leaves the schema.
-/

namespace TypedYaml

/-- Of the reports at a position and below it, all stand at the position itself. -/
def NothingBelow (q : Path) (ds : List Diagnostic) : Prop :=
  ∀ d ∈ ds, q <+: d.path → d.path = q

theorem nothingBelow_nil (q : Path) : NothingBelow q [] :=
  fun _ hd => absurd hd List.not_mem_nil

theorem nothingBelow_singleton (q : Path) (problem : Problem) :
    NothingBelow q [⟨q, problem⟩] := by
  intro d hd _
  rw [List.mem_singleton] at hd
  rw [hd]

namespace Registry

/-- What is reported where a path leaves the schema at a node of the given kind. An undeclared key
may also stand for a path that the schema knows, and content of unknown type is not checked. -/
def Accounts (r : Registry) (e : ResolveError) (found : String) (ds : List Diagnostic) : Prop :=
  match e.fault with
  | .atomicType _ =>
    ⟨e.resolved, .expectedScalar (r.typeName e.reached) found⟩ ∈ ds ∧ NothingBelow e.resolved ds
  | .notAMap _ =>
    ⟨e.resolved, .expectedSequence (r.typeName e.reached) found⟩ ∈ ds ∧
      NothingBelow e.resolved ds
  | .notSequencable _ =>
    ⟨e.resolved, if r.isAtomic e.reached then .expectedScalar (r.typeName e.reached) found
      else .expectedMap (r.typeName e.reached) found⟩ ∈ ds ∧ NothingBelow e.resolved ds
  | .unknownProperty name _ =>
    ⟨e.resolved ++ [.key name], .unknownProperty name (r.typeName e.reached)⟩ ∈ ds ∨
      '.' ∈ name.toList ∧ ∃ u, r.resolveDotted? e.reached name = some u
  | .unknownType => r.isUnknown e.reached ∧ NothingBelow e.resolved ds

variable {r : Registry} {o : CheckOptions}

/-! ## At the node where resolution stops -/

theorem resolveDotted?_dot {t u : TypeId} {name : String}
    (h : r.resolveDotted? t name = some u) : '.' ∈ name.toList := by
  unfold resolveDotted? at h
  split at h
  · cases h
  · next hdot => simpa using hdot

/-- A node with children is no scalar. -/
theorem check_atomic_of_leads {n m : Node} {s : Segment} {t : TypeId} (hm : n.Leads s m)
    (hk : r.kind t = .atomic) :
    r.check o t n = [⟨[], .expectedScalar (r.typeName t) n.kindName⟩] := by
  rw [check_eq, hk]
  cases hm <;> rfl

theorem accounts_of_next_key {entries : List (String × Node)} {name : String} {child : Node}
    {t : TypeId} {fault : ResolveFault} (hchild : entries.lookup name = some child)
    (h : r.next t (.key name) = .error fault) :
    r.Accounts ⟨fault, [], t⟩ "mapping" (r.check o t (.mapping entries)) := by
  rw [next_eq] at h
  cases hk : r.kind t with
  | unknown =>
    have hcheck : r.check o t (.mapping entries) = [] := by rw [check_eq, hk]
    rw [hk] at h
    cases h
    rw [hcheck]
    exact ⟨by simp [isUnknown, hk], nothingBelow_nil _⟩
  | atomic =>
    rw [hk] at h
    cases h
    rw [check_atomic_of_leads (.entry hchild) hk]
    exact ⟨List.mem_singleton_self _, nothingBelow_singleton _ _⟩
  | sequence element =>
    have hcheck : r.check o t (.mapping entries) =
        [⟨[], .expectedSequence (r.typeName t) "mapping"⟩] := by
      rw [check_eq, hk]
      simp [checkShorthand, Node.isScalar, Node.isMapping, Node.kindName]
    rw [hk] at h
    cases h
    rw [hcheck]
    exact ⟨List.mem_singleton_self _, nothingBelow_singleton _ _⟩
  | bean =>
    have hcheck : r.check o t (.mapping entries) = r.checkEntries o t entries := by
      rw [check_eq, hk]
    cases hp : (r.descriptor t).property? name with
    | some p => simp [hk, hp] at h
    | none =>
      simp only [hk, hp] at h
      cases h
      have hentry : r.checkEntry o t name child = _ := checkEntry_of_undeclared hk hp child
      cases hd : r.resolveDotted? t name with
      | some u => exact Or.inr ⟨resolveDotted?_dot hd, u, hd⟩
      | none =>
        refine Or.inl ?_
        have hmem : (name, child) ∈ entries := mem_of_lookup hchild
        rw [hcheck, checkEntries_eq]
        refine List.mem_flatMap.mpr ⟨(name, child), hmem, ?_⟩
        rw [hentry, hd]
        exact List.mem_singleton_self _
  | map value => cases hp : (r.descriptor t).property? name <;> simp [hk, hp] at h

theorem accounts_of_next_index {n m : Node} {i : Int64} {t : TypeId} {fault : ResolveFault}
    (hm : n.Leads (.index i) m) (h : r.next t (.index i) = .error fault) :
    r.Accounts ⟨fault, [], t⟩ n.kindName (r.check o t n) := by
  rw [next_eq] at h
  cases hk : r.kind t with
  | unknown =>
    have hcheck : r.check o t n = [] := by
      rw [check_eq, hk]
      cases hm <;> rfl
    rw [hk] at h
    cases h
    rw [hcheck]
    exact ⟨by simp [isUnknown, hk], nothingBelow_nil _⟩
  | atomic =>
    rw [hk] at h
    cases h
    rw [check_atomic_of_leads hm hk]
    have hatomic : r.isAtomic t := by simp [isAtomic, hk]
    refine ⟨?_, nothingBelow_singleton _ _⟩
    rw [if_pos hatomic]
    exact List.mem_singleton_self _
  | sequence element => simp [hk] at h
  | bean | map value =>
    have hcheck : r.check o t n = [⟨[], .expectedMap (r.typeName t) n.kindName⟩] := by
      rw [check_eq, hk]
      cases hm <;> rfl
    have hatomic : ¬ r.isAtomic t := by simp [isAtomic, hk]
    rw [hk] at h
    cases h
    rw [hcheck]
    refine ⟨?_, nothingBelow_singleton _ _⟩
    rw [if_neg hatomic]
    exact List.mem_singleton_self _

/-- A segment that leads on in the document and not in the schema is accounted for. -/
theorem accounts_of_next_error {n m : Node} {s : Segment} {t : TypeId} {fault : ResolveFault}
    (hm : n.Leads s m) (h : r.next t s = .error fault) :
    r.Accounts ⟨fault, [], t⟩ n.kindName (r.check o t n) := by
  cases hm with
  | entry hchild => exact accounts_of_next_key hchild h
  | element hchild => exact accounts_of_next_index (.element hchild) h
  | document hchild => exact accounts_of_next_index (.document hchild) h

/-! ## From the node to the document -/

section Beneath

variable {q : Path} {ds sub : List Diagnostic}

theorem mem_of_concerns (h : ds.filter (Diagnostic.concerns q) = sub.map (.beneath q))
    {d : Diagnostic} (hd : d ∈ sub) : d.beneath q ∈ ds := by
  have hmem : d.beneath q ∈ ds.filter (Diagnostic.concerns q) := by
    rw [h]
    exact List.mem_map_of_mem hd
  exact List.mem_of_mem_filter hmem

theorem nothingBelow_of_concerns (h : ds.filter (Diagnostic.concerns q) = sub.map (.beneath q))
    (hsub : NothingBelow [] sub) : NothingBelow q ds := by
  intro d hd hq
  by_contra hne
  have hmem : d ∈ ds.filter (Diagnostic.concerns q) := by
    refine List.mem_filter.mpr ⟨hd, ?_⟩
    simp [Diagnostic.concerns, hq, hne]
  rw [h] at hmem
  obtain ⟨c, hc, rfl⟩ := List.mem_map.mp hmem
  have hroot := hsub c hc List.nil_prefix
  exact hne (by simp [Diagnostic.beneath, hroot])

/-- What accounts for a fault at a node accounts for it in the document. -/
theorem Accounts.beneath {fault : ResolveFault} {t : TypeId} {found : String}
    (h : ds.filter (Diagnostic.concerns q) = sub.map (.beneath q))
    (hsub : r.Accounts ⟨fault, [], t⟩ found sub) : r.Accounts ⟨fault, q, t⟩ found ds := by
  have hmem : ∀ {p : Problem}, ⟨[], p⟩ ∈ sub → ⟨q, p⟩ ∈ ds := by
    intro p hp
    simpa [Diagnostic.beneath] using mem_of_concerns h hp
  cases fault with
  | unknownProperty name typeName =>
    rcases hsub with hreported | hdotted
    · exact Or.inl (mem_of_concerns h hreported)
    · exact Or.inr hdotted
  | atomicType typeName => exact ⟨hmem hsub.1, nothingBelow_of_concerns h hsub.2⟩
  | notAMap typeName => exact ⟨hmem hsub.1, nothingBelow_of_concerns h hsub.2⟩
  | notSequencable typeName => exact ⟨hmem hsub.1, nothingBelow_of_concerns h hsub.2⟩
  | unknownType => exact ⟨hsub.1, nothingBelow_of_concerns h hsub.2⟩

end Beneath

end Registry

/-- Where a path goes on in a document and leaves the schema, the node at which it leaves is
reported as the fault says. -/
theorem validate_accounts (r : Registry) (o : CheckOptions) {root : TypeId} {doc : Node} {p : Path}
    {ns : List Node} {e : ResolveError} (hdoc : doc.WellFormed) (hstream : doc.isStream = false)
    (hp : p.IsConcrete) (hns : Node.descent.traverse [doc] p = .ok ns)
    (he : r.resolve root p = .error e) (habove : doc.NoStreamAbove e.resolved) :
    ∃ n, Node.descent.traverse [doc] e.resolved = .ok [n] ∧
      r.Accounts e n.kindName (r.validate o root doc) := by
  obtain ⟨s, rest, rfl, hok, herr⟩ := Registry.resolve_error_split he
  obtain ⟨n, hn, hrest⟩ := Node.exists_of_traverse_append hp.left hns
  obtain ⟨m, hleads, -, -⟩ := Node.traverse_cons_eq_ok hp.right.head hrest
  refine ⟨n, hn, ?_⟩
  rw [Registry.validate_eq_check hstream]
  exact Registry.Accounts.beneath (Registry.check_concerns hdoc hp.left hn hok habove)
    (Registry.accounts_of_next_error hleads herr)

/-- A mapping where a number is expected. -/
theorem validate_accounts_port :
    let b := ((Builder.new.bean "Server").2.addProperty ⟨5⟩ ⟨"port", .integer, none, none⟩).2
    let doc : Node := .mapping [("port", .mapping [("low", .number (.int 1))])]
    let p : Path := [.key "port", .key "low"]
    let e : ResolveError := ⟨.atomicType "Integer", [.key "port"], .integer⟩
    doc.WellFormed ∧ doc.isStream = false ∧ p.IsConcrete ∧
      Node.descent.traverse [doc] p = .ok [.number (.int 1)] ∧
      b.build.resolve ⟨5⟩ p = .error e ∧ doc.NoStreamAbove e.resolved ∧
      ∃ n, Node.descent.traverse [doc] e.resolved = .ok [n] ∧
        b.build.Accounts e n.kindName (b.build.validate ⟨true⟩ ⟨5⟩ doc) := by
  intro b doc p e
  have hdoc : doc.WellFormed := by simp [doc]
  have hp : p.IsConcrete := by simp [p, Path.IsConcrete, Segment.IsConcrete]
  have hns : Node.descent.traverse [doc] p = .ok [.number (.int 1)] := rfl
  have he : b.build.resolve ⟨5⟩ p = .error e := rfl
  have habove : doc.NoStreamAbove e.resolved := .cons rfl rfl (Node.noStreamAbove_nil _)
  exact ⟨hdoc, rfl, hp, hns, he, habove, validate_accounts b.build ⟨true⟩ hdoc rfl hp hns he habove⟩

/-- A list in a stream in a list of lists of numbers: the stream is reported in place of the
list. -/
theorem validate_accounts_nested_stream :
    let r := ((Builder.new.listOf .integer).2.listOf ⟨5⟩).2.build
    let doc : Node := .sequence [.stream [.sequence [.number (.int 1)]]]
    let p : Path := [.index 0, .index 0, .index 0]
    let e : ResolveError := ⟨.notSequencable "Integer", [.index 0, .index 0], .integer⟩
    doc.WellFormed ∧ doc.isStream = false ∧ p.IsConcrete ∧
      Node.descent.traverse [doc] p = .ok [.number (.int 1)] ∧ r.resolve ⟨6⟩ p = .error e ∧
      r.isAtomic e.reached ∧
      ∀ found, ⟨e.resolved, .expectedScalar (r.typeName e.reached) found⟩ ∉
        r.validate ⟨true⟩ ⟨6⟩ doc := by
  intro r doc p e
  have hdoc : doc.WellFormed := by simp [doc]
  have hp : p.IsConcrete := by simp [p, Path.IsConcrete, Segment.IsConcrete]
  refine ⟨hdoc, rfl, hp, rfl, rfl, rfl, ?_⟩
  intro found hmem
  have hreport : r.validate ⟨true⟩ ⟨6⟩ doc =
      [⟨[.index 0], .expectedSequence "List<Integer>" "document stream"⟩] := rfl
  rw [hreport, List.mem_singleton] at hmem
  have hpath : e.resolved = [.index 0] := congrArg Diagnostic.path hmem
  exact absurd hpath (by decide)

end TypedYaml
