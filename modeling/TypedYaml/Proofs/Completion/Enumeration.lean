import TypedYaml.Proofs.Check.Locality
import TypedYaml.Proofs.Completion.Narrowing
import TypedYaml.Proofs.Definition.Building
import TypedYaml.Proofs.Schema.Growth

/-!
# The values of an enumeration

An enumeration is kept as an atomic type with its values as hints, and nothing else tells it from
other atomic types. A check and a completion both read the hints. The completion proposes all of
them where nothing has been typed (`complete_enumeration`), and the check compares the text of a
scalar with each of them (`validate_scalar_eq_nil_iff`), so they agree on what may be written.

They do not if there are no values. Nothing is proposed then, but a type without hints is taken for
an unrestricted one, and every scalar is accepted.

* `Registry.Enumeration`: types that were declared as enumerations.
* `validate_enumeration`: which scalars are accepted.
-/

namespace TypedYaml

namespace Registry

/-- The type was declared as an enumeration of the values, in a builder that was used further, or in
a definition. -/
inductive Enumeration (r : Registry) (t : TypeId) (values : List String) : Prop
  | declared {b c : Builder} {name : String} (hb : b.Reachable)
      (ht : (b.enumeration name values).1 = .ok t) (hrun : (b.enumeration name values).2.Run c)
      (hr : r = c.build ∨ ∃ root, r = c.build.withRoot root)
  | defined {f : SchemaDefinition} {name : String} {d : TypeDefinition} (hf : f.Distinct)
      (hr : f.build = .ok r) (hd : (name, d) ∈ f.types) (hvalues : d.values = some values)
      (ht : r.lookup name = some t)

/-! ## Declared enumerations -/

end Registry

namespace Builder

variable {b : Builder} {t : TypeId}

/-- The new type comes behind those that are there. -/
theorem of_declare {d : Descriptor} (h : (b.declare d).1 = .ok t) :
    t = b.next ∧ (b.declare d).2.types = b.types ++ [d] := by
  unfold declare at h ⊢
  cases hname : b.lookup d.name with
  | some u => simp [hname] at h
  | none =>
    simp only [hname, Except.ok.injEq] at h
    exact ⟨h.symm, rfl⟩

theorem descriptor_declare {d : Descriptor} (h : (b.declare d).1 = .ok t) :
    t.index < (b.declare d).2.types.length ∧ (b.declare d).2.descriptor t = d := by
  obtain ⟨rfl, htypes⟩ := of_declare h
  rw [descriptor, htypes]
  simp [next]

end Builder

namespace Registry

variable {r : Registry} {t : TypeId} {values : List String}

/-- However it was declared, the type is atomic and has the values as hints, and it is none of the
predeclared types. -/
theorem Enumeration.spec (h : r.Enumeration t values) :
    5 ≤ t.index ∧ r.kind t = .atomic ∧ (r.descriptor t).hints = values := by
  cases h with
  | @declared b c name hb ht hrun hr =>
    obtain ⟨hlt, hdescriptor⟩ : t.index < (b.enumeration name values).2.types.length ∧
        (b.enumeration name values).2.descriptor t =
          { Descriptor.new name .atomic with hints := values } := Builder.descriptor_declare ht
    have hgrows := hrun.grows.descriptor t hlt
    rw [hdescriptor] at hgrows
    have hsize : 5 ≤ b.types.length := hb.wellFormed.types.size_ge
    have htypes : r.descriptor t = c.descriptor t := by
      rcases hr with rfl | ⟨root, rfl⟩ <;> rfl
    refine ⟨?_, ?_, ?_⟩
    · rw [(Builder.of_declare ht).1]
      exact hsize
    · rw [kind, htypes, hgrows.kind]
      rfl
    · rw [htypes, hgrows.hints]
  | @defined f name d hf hr hd hvalues ht =>
    have hdescribes := ((SchemaDefinition.build_settles hf).post r hr).1
    obtain ⟨i, hi⟩ := List.mem_iff_getElem?.mp hd
    have hname := (hdescribes.lookup_iff name ⟨5 + i⟩).mpr (Or.inr ⟨i, d, hi, rfl⟩)
    obtain rfl : t = ⟨5 + i⟩ := Option.some.inj (ht.symm.trans hname)
    have htype := hdescribes.definition i name d hi
    refine ⟨Nat.le_add_right 5 i, ?_, ?_⟩
    · rw [kind, htype.kind]
      simp [TypeDefinition.isBean, hvalues]
    · rw [htype.hints, hvalues]
      rfl

/-! ## The check -/

/-- At an atomic type, a scalar is accepted or reported. -/
theorem validate_scalar_eq_nil_iff (options : CheckOptions) (ht : r.kind t = .atomic) {n : Node}
    {text : String} (hnull : n ≠ .null) (htext : n.scalarText? = some text) :
    r.validate options t n = [] ↔ r.accepts t n text := by
  have hstream : n.isStream = false := by cases n <;> first | rfl | cases htext
  have hcheck : r.check options t n = r.checkScalar t n := by
    rw [check_eq, ht]
    cases n <;> first | rfl | exact absurd rfl hnull
  rw [validate_eq_check hstream, hcheck, checkScalar, htext]
  simp

/-- The hints of a type are compared with the text, if there are any. -/
theorem accepts_of_hints (hne : (r.descriptor t).hints ≠ []) (n : Node) (text : String) :
    r.accepts t n text ↔ ∃ hint ∈ (r.descriptor t).hints, equalIgnoringCase hint text := by
  simp [accepts, hne]

theorem accepts_of_no_hints (hnil : (r.descriptor t).hints = []) (ht : 5 ≤ t.index) (n : Node)
    (text : String) : r.accepts t n text := by
  have hinteger : t ≠ .integer := by
    rintro rfl
    exact absurd ht (by decide)
  have hfloat : t ≠ .float := by
    rintro rfl
    exact absurd ht (by decide)
  simp [accepts, hnil, hinteger, hfloat]

/-! ## The completion -/

theorem matchesStart_empty (label : String) : matchesStart "" label :=
  (matchesStart_eq "" label).mpr (List.nil_prefix)

/-- Where nothing has been typed all values are proposed, if there is room for them. -/
theorem complete_enumeration {o : CompletionOptions} {root : TypeId} {path : Path}
    (hpath : r.resolve root path = .ok t) (ht : r.kind t = .atomic)
    (hroom : (r.descriptor t).hints.length ≤ o.maxResults) :
    r.complete o root path "" = (r.descriptor t).hints.map (r.valueCompletion t) := by
  have hatomic : r.isAtomic t := by simp [isAtomic, ht]
  have hcandidates : r.candidates o.includeDeprecated t =
      (r.descriptor t).hints.map (r.valueCompletion t) := by
    rw [candidates, if_pos hatomic]
  rw [complete_of_room hpath (by rwa [hcandidates, List.length_map]), hcandidates,
    List.filter_eq_self]
  exact fun c _ => matchesStart_empty c.label

end Registry

/-! ## Both -/

/-- A scalar is accepted as a value of an enumeration exactly if its text is proposed, up to the
case of its letters. Only an enumeration without values accepts every scalar and proposes none. -/
theorem validate_enumeration {r : Registry} {t : TypeId} {values : List String}
    (h : r.Enumeration t values) (options : CheckOptions) {o : CompletionOptions} {root : TypeId}
    {path : Path} (hpath : r.resolve root path = .ok t) (hroom : values.length ≤ o.maxResults)
    {n : Node} {text : String} (hnull : n ≠ .null) (htext : n.scalarText? = some text) :
    (values ≠ [] → (r.validate options t n = [] ↔
      ∃ c ∈ r.complete o root path "", Registry.equalIgnoringCase c.label text)) ∧
    (values = [] → r.validate options t n = [] ∧ r.complete o root path "" = []) := by
  obtain ⟨hindex, hkind, rfl⟩ := h.spec
  have hcheck := Registry.validate_scalar_eq_nil_iff options hkind hnull htext
  have hcomplete := Registry.complete_enumeration hpath hkind hroom
  constructor
  · intro hne
    rw [hcheck, Registry.accepts_of_hints hne, hcomplete]
    simp [Registry.valueCompletion]
  · intro hnil
    refine ⟨hcheck.mpr (Registry.accepts_of_no_hints hnil hindex n text), ?_⟩
    rw [hcomplete, hnil, List.map_nil]

/-- A boolean that is written like one of the values in other letters, and a number that is not. -/
theorem validate_enumeration_switch :
    let switch : TypeDefinition := ⟨none, some ["on", "TRUE", "0"], false, []⟩
    let modes : PropertyDefinition := .short "Map<String, Switch>"
    let f : SchemaDefinition :=
      ⟨some "Config", [("Config", ⟨none, none, false, [("modes", modes)]⟩), ("Switch", switch)]⟩
    let path : Path := [.key "modes", .key "main"]
    ∃ r, f.build = .ok r ∧ r.Enumeration ⟨6⟩ ["on", "TRUE", "0"] ∧ r.resolve ⟨5⟩ path = .ok ⟨6⟩ ∧
      (∃ c ∈ r.complete ⟨false, 3⟩ ⟨5⟩ path "", Registry.equalIgnoringCase c.label "true") ∧
      r.validate ⟨true⟩ ⟨6⟩ (.bool true) = [] ∧
      (¬ ∃ c ∈ r.complete ⟨false, 3⟩ ⟨5⟩ path "", Registry.equalIgnoringCase c.label "1") ∧
      r.validate ⟨true⟩ ⟨6⟩ (.number (.int 1)) ≠ [] := by
  intro switch modes f path
  have hf : f.Distinct := ⟨by decide, by decide⟩
  obtain ⟨r, hr, ht, hpath, htrue, hone⟩ : ∃ r ∈ f.build.toOption, r.lookup "Switch" = some ⟨6⟩ ∧
      r.resolve ⟨5⟩ path = .ok ⟨6⟩ ∧ (r.validate ⟨true⟩ ⟨6⟩ (.bool true)).isEmpty ∧
      (r.validate ⟨true⟩ ⟨6⟩ (.number (.int 1))).isEmpty = false := by
    decide +kernel
  have hr : f.build = .ok r := toOption_eq_some_iff.mp hr
  have henumeration : r.Enumeration ⟨6⟩ ["on", "TRUE", "0"] :=
    .defined hf hr (List.mem_cons_of_mem _ List.mem_cons_self) rfl ht
  have hbool := (validate_enumeration henumeration ⟨true⟩ (o := ⟨false, 3⟩) hpath (by decide)
    (n := .bool true) nofun rfl).1 (by decide)
  have hnumber := (validate_enumeration henumeration ⟨true⟩ (o := ⟨false, 3⟩) hpath (by decide)
    (n := .number (.int 1)) nofun rfl).1 (by decide)
  have htrue := List.isEmpty_iff.mp htrue
  have hone := List.isEmpty_eq_false_iff.mp hone
  exact ⟨r, hr, henumeration, hpath, hbool.mp htrue, htrue, mt hnumber.mpr hone, hone⟩

/-- Nothing is proposed, but everything is accepted. -/
theorem validate_enumeration_empty :
    let r := (Builder.new.enumeration "Level" []).2.build
    r.Enumeration ⟨5⟩ [] ∧ Node.scalarText? (.string "INFO") = some "INFO" ∧
      r.validate ⟨true⟩ ⟨5⟩ (.string "INFO") = [] ∧
      ¬ ∃ c ∈ r.complete ⟨false, 50⟩ ⟨5⟩ [] "", Registry.equalIgnoringCase c.label "INFO" := by
  intro r
  have henumeration : r.Enumeration ⟨5⟩ [] := .declared .new rfl .refl (Or.inl rfl)
  have hcomplete : r.complete ⟨false, 50⟩ ⟨5⟩ [] "" = [] := by decide +kernel
  exact ⟨henumeration, rfl, rfl, by rw [hcomplete]; exact nofun⟩

end TypedYaml
