import TypedYaml.Check
import TypedYaml.Completion
import TypedYaml.Proofs.Schema.Reachable

/-!
# What is proposed can be written

A proposal is made for one of two reasons. The name of a property is proposed where a path comes to
a bean, because only beans have properties, and so the path can be continued by that name. A value
is proposed where a path comes to an atomic type that is restricted to some values, and each of
these is accepted there, since a text is equal to itself in any case of its letters.

Conversely, no property is passed over but for its deprecation, its name or the limit, and since
the names of a bean differ each is proposed once.

* `Registry.resolve_append_of_ok`: a path may be resolved in two parts.
* `WellFormed.resolve_property`, `Registry.validate_hint`: what is proposed can be written.
* `Registry.wanted`, `Registry.filter_candidates`: all that should be proposed is.
* `Registry.complete_proposals`: all of this for the proposals after a path.
-/

namespace TypedYaml

/-- Whether a property should be proposed after the given text, if there is room for it. -/
def CompletionOptions.Wants (o : CompletionOptions) (start : String) (p : Property) : Prop :=
  (o.includeDeprecated ∨ ¬ p.isDeprecated) ∧
    Text.lowercase start.toList <+: Text.lowercase p.name.toList

instance (o : CompletionOptions) (start : String) : DecidablePred (o.Wants start) := fun p =>
  inferInstanceAs (Decidable ((o.includeDeprecated = true ∨ ¬ p.isDeprecated = true) ∧
    Text.lowercase start.toList <+: Text.lowercase p.name.toList))

namespace Registry

variable {r : Registry}

/-- The declared properties that should be proposed, in the order of declaration. -/
def wanted (r : Registry) (o : CompletionOptions) (start : String) (t : TypeId) : List Property :=
  (r.descriptor t).properties.filter (o.Wants start ·)

/-! ## Properties -/

/-- A property is below the end of a path that comes to its bean. -/
theorem WellFormed.resolve_property (h : r.WellFormed) {root t : TypeId} {path : Path}
    {p : Property} (ht : r.resolve root path = .ok t) (hp : p ∈ (r.descriptor t).properties) :
    r.resolve root (path ++ [.key p.name]) = .ok p.type := by
  have hbean : r.kind t = .bean := h.bean_of_properties t (List.ne_nil_of_mem hp)
  have hnext : r.next t (.key p.name) = .ok p.type := by
    rw [next_eq, hbean]
    simp only [h.property?_of_mem hp]
  rw [resolve_append_of_ok ht, resolve_cons_of_next [] hnext]
  rfl

/-! ## Values -/

/-- The value itself is among those to which the type is restricted. -/
theorem validate_hint (options : CheckOptions) {t : TypeId} {hint : String} (ht : r.isAtomic t)
    (hhint : hint ∈ (r.descriptor t).hints) : r.validate options t (.string hint) = [] := by
  have hkind : r.kind t = .atomic := by simpa [isAtomic] using ht
  have hsome : (r.descriptor t).hints.any (equalIgnoringCase · hint) :=
    List.any_eq_true.mpr ⟨hint, hhint, beq_self_eq_true _⟩
  have haccepts : r.accepts t (.string hint) hint := by
    simp [accepts, List.ne_nil_of_mem hhint, hsome]
  simp [validate, check, hkind, checkScalar, Node.scalarText?, haccepts]

/-! ## Candidates -/

theorem mem_candidates {includeDeprecated : Bool} {t : TypeId} {c : Completion}
    (hc : c ∈ r.candidates includeDeprecated t) :
    (∃ p ∈ (r.descriptor t).properties, c = r.propertyCompletion p) ∨
      r.isAtomic t ∧ ∃ hint ∈ (r.descriptor t).hints, c = r.valueCompletion t hint := by
  unfold candidates at hc
  split at hc
  · next hatomic =>
    obtain ⟨hint, hhint, rfl⟩ := List.mem_map.mp hc
    exact Or.inr ⟨hatomic, hint, hhint, rfl⟩
  · obtain ⟨p, hp, rfl⟩ := List.mem_map.mp hc
    exact Or.inl ⟨p, (List.mem_filter.mp hp).1, rfl⟩

/-- An atomic type has no properties, and any other proposes nothing else. -/
theorem WellFormed.filter_candidates (h : r.WellFormed) (o : CompletionOptions) (start : String)
    {t : TypeId} {p : Property} (hp : p ∈ r.wanted o start t) :
    (r.candidates o.includeDeprecated t).filter (fun c => matchesStart start c.label) =
      (r.wanted o start t).map r.propertyCompletion := by
  have hmem : p ∈ (r.descriptor t).properties := (List.mem_filter.mp hp).1
  have hbean : r.kind t = .bean := h.bean_of_properties t (List.ne_nil_of_mem hmem)
  have hatomic : r.isAtomic t = false := by simp [isAtomic, hbean]
  rw [candidates, hatomic, wanted]
  simp only [Bool.false_eq_true, if_false, List.filter_map, List.filter_filter]
  congr 2
  funext q
  rw [Bool.eq_iff_iff]
  simp [CompletionOptions.Wants, matchesStart, propertyCompletion, and_comm]

theorem complete_of_resolve {o : CompletionOptions} {root t : TypeId} {path : Path}
    (ht : r.resolve root path = .ok t) (start : String) :
    r.complete o root path start =
      ((r.candidates o.includeDeprecated t).filter fun c =>
        matchesStart start c.label).take o.maxResults := by
  rw [complete, ht]

theorem WellFormed.nodup_wanted (h : r.WellFormed) (o : CompletionOptions) (start : String)
    (t : TypeId) : ((r.wanted o start t).map Property.name).Nodup :=
  (h.property_nodup t).sublist (List.filter_sublist.map _)

end Registry

/-- Where a path leads out of the schema nothing is proposed. Elsewhere no more is proposed than
the limit allows, each proposed property continues the path, and each proposed value is accepted at
its end. The properties that should be proposed are, each in its place and nowhere else, as far as
the limit reaches. -/
theorem complete_proposals {r : Registry} (h : r.Built) (o : CompletionOptions) (root : TypeId)
    (path : Path) (start : String) :
    (∀ e, r.resolve root path = .error e → r.complete o root path start = []) ∧
      ∀ t, r.resolve root path = .ok t →
        (r.complete o root path start).length ≤ o.maxResults ∧
        (∀ c ∈ r.complete o root path start,
          (c.kind = .property → ∃ p ∈ (r.descriptor t).properties,
            c.label = p.name ∧ c.deprecated = p.isDeprecated ∧
              ∃ u, r.resolve root (path ++ [.key c.label]) = .ok u ∧ c.typeName = r.typeName u) ∧
          (c.kind = .value → ∀ options, r.validate options t (.string c.label) = [])) ∧
        ∀ i p, (r.wanted o start t)[i]? = some p → i < o.maxResults →
          (r.complete o root path start)[i]? = some (r.propertyCompletion p) ∧
          ∀ j c, (r.complete o root path start)[j]? = some c → c.label = p.name → j = i := by
  have hr := h.wellFormed
  constructor
  · intro e he
    rw [Registry.complete, he]
  intro t ht
  have hcomplete := Registry.complete_of_resolve (o := o) ht start
  refine ⟨?_, ?_, ?_⟩
  · rw [hcomplete]
    exact List.length_take_le _ _
  · intro c hc
    rw [hcomplete] at hc
    have hcandidate := (List.mem_filter.mp (List.mem_of_mem_take hc)).1
    rcases Registry.mem_candidates hcandidate with ⟨p, hp, rfl⟩ | ⟨hatomic, hint, hhint, rfl⟩
    · have hresolve := hr.resolve_property ht hp
      exact ⟨fun _ => ⟨p, hp, rfl, rfl, p.type, hresolve, rfl⟩, nofun⟩
    · exact ⟨nofun, fun _ options => Registry.validate_hint options hatomic hhint⟩
  · intro i p hp hi
    rw [hcomplete, hr.filter_candidates o start (List.mem_of_getElem? hp)]
    have hplace : ((r.wanted o start t).map r.propertyCompletion)[i]? =
        some (r.propertyCompletion p) := by
      rw [List.getElem?_map, hp]
      rfl
    refine ⟨by rw [List.getElem?_take_of_lt hi, hplace], ?_⟩
    intro j c hc hname
    have hlt : i < ((r.wanted o start t).map Property.name).length := by
      rw [List.length_map]
      exact (List.getElem?_eq_some_iff.mp hp).1
    have hall : ((r.wanted o start t).map r.propertyCompletion)[j]? = some c := by
      rw [List.getElem?_take] at hc
      split at hc
      · exact hc
      · cases hc
    rw [List.getElem?_map, Option.map_eq_some_iff] at hall
    obtain ⟨q, hq, rfl⟩ := hall
    have hsame : ((r.wanted o start t).map Property.name)[i]? =
        ((r.wanted o start t).map Property.name)[j]? := by
      rw [List.getElem?_map, List.getElem?_map, hp, hq]
      exact congrArg some hname.symm
    exact ((List.getElem?_inj hlt (hr.nodup_wanted o start t)).mp hsame).symm

/-- The second property that starts like this is the third that is declared. Below a key of the map
a level is proposed, which is accepted there, and an unknown property has nothing below it. -/
theorem complete_proposals_level :
    let ops : List Builder.Operation :=
      [.bean "Config", .enumeration "Level" ["TRACE", "DEBUG"], .mapOf ⟨6⟩,
        .addProperty ⟨5⟩ ⟨"levels", ⟨7⟩, none, none⟩,
        .addProperty ⟨5⟩ ⟨"legacy", .string, none, some ⟨none, none⟩⟩,
        .addProperty ⟨5⟩ ⟨"Level", ⟨6⟩, some "Root level", none⟩]
    let r := (ops.foldl Builder.Operation.apply .new).build
    let o : CompletionOptions := ⟨false, 2⟩
    let level : Completion := ⟨"Level", .property, "Level", some "Root level", false⟩
    let debug : Completion := ⟨"DEBUG", .value, "Level", none, false⟩
    let path : Path := [.key "levels", .key "com.example"]
    r.Built ∧ r.complete o ⟨5⟩ [.key "bogus"] "" = [] ∧
      (r.complete o ⟨5⟩ [] "LE")[1]? = some level ∧
      (∃ u, r.resolve ⟨5⟩ [.key "Level"] = .ok u ∧ r.typeName u = "Level") ∧
      debug ∈ r.complete o ⟨5⟩ path "d" ∧ r.validate ⟨true⟩ ⟨6⟩ (.string "DEBUG") = [] := by
  intro ops r o level debug path
  have hconfig := Builder.Reachable.new.step (.bean "Config") (by decide)
  have henumeration := hconfig.step (.enumeration "Level" ["TRACE", "DEBUG"]) (by decide)
  have hmap := henumeration.step (.mapOf ⟨6⟩) (by decide)
  have hlevels := hmap.step (.addProperty ⟨5⟩ ⟨"levels", ⟨7⟩, none, none⟩) (by decide)
  have hlegacy := hlevels.step
    (.addProperty ⟨5⟩ ⟨"legacy", .string, none, some ⟨none, none⟩⟩) (by decide)
  have hroot := hlegacy.step (.addProperty ⟨5⟩ ⟨"Level", ⟨6⟩, some "Root level", none⟩) (by decide)
  have hr : r.Built := ⟨_, hroot, Or.inl rfl⟩
  have hbogus := (complete_proposals hr o ⟨5⟩ [.key "bogus"] "").1 _ rfl
  obtain ⟨-, hsound, hplace⟩ := (complete_proposals hr o ⟨5⟩ [] "LE").2 ⟨5⟩ rfl
  have hwanted : (r.wanted o "LE" ⟨5⟩)[1]? = some ⟨"Level", ⟨6⟩, some "Root level", none⟩ := by
    decide +kernel
  have hsecond := (hplace 1 _ hwanted (by decide)).1
  obtain ⟨p, -, -, -, u, hu, hname⟩ := (hsound level (List.mem_of_getElem? hsecond)).1 rfl
  have hdebug : debug ∈ r.complete o ⟨5⟩ path "d" := by decide +kernel
  obtain ⟨-, hvalues, -⟩ := (complete_proposals hr o ⟨5⟩ path "d").2 ⟨6⟩ rfl
  exact ⟨hr, hbogus, hsecond, ⟨u, hu, hname.symm⟩, hdebug, (hvalues debug hdebug).2 rfl ⟨true⟩⟩

end TypedYaml
