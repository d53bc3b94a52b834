import Mathlib.Data.List.Forall2
import Mathlib.Data.List.Nodup
import TypedYaml.Proofs.Definition.Declaring

/-!
# Adding the properties of a definition

When all types are declared, the properties are added to the beans one after the other. The lists
and maps that their types need come into being on the way, behind all declared types. What was said
of a property stays right, since builders grow.

Adding a property can fail for one reason only: its type is not spelled by any expression over a
name that was declared. The builder would also refuse a second property of one name and a property
of something that is no bean, but no definition comes to that.

* `Builder.Filled`: the builder after some properties were added.
* `PropertyDefinition.addTo_settles`: one property.
* `SchemaDefinition.fillTypes_settles`: all properties of all types.
-/

namespace TypedYaml

open TypeGrammar

/-- A property that is to be added, with its bean. -/
abbrev Addition := TypeId × String × PropertyDefinition

/-- The additions to one bean. -/
def additionsTo (t : TypeId) (done : List Addition) : Entries PropertyDefinition :=
  (done.filter (·.1 = t)).map Prod.snd

theorem additionsTo_append (t : TypeId) (done more : List Addition) :
    additionsTo t (done ++ more) = additionsTo t done ++ additionsTo t more := by
  simp [additionsTo]

theorem additionsTo_self (t : TypeId) (properties : Entries PropertyDefinition) :
    additionsTo t (properties.map fun y => (t, y)) = properties := by
  simp [additionsTo, List.filter_map, Function.comp_def]

theorem additionsTo_of_ne {t u : TypeId} (h : u ≠ t) (properties : Entries PropertyDefinition) :
    additionsTo t (properties.map fun y => (u, y)) = [] := by
  simp [additionsTo, List.filter_map, Function.comp_def, h]

theorem additionsTo_concat_self (t : TypeId) (done : List Addition) (name : String)
    (d : PropertyDefinition) :
    additionsTo t (done ++ [(t, name, d)]) = additionsTo t done ++ [(name, d)] := by
  rw [additionsTo_append]
  exact congrArg _ (additionsTo_self t [(name, d)])

theorem additionsTo_concat_of_ne {t u : TypeId} (h : u ≠ t) (done : List Addition) (name : String)
    (d : PropertyDefinition) : additionsTo t (done ++ [(u, name, d)]) = additionsTo t done := by
  rw [additionsTo_append]
  have hnone : additionsTo t [(u, name, d)] = [] := additionsTo_of_ne h [(name, d)]
  rw [hnone, List.append_nil]

/-! ## What a property says -/

namespace DeprecationDefinition

theorem says_deprecation (deprecated : Option DeprecationDefinition) :
    Says deprecated (deprecated.bind deprecation?) := by
  match deprecated with
  | none => exact .nothing
  | some (.flag false) => exact .current
  | some (.flag true) => exact .deprecated
  | some (.details replacement reason) => exact .details replacement reason

/-- Nothing says two things. -/
theorem Says.unique {deprecated : Option DeprecationDefinition} {c c' : Option Deprecation}
    (h : Says deprecated c) (h' : Says deprecated c') : c = c' := by
  cases h <;> cases h' <;> rfl

end DeprecationDefinition

namespace PropertyDefinition

/-- The type is spelled by an expression over a name that the builder knows. -/
def Known (b : Builder) (d : PropertyDefinition) : Prop :=
  ∃ e, Expression d.type.toList e ∧ (b.lookup e.base).isSome

theorem type_property (name : String) (t : TypeId) (d : PropertyDefinition) :
    (d.property name t).type = t := by
  cases d <;> rfl

/-- In either form a property has the type that its expression denotes. -/
theorem describes_property {r : Registry} {d : PropertyDefinition} {e : TypeExpr} {t : TypeId}
    (he : Expression d.type.toList e) (ht : r.Denotes e t) (name : String) :
    d.Describes r name (d.property name t) := by
  cases d with
  | short type => exact .short he ht
  | full type description deprecated =>
    exact .full he ht (DeprecationDefinition.says_deprecation deprecated)

theorem Describes.name_eq {r : Registry} {name : String} {d : PropertyDefinition} {p : Property}
    (h : d.Describes r name p) : p.name = name := by
  cases h <;> rfl

theorem Describes.exists_denotes {r : Registry} {name : String} {d : PropertyDefinition}
    {p : Property} (h : d.Describes r name p) :
    ∃ e, Expression d.type.toList e ∧ r.Denotes e p.type := by
  cases h with
  | short he ht | full he ht _ => exact ⟨_, he, ht⟩

/-- A registry in which more expressions denote something is described by the same property. -/
theorem Describes.mono {r r' : Registry} {name : String} {d : PropertyDefinition} {p : Property}
    (h : d.Describes r name p) (hdenotes : ∀ e t, r.Denotes e t → r'.Denotes e t) :
    d.Describes r' name p := by
  cases h with
  | short he ht => exact .short he (hdenotes _ _ ht)
  | full he ht hdeprecated => exact .full he (hdenotes _ _ ht) hdeprecated

theorem Describes.grows {b b' : Builder} {name : String} {d : PropertyDefinition} {p : Property}
    (h : d.Describes b.build name p) (hgrows : b.Grows b') : d.Describes b'.build name p :=
  h.mono fun _ _ ht =>
    Builder.denotes_registry.mpr (hgrows.denotes (Builder.denotes_registry.mp ht))

theorem names_of_describes {r : Registry} {ds : Entries PropertyDefinition} {ps : List Property}
    (h : List.Forall₂ (fun y p => y.2.Describes r y.1 p) ds ps) :
    ps.map Property.name = ds.map Prod.fst := by
  induction h with
  | nil => rfl
  | cons hp _ ih => rw [List.map_cons, List.map_cons, hp.name_eq, ih]

end PropertyDefinition

namespace Builder

/-- The builder after some properties were added to the beans of another: the types that were there
differ in their properties only, and behind them are lists and maps that the definition mentions. -/
structure Filled (f : SchemaDefinition) (b₀ : Builder) (done : List Addition) (b : Builder) :
    Prop where
  wellFormed : b.WellFormed
  names : b.names = b₀.names
  length_le : b₀.types.length ≤ b.types.length
  old : ∀ t, t.index < b₀.types.length →
    b.descriptor t = { b₀.descriptor t with properties := (b.descriptor t).properties }
  properties : ∀ t, t.index < b₀.types.length →
    List.Forall₂ (fun y p => y.2.Describes b.build y.1 p) (additionsTo t done)
      (b.descriptor t).properties
  added : ∀ t : TypeId, b₀.types.length ≤ t.index → t.index < b.types.length →
    ∃ e, f.Mentions e ∧ ∃ c ∈ e.containers, b.Denotes c t

variable {f : SchemaDefinition} {b₀ b b' : Builder} {done : List Addition}

namespace Filled

theorem lookup_eq (h : Filled f b₀ done b) (name : String) : b.lookup name = b₀.lookup name := by
  rw [lookup, h.names, lookup]

theorem kind_eq (h : Filled f b₀ done b) {t : TypeId} (ht : t.index < b₀.types.length) :
    (b.descriptor t).kind = (b₀.descriptor t).kind := by
  rw [h.old t ht]

/-! ## One property -/

/-- The containers of its type come behind all others. -/
theorem of_adds {e : TypeExpr} {new : List TypeExpr} (h : Filled f b₀ done b)
    (hb' : b'.WellFormed) (he : f.Mentions e) (hlacks : b.Lacks e new) (hadds : b.Adds new b') :
    Filled f b₀ done b' := by
  have hextends : b.Extends b' := .of_names_eq hadds.types hadds.names
  have hgrows := hextends.grows
  have hsame : ∀ t, t.index < b₀.types.length → b'.descriptor t = b.descriptor t :=
    fun t ht => hextends.descriptor_eq (Nat.lt_of_lt_of_le ht h.length_le)
  refine ⟨hb', hadds.names.trans h.names, Nat.le_trans h.length_le hgrows.length_le, ?_, ?_, ?_⟩
  · intro t ht
    rw [hsame t ht]
    exact h.old t ht
  · intro t ht
    rw [hsame t ht]
    exact (h.properties t ht).imp fun _ _ hp => hp.grows hgrows
  · intro t ht hlt
    by_cases hold : t.index < b.types.length
    · obtain ⟨e', he', c, hc, hdenotes⟩ := h.added t ht hold
      exact ⟨e', he', c, hc, hgrows.denotes hdenotes⟩
    · obtain ⟨i, hi⟩ := Nat.exists_eq_add_of_le (Nat.le_of_not_lt hold)
      obtain ⟨c, hc⟩ : ∃ c, new[i]? = some c := by
        refine ⟨_, List.getElem?_eq_getElem ?_⟩
        have hlength := hadds.length
        omega
      obtain ⟨known, hcontainers, -, -⟩ := hlacks
      have hmem : c ∈ e.containers :=
        hcontainers ▸ List.mem_append_right _ (List.mem_of_getElem? hc)
      have hdenotes := hadds.denotes i c hc
      rw [← hi] at hdenotes
      exact ⟨e, he, c, hmem, hdenotes⟩

variable {t : TypeId} {name : String} {d : PropertyDefinition} {p : Property}

theorem addProperty_eq_ok (h : Filled f b₀ done b) (ht : t.index < b₀.types.length)
    (hbean : (b₀.descriptor t).kind = .bean)
    (hname : name ∉ (additionsTo t done).map Prod.fst) (hp : d.Describes b.build name p) :
    (b.addProperty t p).1 = .ok () := by
  have hkind : (b.descriptor t).kind = .bean := (h.kind_eq ht).trans hbean
  have hfree : (b.descriptor t).property? p.name = none := by
    rw [← PropertyDefinition.names_of_describes (h.properties t ht), ← hp.name_eq] at hname
    simpa [Descriptor.property?] using hname
  simp [Builder.addProperty, hkind, hfree]

/-- The property comes behind the others of its bean. -/
theorem addProperty (h : Filled f b₀ done b) (ht : t.index < b₀.types.length)
    (hok : (b.addProperty t p).1 = .ok ()) (hp : d.Describes b.build name p)
    (hlt : p.type.index < b.types.length) :
    Filled f b₀ (done ++ [(t, name, d)]) (b.addProperty t p).2 := by
  have htlt : t.index < b.types.length := Nat.lt_of_lt_of_le ht h.length_le
  have hgrows := grows_addProperty t p b
  have hwellFormed := (h.wellFormed.addProperty htlt hlt).wellFormed
  have heq := addProperty_of_ok hok
  generalize (b.addProperty t p).2 = b' at hgrows hwellFormed heq ⊢
  have hnames : b'.names = b.names := by rw [heq, modify]
  have hlength : b'.types.length = b.types.length := by rw [heq, modify, List.length_modify]
  have hdescriptor : ∀ u : TypeId, u.index < b₀.types.length → b'.descriptor u =
      if u = t then { b.descriptor u with properties := (b.descriptor u).properties ++ [p] }
      else b.descriptor u := by
    intro u hu
    rw [heq]
    exact b.descriptor_modify _ (Nat.lt_of_lt_of_le hu h.length_le)
  refine ⟨hwellFormed, hnames.trans h.names, hlength ▸ h.length_le, ?_, ?_, ?_⟩
  · intro u hu
    rw [hdescriptor u hu]
    split
    · rw [h.old u hu]
    · exact h.old u hu
  · intro u hu
    rw [hdescriptor u hu]
    have hold := (h.properties u hu).imp fun _ _ hq => hq.grows hgrows
    split
    · next hut =>
      subst hut
      rw [additionsTo_concat_self]
      exact List.rel_append hold (.cons (hp.grows hgrows) .nil)
    · next hut =>
      rw [additionsTo_concat_of_ne (Ne.symm hut)]
      exact hold
  · intro u hle hu
    obtain ⟨e, he, c, hc, hdenotes⟩ := h.added u hle (hlength ▸ hu)
    exact ⟨e, he, c, hc, hgrows.denotes hdenotes⟩

end Filled

end Builder

namespace PropertyDefinition

open Builder

variable {f : SchemaDefinition} {b₀ b : Builder} {done : List Addition} {t : TypeId}

theorem addTo_settles {name : String} {d : PropertyDefinition} (h : Filled f b₀ done b)
    (ht : t.index < b₀.types.length) (hbean : (b₀.descriptor t).kind = .bean)
    (hname : name ∉ (additionsTo t done).map Prod.fst)
    (hmentions : ∀ e, Expression d.type.toList e → f.Mentions e) (typeName : String) :
    Settles (d.addTo typeName t name b) (d.Known b₀) (Filled f b₀ (done ++ [(t, name, d)])) := by
  unfold addTo
  by_cases hknown : d.Known b₀
  · obtain ⟨e, he, hbase⟩ := id hknown
    rw [← h.lookup_eq] at hbase
    obtain ⟨u, new, b', hrun, hu, hlacks, hadds⟩ := h.wellFormed.yields_of_lookup hbase
    have hsound := h.wellFormed.denote "" e
    rw [hrun ""] at hsound
    have hfilled := h.of_adds hsound.wellFormed (hmentions e he) hlacks hadds
    have hp : d.Describes b'.build name (d.property name u) :=
      describes_property he (denotes_registry.mpr hu) name
    have hlt : (d.property name u).type.index < b'.types.length := by
      rw [type_property]
      exact hsound.given_lt u rfl
    have hok := hfilled.addProperty_eq_ok ht hbean hname hp
    have hnext := hfilled.addProperty ht hok hp hlt
    rw [typeOf_of_expression he, hrun]
    generalize hadd : b'.addProperty t _ = result at hok hnext
    obtain ⟨outcome, b''⟩ := result
    cases hok
    simp only [hadd]
    exact .ok hknown hnext
  · cases hrun : b.typeOf d.type (referencedBy name typeName) with
    | mk outcome b' =>
      cases outcome with
      | error x => exact .error x hknown
      | ok u =>
        have hok : (b.typeOf d.type (referencedBy name typeName)).1.isOk := by rw [hrun]; rfl
        obtain ⟨e, he, hbase⟩ := (h.wellFormed.isOk_typeOf_iff _ _).mp hok
        exact absurd ⟨e, he, h.lookup_eq e.base ▸ hbase⟩ hknown

end PropertyDefinition

namespace SchemaDefinition

open Builder

variable {f : SchemaDefinition} {b₀ b : Builder} {done : List Addition} {t : TypeId}

theorem addProperties_settles {properties : Entries PropertyDefinition} (h : Filled f b₀ done b)
    (ht : t.index < b₀.types.length)
    (hbean : properties ≠ [] → (b₀.descriptor t).kind = .bean)
    (hnodup : ((additionsTo t done ++ properties).map Prod.fst).Nodup)
    (hmentions : ∀ y ∈ properties, ∀ e, Expression y.2.type.toList e → f.Mentions e)
    (typeName : String) :
    Settles (addProperties typeName t properties b) (∀ y ∈ properties, y.2.Known b₀)
      (Filled f b₀ (done ++ properties.map fun y => (t, y))) := by
  induction properties generalizing b done with
  | nil =>
    refine .ok nofun ?_
    rwa [List.map_nil, List.append_nil]
  | cons y properties ih =>
    obtain ⟨name, d⟩ := y
    have hkind := hbean (List.cons_ne_nil _ _)
    have hname : name ∉ (additionsTo t done).map Prod.fst := by
      rw [List.map_append, List.nodup_append] at hnodup
      intro hmem
      exact hnodup.2.2 name hmem name List.mem_cons_self rfl
    have hfirst := PropertyDefinition.addTo_settles h ht hkind hname
      (hmentions (name, d) List.mem_cons_self) typeName
    refine (hfirst.bind fun b' _ hb' => ih hb' (fun _ => hkind) ?_ ?_).congr List.forall_mem_cons ?_
    · rwa [additionsTo_concat_self, List.append_assoc]
    · exact fun y hy => hmentions y (List.mem_cons_of_mem _ hy)
    · intro b' hb'
      rwa [List.append_assoc] at hb'

/-- The properties of the types, each with the bean to which its type's name leads. -/
def additions (b₀ : Builder) (ts : Entries TypeDefinition) : List Addition :=
  ts.flatMap fun x =>
    match b₀.lookup x.1 with
    | some t => x.2.properties.map fun y => (t, y)
    | none => []

theorem additions_append (b₀ : Builder) (ts us : Entries TypeDefinition) :
    additions b₀ (ts ++ us) = additions b₀ ts ++ additions b₀ us :=
  List.flatMap_append

theorem additions_singleton {name : String} (d : TypeDefinition) (ht : b₀.lookup name = some t) :
    additions b₀ [(name, d)] = d.properties.map fun y => (t, y) := by
  simp [additions, ht]

theorem additionsTo_additions_of_ne {ts : Entries TypeDefinition}
    (h : ∀ x ∈ ts, b₀.lookup x.1 ≠ some t) : additionsTo t (additions b₀ ts) = [] := by
  induction ts with
  | nil => rfl
  | cons x ts ih =>
    obtain ⟨hx, hts⟩ := List.forall_mem_cons.mp h
    rw [← List.singleton_append, additions_append, additionsTo_append, ih hts, List.append_nil]
    cases hu : b₀.lookup x.1 with
    | none => simp [additions, hu, additionsTo]
    | some u =>
      rw [additions_singleton x.2 hu]
      refine additionsTo_of_ne (fun heq => hx ?_) _
      rw [hu, heq]

/-- The names differ, so none but a type's own properties go to its bean. -/
theorem lookup_ne_of_distinct (hb₀ : b₀.WellFormed) {before after : Entries TypeDefinition}
    {name : String} {d : TypeDefinition}
    (hnodup : ((before ++ (name, d) :: after).map Prod.fst).Nodup)
    (ht : b₀.lookup name = some t) : ∀ x ∈ before ++ after, b₀.lookup x.1 ≠ some t := by
  intro x hx hxt
  have hsame : x.1 = name := hb₀.lookup_inj hxt ht
  rw [List.map_append, List.map_cons, List.nodup_middle, List.nodup_cons,
    ← List.map_append] at hnodup
  have hmem : x.1 ∈ (before ++ after).map Prod.fst := List.mem_map_of_mem hx
  exact hnodup.1 (hsame ▸ hmem)

theorem additionsTo_additions (hb₀ : b₀.WellFormed) {ts : Entries TypeDefinition} {name : String}
    {d : TypeDefinition} (hnodup : (ts.map Prod.fst).Nodup) (hmem : (name, d) ∈ ts)
    (ht : b₀.lookup name = some t) : additionsTo t (additions b₀ ts) = d.properties := by
  obtain ⟨before, after, rfl⟩ := List.append_of_mem hmem
  obtain ⟨hbefore, hafter⟩ :=
    List.forall_mem_append.mp (lookup_ne_of_distinct hb₀ hnodup ht)
  rw [← List.singleton_append, additions_append, additions_append, additionsTo_append,
    additionsTo_append, additionsTo_additions_of_ne hbefore, additionsTo_additions_of_ne hafter,
    additions_singleton d ht, additionsTo_self, List.nil_append, List.append_nil]

/-! ## All types -/

theorem fillTypes_settles (hdistinct : f.Distinct)
    (hbeans : ∀ x ∈ f.types, x.2.isBean = false → x.2.properties = [])
    (hdeclared : Builder.new.Declared f.types b₀) {before ts : Entries TypeDefinition}
    (hts : f.types = before ++ ts) (h : Filled f b₀ (additions b₀ before) b) :
    Settles (fillTypes ts b) (∀ x ∈ ts, ∀ y ∈ x.2.properties, y.2.Known b₀)
      (Filled f b₀ (additions b₀ f.types)) := by
  induction ts generalizing before b with
  | nil =>
    rw [List.append_nil] at hts
    exact .ok nofun (hts ▸ h)
  | cons x ts ih =>
    obtain ⟨name, d⟩ := x
    have hi : f.types[before.length]? = some (name, d) := by simp [hts]
    have hmem : (name, d) ∈ f.types := List.mem_of_getElem? hi
    have ht := hdeclared.lookup_of_getElem? wellFormed_new hi
    have hdescriptor := hdeclared.descriptor_new hi
    generalize (⟨Builder.new.types.length + before.length⟩ : TypeId) = t at ht hdescriptor
    have hlt : t.index < b₀.types.length :=
      ((hdeclared.wellFormed.names.lookup_iff name t).mp ht).1
    have hbean : d.properties ≠ [] → (b₀.descriptor t).kind = .bean := by
      intro hne
      rw [hdescriptor, TypeDefinition.declared]
      cases hd : d.isBean with
      | true => rfl
      | false => exact absurd (hbeans _ hmem hd) hne
    have hnone : additionsTo t (additions b₀ before) = [] := by
      have hne := lookup_ne_of_distinct hdeclared.wellFormed (hts ▸ hdistinct.types) ht
      exact additionsTo_additions_of_ne (List.forall_mem_append.mp hne).1
    have hnodup : ((additionsTo t (additions b₀ before) ++ d.properties).map Prod.fst).Nodup := by
      rw [hnone, List.nil_append]
      exact hdistinct.properties _ hmem
    have hmentions : ∀ y ∈ d.properties, ∀ e, Expression y.2.type.toList e → f.Mentions e :=
      fun y hy e he => ⟨_, hmem, y, hy, he⟩
    have hfirst := addProperties_settles h hlt hbean hnodup hmentions name
    have hrest : f.types = (before ++ [(name, d)]) ++ ts := by rw [hts, List.append_cons]
    rw [fillTypes, h.lookup_eq, ht]
    refine (hfirst.bind fun b' _ hb' => ih hrest ?_).congr List.forall_mem_cons fun _ hb' => hb'
    rwa [additions_append, additions_singleton d ht]

end SchemaDefinition

end TypedYaml
