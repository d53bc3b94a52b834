import TypedYaml.Proofs.Schema.Growth
import TypedYaml.Proofs.Schema.TypeGrammar

/-!
# What a type expression denotes

A name denotes the type that it leads to. A list or map denotes the one container of its kind over
what its content denotes, if the builder has it. Each expression is a chain of containers over a
name, so the containers that a builder lacks are the outer ones, and to denote the expression is to
add these one by one from the inside.

* `Builder.Denotes`: the relation, which `Grows.denotes` keeps.
* `Builder.Interned`: finding a container or adding it.
* `Builder.Lacks`, `Builder.Adds`, `WellFormed.yields_of_lookup`: what is added.
* `Builder.typeOf_expression`: written expressions.
-/

namespace TypedYaml

namespace TypeExpr

/-- The name inside all containers. -/
def base : TypeExpr → String
  | .name text => text
  | .list e => e.base
  | .map e => e.base

/-- The containers in an expression, each after those inside it. -/
def containers : TypeExpr → List TypeExpr
  | .name _ => []
  | .list e => e.containers ++ [.list e]
  | .map e => e.containers ++ [.map e]

/-- The first expression is a list or map over the second, and is of the given kind over a type. -/
inductive IsContainer : TypeExpr → TypeExpr → (TypeId → Kind) → Prop
  | list (e : TypeExpr) : IsContainer (.list e) e .sequence
  | map (e : TypeExpr) : IsContainer (.map e) e .map

theorem induction {P : TypeExpr → Prop} (name : ∀ name, P (.name name))
    (container : ∀ c e kind, IsContainer c e kind → P e → P c) (e : TypeExpr) : P e := by
  induction e with
  | name n => exact name n
  | list e ih => exact container _ e _ (.list e) ih
  | map e ih => exact container _ e _ (.map e) ih

variable {c e : TypeExpr} {kind : TypeId → Kind}

theorem IsContainer.containers_eq (hc : IsContainer c e kind) :
    c.containers = e.containers ++ [c] := by
  cases hc <;> rfl

theorem IsContainer.base_eq (hc : IsContainer c e kind) : c.base = e.base := by
  cases hc <;> rfl

theorem IsContainer.content? (hc : IsContainer c e kind) (u : TypeId) :
    (kind u).content? = some u := by
  cases hc <;> rfl

end TypeExpr

open TypeExpr TypeGrammar

namespace Builder

/-! ## Denotations -/

/-- A name denotes the type that is found under it. A list or a map denotes a type whose elements or
values are of the type that its argument denotes. -/
inductive Denotes (b : Builder) : TypeExpr → TypeId → Prop
  | name {name : String} {t : TypeId} : b.lookup name = some t → Denotes b (.name name) t
  | container {c e : TypeExpr} {kind : TypeId → Kind} {u t : TypeId} : IsContainer c e kind →
      Denotes b e u → b.build.kind t = kind u → Denotes b c t

variable {b b' : Builder} {c e : TypeExpr} {kind : TypeId → Kind} {t u : TypeId}

/-- What an expression denotes it will always denote. -/
theorem Grows.denotes (h : b.Grows b') (ht : b.Denotes e t) : b'.Denotes e t := by
  induction ht with
  | name hname => exact .name (h.lookup _ _ hname)
  | container hc _ hkind ih =>
    have hknown := Kind.ne_unknown_of_content? (hkind ▸ hc.content? _)
    exact .container hc ih ((h.kind_eq hknown).trans hkind)

/-- What is inside an expression denotes something as well. -/
theorem Denotes.containers (ht : b.Denotes e t) : ∀ c ∈ e.containers, ∃ u, b.Denotes c u := by
  induction ht with
  | name => exact nofun
  | @container c _ _ _ t hc hu hkind ih =>
    rw [hc.containers_eq]
    exact List.forall_mem_append.mpr ⟨ih, List.forall_mem_singleton.mpr ⟨t, .container hc hu hkind⟩⟩

/-! ## Containers -/

/-- The type of a kind is found, or is added at the end. -/
inductive Interned (b : Builder) (k : Kind) : TypeId → Builder → Prop
  | found {t : TypeId} : b.build.kind t = k → Interned b k t b
  | added {b' : Builder} {name : String} : (∀ t, b.build.kind t ≠ k) →
      b'.types = b.types ++ [.new name k] → b'.names = b.names → Interned b k b.next b'

theorem WellFormed.interned_listOf (h : b.WellFormed) (u : TypeId) :
    b.Interned (.sequence u) (b.listOf u).1 (b.listOf u).2 := by
  unfold Builder.listOf
  cases ht : b.lists.lookup u with
  | some t => exact .found (h.lookup_lists_iff.mp ht)
  | none =>
    refine .added (fun t hk => ?_) rfl rfl
    rw [h.lookup_lists_iff.mpr hk] at ht
    cases ht

theorem WellFormed.interned_mapOf (h : b.WellFormed) (u : TypeId) :
    b.Interned (.map u) (b.mapOf u).1 (b.mapOf u).2 := by
  unfold Builder.mapOf
  cases ht : b.maps.lookup u with
  | some t => exact .found (h.lookup_maps_iff.mp ht)
  | none =>
    refine .added (fun t hk => ?_) rfl rfl
    rw [h.lookup_maps_iff.mpr hk] at ht
    cases ht

/-- The expression denotes the type and leaves the second builder, whoever refers to it. -/
def Yields (b : Builder) (e : TypeExpr) (t : TypeId) (b' : Builder) : Prop :=
  ∀ referencedBy, b.denote referencedBy e = (.ok t, b')

theorem Yields.wellFormed (hrun : b.Yields e t b') (h : b.WellFormed) : b'.WellFormed := by
  have hsound := h.denote "" e
  rw [hrun ""] at hsound
  exact hsound.wellFormed

theorem Yields.container (hrun : b.Yields e u b') (hc : IsContainer c e kind)
    (h : b'.WellFormed) : ∃ t b'', b.Yields c t b'' ∧ b'.Interned (kind u) t b'' := by
  cases hc with
  | list =>
    exact ⟨_, _, fun referencedBy => by rw [denote, hrun referencedBy], h.interned_listOf u⟩
  | map =>
    exact ⟨_, _, fun referencedBy => by rw [denote, hrun referencedBy], h.interned_mapOf u⟩

theorem denote_container_error {referencedBy : String} {x : SchemaError}
    (hc : IsContainer c e kind) (hrun : b.denote referencedBy e = (.error x, b')) :
    b.denote referencedBy c = (.error x, b') := by
  cases hc <;> rw [denote, hrun]

/-! ## Denoting -/

theorem denote_of_lookup_none (referencedBy : String) (h : b.lookup e.base = none) :
    b.denote referencedBy e = (.error (.unknownType e.base referencedBy), b) := by
  induction e using TypeExpr.induction with
  | name name =>
    rw [TypeExpr.base] at h
    rw [denote, h, TypeExpr.base]
  | container c e kind hc ih =>
    rw [hc.base_eq] at h ⊢
    exact denote_container_error hc (ih h)

/-- Where there is nothing to be added, nothing is. -/
theorem WellFormed.yields_of_denotes (h : b.WellFormed) (ht : b.Denotes e t) :
    b.Yields e t b := by
  induction ht with
  | name hname => exact fun _ => by rw [Builder.denote, hname]
  | @container c e kind u t hc _ hkind ih =>
    obtain ⟨t', b', hrun, hinterned⟩ := ih.container hc h
    cases hinterned with
    | found hkind' =>
      have hcontent : (b.build.kind t).content? = some u := hkind ▸ hc.content? u
      rwa [h.types.container_inj t t' u hcontent (hkind'.trans hkind.symm)] at hrun
    | added hnone => exact absurd hkind (hnone t)

theorem WellFormed.denotes_iff (h : b.WellFormed) (ht : b.Denotes e t) :
    b.Denotes e u ↔ u = t := by
  constructor
  · intro hu
    cases (h.yields_of_denotes hu "").symm.trans (h.yields_of_denotes ht "")
    rfl
  · rintro rfl
    exact ht

/-! ## What is added -/

/-- The containers of the expression that denote nothing, which are around those that do. -/
def Lacks (b : Builder) (e : TypeExpr) (new : List TypeExpr) : Prop :=
  ∃ known, e.containers = known ++ new ∧ (∀ c ∈ known, ∃ t, b.Denotes c t) ∧
    ∀ c ∈ new, ∀ t, ¬ b.Denotes c t

/-- The second builder has one more type for each of the expressions, in their order. -/
structure Adds (b : Builder) (new : List TypeExpr) (b' : Builder) : Prop where
  names : b'.names = b.names
  types : b.types <+: b'.types
  length : b'.types.length = b.types.length + new.length
  denotes : ∀ i c, new[i]? = some c → b'.Denotes c ⟨b.types.length + i⟩

section Added

variable {new : List TypeExpr}

theorem Lacks.concat (h : b.Lacks e new) (hc : IsContainer c e kind)
    (hnone : ∀ t, ¬ b.Denotes c t) : b.Lacks c (new ++ [c]) := by
  obtain ⟨known, hcontainers, hknown, hnew⟩ := h
  refine ⟨known, ?_, hknown, ?_⟩
  · rw [hc.containers_eq, hcontainers, List.append_assoc]
  · exact List.forall_mem_append.mpr ⟨hnew, List.forall_mem_singleton.mpr hnone⟩

theorem Denotes.lacks (ht : b.Denotes e t) : b.Lacks e [] :=
  ⟨e.containers, (List.append_nil _).symm, ht.containers, nofun⟩

theorem Adds.nil (b : Builder) : b.Adds [] b := ⟨rfl, List.prefix_refl _, rfl, nofun⟩

theorem Adds.next_eq (h : b.Adds new b') : b'.next = ⟨b.types.length + new.length⟩ :=
  congrArg TypeId.mk h.length

/-- A container is added behind what was added before. -/
theorem Adds.concat {b'' : Builder} {name : String} (h : b.Adds new b') (hc : IsContainer c e kind)
    (hu : b'.Denotes e u) (htypes : b''.types = b'.types ++ [.new name (kind u)])
    (hnames : b''.names = b'.names) : b.Adds (new ++ [c]) b'' := by
  have hextends : b'.Extends b'' := .of_names_eq (htypes ▸ List.prefix_append _ _) hnames
  have hgrows := hextends.grows
  have hkind : b''.build.kind b'.next = kind u := by
    have hnew : b''.types[b'.next.index]? = some (.new name (kind u)) := by
      rw [htypes]
      exact List.getElem?_concat_length
    rw [Registry.kind, Registry.descriptor, Builder.build, hnew]
    rfl
  refine ⟨hnames.trans h.names, ?_, ?_, ?_⟩
  · exact h.types.trans (htypes ▸ List.prefix_append _ _)
  · simp [htypes, h.length, Nat.add_assoc]
  · intro i d hd
    rcases Nat.lt_trichotomy i new.length with hlt | rfl | hgt
    · rw [List.getElem?_append_left hlt] at hd
      exact hgrows.denotes (h.denotes i d hd)
    · rw [List.getElem?_concat_length] at hd
      cases hd
      rw [← h.next_eq]
      exact .container hc (hgrows.denotes hu) hkind
    · have hlength : (new ++ [c]).length ≤ i := by
        rw [List.length_append]
        exact hgt
      rw [List.getElem?_eq_none hlength] at hd
      cases hd

/-- What was added last is inside no container yet. -/
theorem Adds.container (hadds : b.Adds new b') (h : b'.WellFormed) (hc : IsContainer c e kind)
    (hnone : ∀ t, ¬ b.Denotes c t) (hrun : b.Yields e u b') (hu : b'.Denotes e u)
    (hlast : b' = b ∨ u.index + 1 = b'.types.length) :
    ∃ b'', b.Yields c ⟨b.types.length + new.length⟩ b'' ∧ b.Adds (new ++ [c]) b'' := by
  obtain ⟨t, b'', hrun', hinterned⟩ := hrun.container hc h
  cases hinterned with
  | found hkind =>
    rcases hlast with rfl | hlast
    · exact absurd (.container hc hu hkind) (hnone t)
    · have hcontent : (b'.build.kind t).content? = some u := hkind ▸ hc.content? u
      have hlt : u.index < t.index := h.types.content_lt t u hcontent
      have hsize : t.index < b'.types.length :=
        Registry.lt_size_of_kind_ne (Kind.ne_unknown_of_content? hcontent)
      omega
  | added _ htypes hnames =>
    exact ⟨b'', hadds.next_eq ▸ hrun', hadds.concat hc hu htypes hnames⟩

theorem WellFormed.yields_of_not_denotes (h : b.WellFormed) (hbase : (b.lookup e.base).isSome)
    (hnone : ∀ t, ¬ b.Denotes e t) :
    ∃ new b', b.Yields e ⟨b.types.length + new.length⟩ b' ∧ b.Lacks e (new ++ [e]) ∧
      b.Adds (new ++ [e]) b' := by
  induction e using TypeExpr.induction with
  | name name =>
    obtain ⟨t, ht⟩ := Option.isSome_iff_exists.mp hbase
    exact absurd (.name ht) (hnone t)
  | container c e kind hc ih =>
    rw [hc.base_eq] at hbase
    by_cases he : ∃ u, b.Denotes e u
    · obtain ⟨u, hu⟩ := he
      obtain ⟨b', hrun, hadds⟩ :=
        (Adds.nil b).container h hc hnone (h.yields_of_denotes hu) hu (Or.inl rfl)
      exact ⟨[], b', hrun, hu.lacks.concat hc hnone, hadds⟩
    · obtain ⟨new, b', hrun, hlacks, hadds⟩ := ih hbase (not_exists.mp he)
      have hu := hadds.denotes new.length e List.getElem?_concat_length
      have hlast : b.types.length + new.length + 1 = b'.types.length := by
        simp [hadds.length, Nat.add_assoc]
      obtain ⟨b'', hrun', hadds'⟩ :=
        hadds.container (hrun.wellFormed h) hc hnone hrun hu (Or.inr hlast)
      exact ⟨new ++ [e], b'', hrun', hlacks.concat hc hnone, hadds'⟩

/-- An expression over a known name denotes a type, once its containers are there. -/
theorem WellFormed.yields_of_lookup (h : b.WellFormed) (hbase : (b.lookup e.base).isSome) :
    ∃ t new b', b.Yields e t b' ∧ b'.Denotes e t ∧ b.Lacks e new ∧ b.Adds new b' := by
  by_cases he : ∃ t, b.Denotes e t
  · obtain ⟨t, ht⟩ := he
    exact ⟨t, [], b, h.yields_of_denotes ht, ht, ht.lacks, .nil b⟩
  · obtain ⟨new, b', hrun, hlacks, hadds⟩ := h.yields_of_not_denotes hbase (not_exists.mp he)
    have ht := hadds.denotes new.length e List.getElem?_concat_length
    exact ⟨_, new ++ [e], b', hrun, ht, hlacks, hadds⟩

end Added

/-! ## Written expressions -/

theorem typeOf_of_expression {text : String} (h : Expression text.toList e)
    (referencedBy : String) : b.typeOf text referencedBy = b.denote referencedBy e := by
  rw [Builder.typeOf, parse_eq_ok_iff.mpr h]

theorem lookup_of_isOk_denote {referencedBy : String}
    (h : (b.denote referencedBy e).1.isOk) : (b.lookup e.base).isSome := by
  refine Option.isSome_iff_ne_none.mpr fun hnone => ?_
  rw [denote_of_lookup_none referencedBy hnone] at h
  cases h

theorem WellFormed.isOk_typeOf_iff (h : b.WellFormed) (text referencedBy : String) :
    (b.typeOf text referencedBy).1.isOk ↔
      ∃ e, Expression text.toList e ∧ (b.lookup e.base).isSome := by
  constructor
  · intro hok
    cases he : TypeExpr.parse text with
    | error x =>
      rw [Builder.typeOf, he] at hok
      cases hok
    | ok e =>
      have hexpression := parse_eq_ok_iff.mp he
      rw [typeOf_of_expression hexpression] at hok
      exact ⟨e, hexpression, lookup_of_isOk_denote hok⟩
  · rintro ⟨e, hexpression, hbase⟩
    obtain ⟨t, new, b', hrun, -⟩ := h.yields_of_lookup hbase
    rw [typeOf_of_expression hexpression, hrun]
    rfl

/-- A text is accepted if and only if it spells an expression over a name that is known. The type
that is given back is the one that the expression denotes. The builder gains the containers of the
expression that it had not, each once and after its content. Another spelling does the same, and
from then on all that spells the type gives it back and adds nothing. -/
theorem typeOf_expression (hb : b.Reachable) (text referencedBy : String) :
    ((b.typeOf text referencedBy).1.isOk ↔
      ∃ e, Expression text.toList e ∧ (b.lookup e.base).isSome) ∧
    ∀ e, Expression text.toList e → ∀ t b', b.typeOf text referencedBy = (.ok t, b') →
      (∀ u, b'.Denotes e u ↔ u = t) ∧ (∃ new, b.Lacks e new ∧ b.Adds new b') ∧
      (∀ text' referencedBy', Expression text'.toList e →
        b.typeOf text' referencedBy' = (.ok t, b')) ∧
      ∀ c, b'.Run c → c.Denotes e t ∧
        ∀ text' referencedBy' e', Expression text'.toList e' → c.Denotes e' t →
          c.typeOf text' referencedBy' = (.ok t, c) := by
  have h := hb.wellFormed
  refine ⟨h.isOk_typeOf_iff text referencedBy, fun e he t b' hok => ?_⟩
  have hreachable : b'.Reachable := by
    have hstep := hb.step (.typeOf text referencedBy) nofun
    rw [Operation.apply, hok] at hstep
    exact hstep
  rw [typeOf_of_expression he] at hok
  have hbase : (b.lookup e.base).isSome := lookup_of_isOk_denote (by rw [hok]; rfl)
  obtain ⟨t, new, b', hrun, ht, hlacks, hadds⟩ := h.yields_of_lookup hbase
  cases (hrun referencedBy).symm.trans hok
  refine ⟨fun u => hreachable.wellFormed.denotes_iff ht, ⟨new, hlacks, hadds⟩, ?_, ?_⟩
  · intro text' referencedBy' he'
    rw [typeOf_of_expression he', hrun]
  · intro c hc
    refine ⟨hc.grows.denotes ht, fun text' referencedBy' e' he' ht' => ?_⟩
    rw [typeOf_of_expression he']
    exact (hc.reachable hreachable).wellFormed.yields_of_denotes ht' referencedBy'

/-- The list of servers is there, the map over it is added. -/
theorem typeOf_expression_servers :
    let ops : List Operation := [.bean "Server", .listOf ⟨5⟩]
    let b := ops.foldl Operation.apply new
    let e : TypeExpr := .map (.list (.name "Server"))
    let text := "\tMap < String, Server [] > "
    b.Reachable ∧ Expression text.toList e ∧ ∃ b', b.typeOf text "Config" = (.ok ⟨7⟩, b') ∧
      (∀ u, b'.Denotes e u ↔ u = ⟨7⟩) ∧ (∃ new, b.Lacks e new ∧ b.Adds new b') ∧
      (∀ text' referencedBy', Expression text'.toList e →
        b.typeOf text' referencedBy' = (.ok ⟨7⟩, b')) ∧
      ∀ c, b'.Run c → c.Denotes e ⟨7⟩ ∧
        ∀ text' referencedBy' e', Expression text'.toList e' → c.Denotes e' ⟨7⟩ →
          c.typeOf text' referencedBy' = (.ok ⟨7⟩, c) := by
  intro ops b e text
  have hbean := Reachable.new.step (.bean "Server") (by decide)
  have hb : b.Reachable := hbean.step (.listOf ⟨5⟩) (by decide)
  have hserver : Expression " Server ".toList (.name "Server") :=
    .name ⟨[' '], [' '], rfl, rfl, rfl⟩ (by decide) (by decide) (by simp [isReserved])
  have hservers : Expression " Server [] ".toList (.list (.name "Server")) :=
    .array ⟨[], [' '], by decide, by decide, rfl⟩ hserver
  have hcore : Text.Padded ("Map".toList ++ [' '] ++
      '<' :: (" String".toList ++ ',' :: " Server [] ".toList) ++ ['>']) text.toList :=
    ⟨['\t'], [' '], by decide, by decide, by decide⟩
  have hkey : Text.Padded "String".toList " String".toList := ⟨[' '], [], by decide, rfl, rfl⟩
  have he : Expression text.toList e := .map hcore (by decide) hkey hservers
  have hok : b.typeOf text "Config" = (.ok ⟨7⟩, (b.denote "Config" e).2) := by
    rw [typeOf_of_expression he]
    rfl
  exact ⟨hb, he, _, hok, (typeOf_expression hb text "Config").2 e he _ _ hok⟩

end Builder

end TypedYaml
