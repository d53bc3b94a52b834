import TypedYaml.Proofs.Schema.Denotation

/-!
# Names of types are type expressions

A list or map is named after its content, so its name is a type expression, written out. Reading it
takes the containers off again, until the name inside all of them is left. If this is a name that
can stand in an expression it leads back to the type that has it, and the containers around it are
found and not made again, since there is only one of each.

The name inside may look like the start of a container. `List`, `Map` and `Lists` can all be
declared, and stand in an expression like other names, for only a bracket makes a container of them.

* `TypeExpr.written`, `parse_written`: expressions as types are named, and that they read back.
* `Builder.WellFormed.typeName_eq_written`: what denotes a type is how it is named.
* `Builder.Nameable`: the types whose names can be read.
* `Builder.typeOf_typeName`: the name of a type spells the type, and no other.
-/

namespace TypedYaml

open Text TypeExpr TypeGrammar

/-! ## Written expressions -/

namespace TypeExpr

/-- An expression in the way in which types are named. -/
def written : TypeExpr → String
  | .name text => text
  | .list e => "List<" ++ e.written ++ ">"
  | .map e => "Map<String, " ++ e.written ++ ">"

/-- A name that can stand in an expression. -/
structure IsPlain (name : String) : Prop where
  nonempty : name ≠ ""
  trimmed : trim name.toList = name.toList
  unreserved : ∀ c ∈ name.toList, isReserved c = false

/-- More white space around an expression does no harm. -/
theorem expression_of_padded {core cs : List Char} {e : TypeExpr} (hcs : Padded core cs)
    (h : Expression core e) : Expression cs e :=
  expression_of_parseChars cs e (parseChars_of_expression h cs hcs.trim_eq)

theorem expression_written {e : TypeExpr} (h : IsPlain e.base) :
    Expression e.written.toList e := by
  induction e with
  | name text =>
    have hne : text ≠ "" := h.nonempty
    have hname : Expression text.toList (.name (String.ofList text.toList)) :=
      .name ⟨[], [], rfl, rfl, by simp⟩ (by simpa using hne) h.trimmed h.unreserved
    rwa [String.ofList_toList] at hname
  | list e ih =>
    have hlist : Padded ("List".toList ++ [] ++ '<' :: e.written.toList ++ ['>'])
        (TypeExpr.list e).written.toList := ⟨[], [], rfl, rfl, by simp [written]⟩
    exact .list hlist rfl (ih h)
  | map e ih =>
    have hvalue : Expression (' ' :: e.written.toList) e :=
      expression_of_padded ⟨[' '], [], by decide, rfl, by simp⟩ (ih h)
    have hkey : Padded "String".toList "String".toList := ⟨[], [], rfl, rfl, rfl⟩
    have hmap : Padded
        ("Map".toList ++ [] ++ '<' :: ("String".toList ++ ',' :: ' ' :: e.written.toList) ++ ['>'])
        (TypeExpr.map e).written.toList := ⟨[], [], rfl, rfl, by simp [written]⟩
    exact .map hmap rfl hkey hvalue

/-- Reading is the inverse of writing. -/
theorem parse_written {e : TypeExpr} (h : IsPlain e.base) : parse e.written = .ok e :=
  parse_eq_ok_iff.mpr (expression_written h)

end TypeExpr

namespace Builder

variable {b : Builder} {e : TypeExpr} {t u : TypeId}

/-! ## Names of types -/

theorem WellFormed.typeName_of_lookup (h : b.WellFormed) {name : String}
    (ht : b.lookup name = some t) : b.build.typeName t = name := by
  have hname := ((h.names.lookup_iff name t).mp ht).2
  unfold Descriptor.declaredName? at hname
  split at hname
  · exact Option.some.inj hname
  · exact Option.some.inj hname
  · cases hname

/-- Each container is named after its content, as the expression is written. -/
theorem WellFormed.typeName_eq_written (h : b.WellFormed) (ht : b.Denotes e t) :
    b.build.typeName t = e.written := by
  induction ht with
  | name hname => exact h.typeName_of_lookup hname
  | @container c e kind u t hc _ hkind ih =>
    have hcontent : (b.build.kind t).content? = some u := hkind ▸ hc.content? u
    rw [h.types.container_name t u hcontent, hkind, ih]
    cases hc <;> rfl

/-- A declared or predeclared type with a name that can stand in an expression, or a list or map of
any depth over such a type. -/
inductive Nameable (b : Builder) : TypeId → Prop
  | declared {t : TypeId} (hkind : b.build.kind t = .atomic ∨ b.build.kind t = .bean)
      (hname : IsPlain (b.build.typeName t)) : Nameable b t
  | container {t u : TypeId} (hcontent : (b.build.kind t).content? = some u)
      (hu : Nameable b u) : Nameable b t

theorem WellFormed.lookup_typeName (h : b.WellFormed)
    (hkind : b.build.kind t = .atomic ∨ b.build.kind t = .bean) :
    b.lookup (b.build.typeName t) = some t := by
  refine (h.names.lookup_iff _ _).mpr ⟨Registry.lt_size_of_kind_ne ?_, ?_⟩
  · rcases hkind with hkind | hkind <;> simp [hkind]
  · unfold Registry.kind at hkind
    rcases hkind with hkind | hkind <;> simp only [Descriptor.declaredName?, hkind] <;> rfl

theorem Denotes.exists_container (hu : b.Denotes e u)
    (hcontent : (b.build.kind t).content? = some u) :
    ∃ c, b.Denotes c t ∧ c.base = e.base := by
  cases hkind : b.build.kind t with
  | map value =>
    rw [hkind] at hcontent
    cases hcontent
    exact ⟨.map e, .container (.map e) hu hkind, rfl⟩
  | sequence element =>
    rw [hkind] at hcontent
    cases hcontent
    exact ⟨.list e, .container (.list e) hu hkind, rfl⟩
  | unknown | atomic | bean =>
    rw [hkind] at hcontent
    cases hcontent

theorem Nameable.exists_denotes (ht : b.Nameable t) (h : b.WellFormed) :
    ∃ e, b.Denotes e t ∧ IsPlain e.base := by
  induction ht with
  | declared hkind hname => exact ⟨_, .name (h.lookup_typeName hkind), hname⟩
  | container hcontent _ ih =>
    obtain ⟨e, hu, hplain⟩ := ih
    obtain ⟨c, ht, hbase⟩ := hu.exists_container hcontent
    exact ⟨c, ht, hbase ▸ hplain⟩

theorem WellFormed.typeOf_nameable (h : b.WellFormed) (ht : b.Nameable t) (referencedBy : String) :
    b.typeOf (b.build.typeName t) referencedBy = (.ok t, b) := by
  obtain ⟨e, hdenotes, hplain⟩ := ht.exists_denotes h
  rw [h.typeName_eq_written hdenotes, Builder.typeOf, parse_written hplain]
  exact h.yields_of_denotes hdenotes referencedBy

/-- Where the name inside all containers can stand in an expression, the name of a type is an
expression for it, and reading it adds nothing to the builder. So different types of this kind have
different names. -/
theorem typeOf_typeName (hb : b.Reachable) :
    (∀ t, b.Nameable t → ∀ referencedBy,
      b.typeOf (b.build.typeName t) referencedBy = (.ok t, b)) ∧
    ∀ t u, b.Nameable t → b.Nameable u → b.build.typeName t = b.build.typeName u → t = u := by
  have h := hb.wellFormed
  refine ⟨fun t ht => h.typeOf_nameable ht, fun t u ht hu hname => ?_⟩
  have hread := h.typeOf_nameable ht ""
  rw [hname, h.typeOf_nameable hu ""] at hread
  cases hread
  rfl

/-- A bean with the name `List`, a list of it and a map over that list. Another type is declared
under the name of the list, which no type in an expression could have. -/
theorem typeOf_typeName_list :
    let ops : List Operation :=
      [.bean "List", .atomic "List<List>", .listOf ⟨5⟩, .mapOf ⟨7⟩]
    let b := ops.foldl Operation.apply new
    b.Reachable ∧ b.Nameable ⟨8⟩ ∧ b.build.typeName ⟨8⟩ = "Map<String, List<List>>" ∧
      b.typeOf "Map<String, List<List>>" "Config" = (.ok ⟨8⟩, b) ∧
      (∀ u, b.Nameable u → b.build.typeName ⟨8⟩ = b.build.typeName u → ⟨8⟩ = u) ∧
      b.build.typeName ⟨6⟩ = b.build.typeName ⟨7⟩ := by
  intro ops b
  have hbean := Reachable.new.step (.bean "List") (by decide)
  have hatomic := hbean.step (.atomic "List<List>") (by decide)
  have hlist := hatomic.step (.listOf ⟨5⟩) (by decide)
  have hb : b.Reachable := hlist.step (.mapOf ⟨7⟩) (by decide)
  have hplain : IsPlain "List" := ⟨by decide, by decide, by simp [isReserved]⟩
  have ht : b.Nameable ⟨8⟩ := .container rfl (.container rfl (.declared (Or.inr rfl) hplain))
  obtain ⟨hread, hinj⟩ := typeOf_typeName hb
  exact ⟨hb, ht, rfl, hread ⟨8⟩ ht "Config", fun u hu => hinj ⟨8⟩ u ht hu, rfl⟩

end Builder

end TypedYaml
