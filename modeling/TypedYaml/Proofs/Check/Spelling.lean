import TypedYaml.Proofs.Check.Flattening

/-!
# Keys that spell paths

A key with dots is a text, and the type of its value is looked for in three steps: the text is cut
at one of its dots, what comes before the dot is taken for a declared name, and what comes after it
is read as a path. All this comes down to resolving one path, the one that the key spells.

The key is either the longest declared name that ends before one of its dots, a dot and the written
form of a path, or it is the written form of a path as a whole, when no declared name ends before
one of its dots. Which of the dots is meant does not depend on what they mean in a path, so a dot
in a quoted key may be the one as well. The written form reads back as the path
(`resolveText?_display`), and the declared name is the first segment.

* `Registry.Spells`: the path that a key spells.
* `resolveDotted?_of_spells`: its value has the type to which the path leads.
* `validate_spelled`: so the entry is checked as its value is at the end of the path.
-/

namespace TypedYaml

open Text PathParser

namespace Registry

variable {r : Registry} {o : CheckOptions} {t : TypeId}

/-- How a key spells a path in a mapping of the type. -/
inductive Spells (r : Registry) (t : TypeId) (key : String) : Path → Prop
  | below {name : String} {q : Path} :
      ((r.descriptor t).property? name).isSome → q ≠ [] → key = name ++ "." ++ q.display →
      (∀ p ∈ (r.descriptor t).properties, BeforeDot p.name key → p.name.length ≤ name.length) →
      Spells r t key (.key name :: q)
  | whole {q : Path} :
      key = q.display → '.' ∈ key.toList →
      (∀ p ∈ (r.descriptor t).properties, ¬ BeforeDot p.name key) →
      Spells r t key q

theorem resolveText?_display {q : Path} (hne : q ≠ []) :
    r.resolveText? t q.display = (r.resolve t q).toOption := by
  obtain ⟨s, q, rfl⟩ := List.exists_cons_of_ne_nil hne
  rw [resolveText?, Path.parse, Path.display, String.toList_ofList, expression_chars]
  rfl

/-- In a bean the key and the path lead to the same type, or both lead nowhere. -/
theorem resolveDotted?_of_spells {key : String} {path : Path} (hk : r.kind t = .bean)
    (h : r.Spells t key path) : r.resolveDotted? t key = (r.resolve t path).toOption := by
  cases h with
  | @below name q hname hne hkey hlongest =>
    obtain ⟨p, hp⟩ := Option.isSome_iff_exists.mp hname
    have htext : key.toList = name.toList ++ '.' :: q.display.toList := by
      rw [hkey, String.toList_append, String.toList_append]
      simp
    have hdot : key.toList.contains '.' := by simp [htext]
    have hnext : r.next t (.key name) = .ok p.type := by simp [next_eq, hk, hp]
    rw [resolveDotted?, hdot, dottedProperty?_of_longest hp htext hlongest,
      resolve_cons_of_next q hnext]
    show r.resolveText? p.type q.display = _
    rw [resolveText?_display hne]
    cases r.resolve p.type q <;> rfl
  | whole hkey hdot hnone =>
    have hne : path ≠ [] := by
      rintro rfl
      rw [hkey] at hdot
      cases hdot
    have hdot : key.toList.contains '.' := List.contains_iff_mem.mpr hdot
    rw [resolveDotted?, hdot, dottedProperty?_eq_none hnone]
    show r.resolveText? t key = _
    rw [hkey, resolveText?_display hne]

end Registry

/-- An undeclared key that spells a path stands for it: its value is checked against the type to
which the path resolves, and if it resolves to none the key is unknown. -/
theorem validate_spelled (r : Registry) (o : CheckOptions) {bean : TypeId} {key : String}
    {path : Path} {v : Node} (hbean : r.kind bean = .bean)
    (hundeclared : (r.descriptor bean).property? key = none) (hkey : r.Spells bean key path)
    (hv : v.isStream = false) :
    r.validate o bean (.mapping [(key, v)]) =
      match r.resolve bean path with
      | .ok t => (r.validate o t v).map (.under (.key key))
      | .error _ => [⟨[.key key], .unknownProperty key (r.typeName bean)⟩] := by
  have hmap : r.isMap bean := by simp [Registry.isMap, hbean]
  rw [Registry.validate_eq_check rfl, Registry.check_entry key v hmap,
    Registry.checkEntry_of_undeclared hbean hundeclared,
    Registry.resolveDotted?_of_spells hbean hkey]
  cases r.resolve bean path with
  | ok t =>
    show (r.check o t v).map _ = (r.validate o t v).map _
    rw [Registry.validate_eq_check hv]
  | error e => rfl

/-- A declared name with a dot goes before the shorter one. A quoted key keeps its dot, although
the key is cut there to look for a name. A server has ports, but no property `port`. -/
theorem validate_spelled_ports :
    let ports := (Builder.new.listOf .integer).2
    let server := ((ports.bean "Server").2.addProperty ⟨6⟩ ⟨"ports", ⟨5⟩, none, none⟩).2
    let config := ((server.bean "Config").2.addProperty ⟨7⟩ ⟨"web", .string, none, none⟩).2
    let r := (config.addProperty ⟨7⟩ ⟨"web.main", ⟨6⟩, none, none⟩).2.build
    let v : Node := .string "http"
    let entry (key : String) : Node := .mapping [(key, v)]
    r.Spells ⟨7⟩ "web.main.ports[-1]" [.key "web.main", .key "ports", .index (-1)] ∧
      r.validate ⟨true⟩ ⟨7⟩ (entry "web.main.ports[-1]") =
        [⟨[.key "web.main.ports[-1]"], .invalidValue "http" "Integer"⟩] ∧
      r.Spells ⟨7⟩ "['web.main'].ports[2]" [.key "web.main", .key "ports", .index 2] ∧
      r.validate ⟨true⟩ ⟨7⟩ (entry "['web.main'].ports[2]") =
        [⟨[.key "['web.main'].ports[2]"], .invalidValue "http" "Integer"⟩] ∧
      r.Spells ⟨7⟩ "web.main.port" [.key "web.main", .key "port"] ∧
      r.validate ⟨true⟩ ⟨7⟩ (entry "web.main.port") =
        [⟨[.key "web.main.port"], .unknownProperty "web.main.port" "Config"⟩] := by
  intro ports server config r v entry
  have hbean : r.kind ⟨7⟩ = .bean := by decide +kernel
  have hundeclared : ∀ key ∈ ["web.main.ports[-1]", "['web.main'].ports[2]", "web.main.port"],
      (r.descriptor ⟨7⟩).property? key = none := by decide +kernel
  have hbelow : r.Spells ⟨7⟩ "web.main.ports[-1]" [.key "web.main", .key "ports", .index (-1)] :=
    .below (by decide) (by decide) (by decide +kernel) (by decide)
  have hwhole : r.Spells ⟨7⟩ "['web.main'].ports[2]" [.key "web.main", .key "ports", .index 2] :=
    .whole (by decide +kernel) (by decide) (by decide)
  have hunknown : r.Spells ⟨7⟩ "web.main.port" [.key "web.main", .key "port"] :=
    .below (by decide) (by decide) (by decide +kernel) (by decide)
  refine ⟨hbelow, ?_, hwhole, ?_, hunknown, ?_⟩
  · rw [validate_spelled r ⟨true⟩ hbean (hundeclared _ (by simp)) hbelow rfl]
    decide +kernel
  · rw [validate_spelled r ⟨true⟩ hbean (hundeclared _ (by simp)) hwhole rfl]
    decide +kernel
  · rw [validate_spelled r ⟨true⟩ hbean (hundeclared _ (by simp)) hunknown rfl]
    decide +kernel

end TypedYaml
