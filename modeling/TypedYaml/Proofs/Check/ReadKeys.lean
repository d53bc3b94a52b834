import TypedYaml.Proofs.Check.Coverage
import TypedYaml.Proofs.Check.Flattening
import TypedYaml.Proofs.Check.Reach
import TypedYaml.Proofs.Path.Forms

/-!
# Undeclared keys that are accepted

An undeclared key of a bean is accepted if it can be read as a path that the schema knows. The path
starts after the longest declared name that ends before a dot of the key, or is the whole key where
there is none, and it may be anything that a path expression denotes. So it may range over all
elements of a list, but only where the schema has a list: a wildcard cannot be resolved elsewhere
(`exists_isSequencable_of_resolve`). And it may be empty, but only as a dollar sign behind a
declared name: no other expression denotes the root (`eq_of_expression_nil`), and this one has no
dot, without which no key is read.

* `Registry.ReadsAs`: what of a key is read as a path, and from where it is followed.
* `validate_read_keys`: the undeclared keys about which nothing is reported.
-/

namespace TypedYaml

open PathGrammar PathParser Text

/-! ## The expressions for the root -/

/-- Only the dollar sign denotes the root. -/
theorem PathGrammar.eq_of_expression_nil {cs : List Char} (h : Expression cs []) :
    ∃ before after, Blanks before ∧ Blanks after ∧ cs = before ++ '$' :: after := by
  generalize hp : ([] : Path) = p at h
  cases h with
  | @mk before cs ds after p q hbefore hstart hrests hafter =>
    obtain ⟨rfl, rfl⟩ := List.append_eq_nil_iff.mp hp.symm
    cases hstart
    cases hrests
    exact ⟨before, after, hbefore, hafter, by simp⟩

theorem firstVisible?_of_parse_nil {text : String} (h : Path.parse text = .ok []) :
    firstVisible? text = some '$' ∧ '.' ∉ text.toList := by
  obtain ⟨before, after, hbefore, hafter, htext⟩ :=
    eq_of_expression_nil (expression_sound (parse_eq_ok.mp h))
  have hdot {cs : List Char} (hcs : Blanks cs) : '.' ∉ cs :=
    fun hmem => absurd (hcs '.' hmem) (by decide)
  constructor
  · have hnone : before.find? (!isWhitespace ·) = none := by
      rw [List.find?_eq_none]
      intro c hc
      simp [hbefore c hc]
    rw [firstVisible?, htext, List.find?_append, hnone]
    rfl
  · rw [htext]
    simp [hdot hbefore, hdot hafter]

/-! ## Reading a key -/

namespace Registry

variable {r : Registry} {o : CheckOptions} {t u : TypeId}

/-- The text in a key of a bean that is read as a path, with the type from which the path is
followed. -/
inductive ReadsAs (r : Registry) (t : TypeId) (key : String) : TypeId → String → Prop
  | below {p : Property} {rest : String} (hp : (r.descriptor t).property? p.name = some p)
      (hkey : key.toList = p.name.toList ++ '.' :: rest.toList)
      (hlongest : ∀ q ∈ (r.descriptor t).properties,
        BeforeDot q.name key → q.name.length ≤ p.name.length) : ReadsAs r t key p.type rest
  | whole (hnone : ∀ q ∈ (r.descriptor t).properties, ¬ BeforeDot q.name key) :
      ReadsAs r t key t key

theorem beforeDot_iff {name key : String} :
    BeforeDot name key ↔ ∃ right, key.toList = name.toList ++ '.' :: right := by
  simp [BeforeDot, List.IsPrefix, eq_comm]

theorem not_beforeDot_of_dottedProperty? {key : String} (h : r.dottedProperty? t key = none) :
    ∀ q ∈ (r.descriptor t).properties, ¬ BeforeDot q.name key := by
  intro q hq hdot
  obtain ⟨right, hkey⟩ := beforeDot_iff.mp hdot
  have hcut : (q.name.toList, right) ∈ cutsAtDots key.toList := mem_cutsAtDots.mpr hkey
  have hnone := List.findSome?_eq_none_iff.mp h _ hcut
  rw [Option.map_eq_none_iff, String.ofList_toList] at hnone
  exact property?_eq_none.mp hnone q hq rfl

/-- A key that stands for a type has been read as a path that leads there. -/
theorem exists_readsAs {key : String} (h : r.resolveDotted? t key = some u) :
    ∃ v text, r.ReadsAs t key v text ∧ r.resolveText? v text = some u := by
  have hdot := resolveDotted?_dot h
  rw [resolveDotted?, List.contains_iff_mem.mpr hdot] at h
  cases hfound : r.dottedProperty? t key with
  | none =>
    rw [hfound] at h
    exact ⟨t, key, .whole (not_beforeDot_of_dottedProperty? hfound), h⟩
  | some e =>
    obtain ⟨p, rest⟩ := e
    rw [hfound] at h
    obtain ⟨hp, -, hkey⟩ := exists_of_dottedProperty? hfound
    refine ⟨p.type, rest, .below hp hkey fun q hq hdot => ?_, h⟩
    obtain ⟨right, hright⟩ := beforeDot_iff.mp hdot
    have hdeclared : (r.descriptor t).property? q.name ≠ none :=
      fun hnone => property?_eq_none.mp hnone q hq rfl
    obtain ⟨q', hq'⟩ := Option.ne_none_iff_exists'.mp hdeclared
    exact length_le_of_dottedProperty? hfound hq' hright

theorem resolveText?_eq_some {text : String} :
    r.resolveText? t text = some u ↔
      ∃ path, Path.parse text = .ok path ∧ r.resolve t path = .ok u := by
  simp only [resolveText?, Option.bind_eq_some_iff, toOption_eq_some_iff]

/-! ## Wildcards -/

/-- A wildcard leads on from a list only. -/
theorem exists_isSequencable_of_resolve {before after : Path}
    (h : r.resolve t (before ++ .wildcard :: after) = .ok u) :
    ∃ v, r.resolve t before = .ok v ∧ r.isSequencable v := by
  obtain ⟨v, hv⟩ := exists_resolve_of_prefix h (List.prefix_append before _)
  rw [resolve_append_of_ok hv] at h
  obtain ⟨w, hw, -⟩ := resolve_cons_eq_ok (mapError_eq_ok h)
  refine ⟨v, hv, ?_⟩
  rw [next_eq] at hw
  unfold isSequencable
  cases hk : r.kind v <;> simp_all

/-! ## Reports -/

theorem mem_validate_of_undeclared {root : TypeId} {doc : Node} {p : Path}
    {entries : List (String × Node)} {key : String} {value : Node} (ht : r.isMap t)
    (hvisit : r.Visits root doc p t (.mapping entries)) (hmem : (key, value) ∈ entries)
    (hkey : r.entryType t key = .undeclared) :
    ⟨p ++ [.key key], .unknownProperty key (r.typeName t)⟩ ∈ r.validate o root doc := by
  have hreport : ⟨[], .unknownProperty key (r.typeName t)⟩ ∈ r.keyReports o t key :=
    mem_keyReports_iff.mpr (.inr ⟨hkey, rfl⟩)
  have hreports : ⟨[.key key], .unknownProperty key (r.typeName t)⟩ ∈
      r.reports o t (.mapping entries) := by
    rw [reports_mapping ht]
    exact List.mem_flatMap.mpr ⟨(key, value), hmem, List.mem_map_of_mem hreport⟩
  exact mem_validate_iff.mpr ⟨p, t, _, _, hvisit, hreports, rfl⟩

end Registry

/-- An undeclared key of a bean that is not reported has been read as a path that can be resolved.
The path has a wildcard only where a list is expected, and it is empty only where a dollar sign
follows a declared name. -/
theorem validate_read_keys (r : Registry) (o : CheckOptions) {root bean : TypeId} {doc : Node}
    {p : Path} {entries : List (String × Node)} {key : String} {value : Node}
    (hbean : r.kind bean = .bean) (hvisit : r.Visits root doc p bean (.mapping entries))
    (hmem : (key, value) ∈ entries) (hundeclared : (r.descriptor bean).property? key = none)
    (hsilent : ⟨p ++ [.key key], .unknownProperty key (r.typeName bean)⟩ ∉ r.validate o root doc) :
    ∃ t text path u, r.ReadsAs bean key t text ∧ Path.parse text = .ok path ∧
      r.resolve t path = .ok u ∧
      (∀ before after, path = before ++ .wildcard :: after →
        ∃ v, r.resolve t before = .ok v ∧ r.isSequencable v) ∧
      (path = [] → text ≠ key ∧ firstVisible? text = some '$') := by
  have hmap : r.isMap bean := by simp [Registry.isMap, hbean]
  cases hread : r.resolveDotted? bean key with
  | none =>
    have hentry : r.entryType bean key = .undeclared := by
      simp [Registry.entryType, hundeclared, Registry.isOpenMap, hbean, hread]
    exact absurd (Registry.mem_validate_of_undeclared hmap hvisit hmem hentry) hsilent
  | some u =>
    obtain ⟨t, text, hreads, htext⟩ := Registry.exists_readsAs hread
    obtain ⟨path, hpath, hu⟩ := Registry.resolveText?_eq_some.mp htext
    refine ⟨t, text, path, u, hreads, hpath, hu, ?_, ?_⟩
    · rintro before after rfl
      exact Registry.exists_isSequencable_of_resolve hu
    · rintro rfl
      obtain ⟨hdollar, hdot⟩ := firstVisible?_of_parse_nil hpath
      refine ⟨?_, hdollar⟩
      rintro rfl
      exact hdot (Registry.resolveDotted?_dot hread)

/-- The ports of all servers at once, in the second document of a stream. -/
theorem validate_read_keys_ports :
    let server := ((Builder.new.bean "Server").2.addProperty ⟨5⟩ ⟨"port", .integer, none, none⟩).2
    let list := (server.listOf ⟨5⟩).2
    let r := ((list.bean "Config").2.addProperty ⟨7⟩ ⟨"servers", ⟨6⟩, none, none⟩).2.build
    let key := "servers.*.port"
    let doc : Node := .stream [.null, .mapping [(key, .string "80")]]
    r.kind ⟨7⟩ = .bean ∧ (r.descriptor ⟨7⟩).property? key = none ∧ r.validate ⟨true⟩ ⟨7⟩ doc = [] ∧
      ∃ t text path u, r.ReadsAs ⟨7⟩ key t text ∧ Path.parse text = .ok path ∧
        r.resolve t path = .ok u ∧
        (∀ before after, path = before ++ .wildcard :: after →
          ∃ v, r.resolve t before = .ok v ∧ r.isSequencable v) ∧
        (path = [] → text ≠ key ∧ firstVisible? text = some '$') := by
  intro server list r key doc
  have hundeclared : (r.descriptor ⟨7⟩).property? key = none := by decide +kernel
  have hsilent : r.validate ⟨true⟩ ⟨7⟩ doc = [] := by decide +kernel
  have hvisit : r.Visits ⟨7⟩ doc [Registry.indexSegment 1] ⟨7⟩ (.mapping [(key, .string "80")]) :=
    .stream rfl (.here _ _)
  exact ⟨rfl, hundeclared, hsilent, validate_read_keys r ⟨true⟩ rfl hvisit List.mem_cons_self
    hundeclared (by rw [hsilent]; exact nofun)⟩

/-- A wildcard behind the name of a list, a dollar sign behind another name, and one in front of a
name. None of these keys is reported. -/
theorem validate_read_keys_queries :
    let list := ((Builder.new.bean "Server").2.listOf ⟨5⟩).2
    let servers := ((list.bean "Config").2.addProperty ⟨7⟩ ⟨"servers", ⟨6⟩, none, none⟩).2
    let r := (servers.addProperty ⟨7⟩ ⟨"server", ⟨5⟩, none, none⟩).2.build
    let keys := ["servers.*", "server.$", "$.server"]
    r.kind ⟨7⟩ = .bean ∧ (∀ key ∈ keys, (r.descriptor ⟨7⟩).property? key = none) ∧
      r.validate ⟨true⟩ ⟨7⟩ (.mapping (keys.map (·, .mapping []))) = [] ∧
      (r.ReadsAs ⟨7⟩ "servers.*" ⟨6⟩ "*" ∧ Path.parse "*" = .ok [.wildcard]) ∧
      (r.ReadsAs ⟨7⟩ "server.$" ⟨5⟩ "$" ∧ Path.parse "$" = .ok []) ∧
      r.ReadsAs ⟨7⟩ "$.server" ⟨7⟩ "$.server" ∧ Path.parse "$.server" = .ok [.key "server"] ∧
        firstVisible? "$.server" = some '$' := by
  intro list servers r keys
  have hwildcard : r.ReadsAs ⟨7⟩ "servers.*" ⟨6⟩ "*" :=
    .below (p := ⟨"servers", ⟨6⟩, none, none⟩) (by decide) (by decide) (by decide)
  have hroot : r.ReadsAs ⟨7⟩ "server.$" ⟨5⟩ "$" :=
    .below (p := ⟨"server", ⟨5⟩, none, none⟩) (by decide) (by decide) (by decide)
  have hquery : r.ReadsAs ⟨7⟩ "$.server" ⟨7⟩ "$.server" := .whole (by decide)
  exact ⟨by decide, by decide, by decide +kernel, ⟨hwildcard, by decide +kernel⟩,
    ⟨hroot, by decide +kernel⟩, hquery, by decide +kernel, by decide⟩

end TypedYaml
