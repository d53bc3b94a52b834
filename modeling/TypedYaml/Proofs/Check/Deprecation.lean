import TypedYaml.Proofs.Check.Flattening
import TypedYaml.Proofs.Check.Reach

/-!
# Which uses of deprecated properties are reported

An entry of a mapping uses a property by having its name as the key. A key with dots that stands
for a path uses all properties that the path leads through, among them the declared one with which
it starts. A warning at the entry says that the property with the name of the whole key is
deprecated, and there is no other (`exists_deprecated_iff`). So an entry with a key that stands for
a path is never warned about, whatever it uses.

* `Registry.along`, `Registry.uses`: the properties on a path, and those that a key uses.
* `validate_warns_iff`: an entry is warned about its use of a deprecated property unless its key
  stands for a path.
-/

namespace TypedYaml

namespace Registry

/-- The properties through which a path leads, as far as it can be followed. -/
def along (r : Registry) (t : TypeId) : Path → List Property
  | [] => []
  | s :: p =>
    match s, r.next t s with
    | .key name, .ok u => ((r.descriptor t).property? name).toList ++ r.along u p
    | _, .ok u => r.along u p
    | _, .error _ => []

/-- The properties on the path that a text denotes. -/
def alongText (r : Registry) (t : TypeId) (text : String) : List Property :=
  match Path.parse text with
  | .ok p => r.along t p
  | .error _ => []

/-- The properties that a key of a bean uses, if it is accepted there. -/
def uses (r : Registry) (t : TypeId) (key : String) : List Property :=
  match (r.descriptor t).property? key, r.resolveDotted? t key, r.dottedProperty? t key with
  | some q, _, _ => [q]
  | none, some _, some (q, rest) => q :: r.alongText q.type rest
  | none, some _, none => r.alongText t key
  | none, none, _ => []

variable {r : Registry} {o : CheckOptions}

section Dotted

variable {t u : TypeId} {name : String} {q : Property} {keys : List String}
  (hq : (r.descriptor t).property? name = some q) (hne : keys ≠ [])
  (hnames : ∀ key ∈ keys, isName key.toList)
  (hunique : ∀ q ∈ (r.descriptor t).properties,
    Covers q.name (dotted (name :: keys)) → q.name = name)
  (hu : r.resolve q.type (keys.map .key) = .ok u)

include hq hne hnames hunique hu

/-- Keys that are joined by dots use the property with which they start and those after it. -/
theorem uses_dotted : r.uses t (dotted (name :: keys)) = q :: r.along q.type (keys.map .key) := by
  have hundeclared := property?_dotted hne hunique
  have hcut := dottedProperty?_eq_some hq (toList_dotted_append hne name) hunique
  have htype := resolveDotted?_of_property hq hne hnames hunique
  rw [hu] at htype
  simp only [uses, hundeclared, htype, hcut, Except.toOption, alongText, parse_dotted hne hnames]

theorem checkEntry_dotted (o : CheckOptions) (hk : r.kind t = .bean) (v : Node) :
    r.checkEntry o t (dotted (name :: keys)) v = r.check o u v := by
  have htype := resolveDotted?_of_property hq hne hnames hunique
  rw [hu] at htype
  rw [checkEntry_of_undeclared hk (property?_dotted hne hunique), htype]
  rfl

end Dotted

/-- Only an entry with the name of a deprecated property is warned about. -/
theorem of_reported_deprecated {t : TypeId} {n : Node} {d : Diagnostic}
    (h : r.Reported o t n d) (hd : d.problem.isDeprecation) :
    ∃ key q, d.path = [.key key] ∧ (r.descriptor t).property? key = some q ∧ q.isDeprecated := by
  cases h with
  | key hmem hkey =>
    rcases mem_keyReports_iff.mp hkey with ⟨q, c, hq, hc, -, rfl⟩ | ⟨-, rfl⟩
    · exact ⟨_, q, rfl, hq, by simp [Property.isDeprecated, hc]⟩
    · cases hd
  | _ => cases hd

/-- There is a warning at an entry exactly if its key is the name of a deprecated property. -/
theorem exists_deprecated_iff (ho : o.reportDeprecated) {root t : TypeId} {doc : Node} {p : Path}
    {entries : List (String × Node)} {key : String} {value : Node} (hdoc : doc.WellFormed)
    (hvisits : r.Visits root doc p t (.mapping entries)) (ht : r.isMap t)
    (hentry : (key, value) ∈ entries) :
    (∃ d ∈ r.validate o root doc, d.path = p ++ [.key key] ∧ d.problem.isDeprecation) ↔
      ∃ q, (r.descriptor t).property? key = some q ∧ q.isDeprecated := by
  constructor
  · rintro ⟨d, hd, hpath, hdeprecation⟩
    obtain ⟨p', t', n', c, hvisits', hc, rfl⟩ := mem_validate_iff.mp hd
    obtain ⟨key', q, hkey, hq⟩ := of_reported_deprecated (reported_of_mem hc) hdeprecation
    have hsame : p' ++ [.key key'] = p ++ [.key key] := by
      rw [← hkey]
      exact hpath
    obtain ⟨rfl, hlast⟩ := List.append_inj' hsame rfl
    cases hlast
    obtain ⟨rfl, -⟩ := hvisits.unique hdoc hvisits'
    exact ⟨q, hq⟩
  · rintro ⟨q, hq, hdeprecated⟩
    obtain ⟨c, hc⟩ := Option.isSome_iff_exists.mp hdeprecated
    have hreport : ⟨[], .deprecated key c.replacement⟩ ∈ r.keyReports o t key :=
      mem_keyReports_iff.mpr (Or.inl ⟨q, c, hq, hc, ho, rfl⟩)
    have hown : ⟨[.key key], .deprecated key c.replacement⟩ ∈ r.reports o t (.mapping entries) := by
      rw [reports_mapping ht]
      exact List.mem_flatMap.mpr ⟨_, hentry, List.mem_map_of_mem hreport⟩
    exact ⟨_, mem_validate_iff.mpr ⟨p, t, _, _, hvisits, hown, rfl⟩, rfl, rfl⟩

end Registry

/-- With warnings on, an entry of a bean is warned about exactly if its key is the name of a
deprecated property. So its use of deprecated properties is reported unless its key stands for a
path through one. -/
theorem validate_warns_iff (r : Registry) {o : CheckOptions} (ho : o.reportDeprecated)
    {root t : TypeId} {doc : Node} {p : Path} {entries : List (String × Node)} {key : String}
    {value : Node} (hdoc : doc.WellFormed) (hvisits : r.Visits root doc p t (.mapping entries))
    (ht : r.kind t = .bean) (hentry : (key, value) ∈ entries) :
    let warned := ∃ d ∈ r.validate o root doc,
      d.path = p ++ [.key key] ∧ d.problem.isDeprecation
    (warned ↔ ∃ q, (r.descriptor t).property? key = some q ∧ q.isDeprecated) ∧
      (((∃ q ∈ r.uses t key, q.isDeprecated) → warned) ↔
        ((r.descriptor t).property? key = none →
          ∀ q ∈ r.uses t key, q.isDeprecated = false)) := by
  intro warned
  have hmap : r.isMap t := by simp [Registry.isMap, ht]
  have hwarned : warned ↔ _ := Registry.exists_deprecated_iff ho hdoc hvisits hmap hentry
  refine ⟨hwarned, ?_⟩
  rw [hwarned]
  cases hq : (r.descriptor t).property? key with
  | some q =>
    have huses : r.uses t key = [q] := by simp only [Registry.uses, hq]
    simp [huses]
  | none => simp

/-- The port of a server is deprecated, and so is the old server. Each is warned about where it is
a key. -/
theorem validate_warns_iff_nested :
    let server := ((Builder.new.bean "Server").2.addProperty ⟨5⟩
      ⟨"port", .integer, none, some ⟨none, none⟩⟩).2
    let config := ((server.bean "Config").2.addProperty ⟨6⟩ ⟨"server", ⟨5⟩, none, none⟩).2
    let r := (config.addProperty ⟨6⟩ ⟨"old", ⟨5⟩, none, some ⟨some "server", none⟩⟩).2.build
    let o : CheckOptions := ⟨true⟩
    let inner := [("port", Node.number (.int 80))]
    let doc : Node := .mapping [("server", .mapping inner), ("old", .null)]
    let warned := ∃ d ∈ r.validate o ⟨6⟩ doc,
      d.path = [.key "server"] ++ [.key "port"] ∧ d.problem.isDeprecation
    o.reportDeprecated ∧ doc.WellFormed ∧
      r.Visits ⟨6⟩ doc [.key "server"] ⟨5⟩ (.mapping inner) ∧ r.kind ⟨5⟩ = .bean ∧
      ("port", .number (.int 80)) ∈ inner ∧
      (warned ↔ ∃ q, (r.descriptor ⟨5⟩).property? "port" = some q ∧ q.isDeprecated) ∧
      (((∃ q ∈ r.uses ⟨5⟩ "port", q.isDeprecated) → warned) ↔
        ((r.descriptor ⟨5⟩).property? "port" = none →
          ∀ q ∈ r.uses ⟨5⟩ "port", q.isDeprecated = false)) ∧
      warned := by
  intro server config r o inner doc warned
  have hdoc : doc.WellFormed := by simp [doc, inner]
  have hvisits : r.Visits ⟨6⟩ doc [.key "server"] ⟨5⟩ (.mapping inner) :=
    .document rfl (.step (.entry rfl List.mem_cons_self rfl) (.here _ _))
  have hentry : ("port", Node.number (.int 80)) ∈ inner := List.mem_cons_self
  obtain ⟨hwarned, hreported⟩ := validate_warns_iff r (o := o) rfl hdoc hvisits rfl hentry
  exact ⟨rfl, hdoc, hvisits, rfl, hentry, hwarned, hreported, hwarned.mpr ⟨_, rfl, rfl⟩⟩

/-- The old server of a server is deprecated. The backup of the old server and the old server of the
backup are warned about, but not where each is written with one key. -/
theorem validate_warns_not_flattened :
    let server := (Builder.new.bean "Server").2
    let old : Property := ⟨"old", ⟨5⟩, none, some ⟨none, none⟩⟩
    let backup : Property := ⟨"backup", ⟨5⟩, none, none⟩
    let r := ((server.addProperty ⟨5⟩ old).2.addProperty ⟨5⟩ backup).2.build
    let nested : Node := .mapping
      [("old", .mapping [("backup", .null)]), ("backup", .mapping [("old", .null)])]
    let entries := [("old.backup", Node.null), ("backup.old", .null)]
    r.validate ⟨true⟩ ⟨5⟩ nested =
        [⟨[.key "old"], .deprecated "old" none⟩,
          ⟨[.key "backup", .key "old"], .deprecated "old" none⟩] ∧
      r.Visits ⟨5⟩ (.mapping entries) [] ⟨5⟩ (.mapping entries) ∧ r.kind ⟨5⟩ = .bean ∧
      (∀ e ∈ entries, ∃ q ∈ r.uses ⟨5⟩ e.1, q.isDeprecated) ∧
      r.validate ⟨true⟩ ⟨5⟩ (.mapping entries) = [] := by
  intro server old backup r nested entries
  have hold : (r.descriptor ⟨5⟩).property? "old" = some old := rfl
  have hbackup : (r.descriptor ⟨5⟩).property? "backup" = some backup := rfl
  have hresolve : ∀ key ∈ ["old", "backup"],
      r.resolve ⟨5⟩ ([key].map .key) = .ok ⟨5⟩ ∧ [key] ≠ [] ∧ ∀ k ∈ [key], isName k.toList := by
    decide +kernel
  have hunique : ∀ q ∈ (r.descriptor ⟨5⟩).properties,
      (Covers q.name (dotted ["old", "backup"]) → q.name = "old") ∧
        (Covers q.name (dotted ["backup", "old"]) → q.name = "backup") := by
    decide +kernel
  obtain ⟨hold', hne, hname⟩ := hresolve "old" List.mem_cons_self
  obtain ⟨hbackup', hne', hname'⟩ := hresolve "backup" (List.mem_cons_of_mem _ List.mem_cons_self)
  refine ⟨by decide +kernel, .document rfl (.here _ _), rfl, ?_, ?_⟩
  · have huses := Registry.uses_dotted hold hne' hname' (fun q hq => (hunique q hq).1) hbackup'
    have huses' := Registry.uses_dotted hbackup hne hname (fun q hq => (hunique q hq).2) hold'
    refine List.forall_mem_cons.mpr ⟨⟨old, ?_, rfl⟩, List.forall_mem_singleton.mpr ⟨old, ?_, rfl⟩⟩
    · exact huses.symm ▸ List.mem_cons_self
    · exact huses'.symm ▸ List.mem_cons_of_mem _ (by decide +kernel)
  · have hcheck := Registry.checkEntry_dotted hold hne' hname'
      (fun q hq => (hunique q hq).1) hbackup' ⟨true⟩ rfl .null
    have hcheck' := Registry.checkEntry_dotted hbackup hne hname
      (fun q hq => (hunique q hq).2) hold' ⟨true⟩ rfl .null
    show r.checkEntries ⟨true⟩ ⟨5⟩ entries = []
    rw [Registry.checkEntries_eq, List.flatMap_eq_nil_iff]
    refine List.forall_mem_cons.mpr ⟨?_, List.forall_mem_singleton.mpr ?_⟩
    · exact congrArg (List.map (Diagnostic.under (.key "old.backup"))) hcheck
    · exact congrArg (List.map (Diagnostic.under (.key "backup.old"))) hcheck'

end TypedYaml
