import TypedYaml.Proofs.Check.Reach

/-!
# A change of one value

When the value at one position of a document is replaced by another, the reports about the rest of
the document stay what they were, in their order. On the way down to the position the check looks at
kinds of nodes, at keys and at the numbers of elements, and none of these depends on the value. So
both documents are checked alike outside of it (`check_unaffected`), and all that is reported about
the value itself is reported at the position or below it.

The entry to which the value belongs is another matter than the value. Whether its key is known or
deprecated is reported at the position of the value, and stays the same too.

* `Node.DifferOnlyAt`: two documents that are the same but for the value at a position.
* `Diagnostic.outside`, `Diagnostic.aboutKey`: the diagnostics about something else than the value.
* `validate_frame`: these are the same for both documents.
-/

namespace TypedYaml

/-! ## Two documents -/

/-- The nodes are the same but for what stands at the position, which both have. -/
inductive Node.DifferOnlyAt : Path → Node → Node → Prop
  | here (n n' : Node) : DifferOnlyAt [] n n'
  | entry {p : Path} {value value' : Node} (before : List (String × Node)) (key : String)
      (after : List (String × Node)) (h : DifferOnlyAt p value value') :
      DifferOnlyAt (.key key :: p) (.mapping (before ++ (key, value) :: after))
        (.mapping (before ++ (key, value') :: after))
  | element {p : Path} {item item' : Node} (before after : List Node)
      (h : DifferOnlyAt p item item') :
      DifferOnlyAt (Registry.indexSegment before.length :: p)
        (.sequence (before ++ item :: after)) (.sequence (before ++ item' :: after))
  | document {p : Path} {doc doc' : Node} (before after : List Node)
      (h : DifferOnlyAt p doc doc') :
      DifferOnlyAt (Registry.indexSegment before.length :: p)
        (.stream (before ++ doc :: after)) (.stream (before ++ doc' :: after))

/-! ## Diagnostics about something else -/

/-- What is wrong with an entry whatever its value is. -/
def Problem.isAboutKey : Problem → Bool
  | .unknownProperty .. | .deprecated .. => true
  | _ => false

namespace Diagnostic

/-- A diagnostic that is neither at the position nor below it. -/
def outside (p : Path) (d : Diagnostic) : Bool := !decide (p <+: d.path)

/-- A diagnostic about the key that leads to the position. -/
def aboutKey (p : Path) (d : Diagnostic) : Bool := d.path == p && d.problem.isAboutKey

/-- A diagnostic that has nothing to do with the value at the position. -/
def unaffected (p : Path) (d : Diagnostic) : Bool := d.outside p || d.aboutKey p

theorem unaffected_under (s : Segment) (p : Path) (d : Diagnostic) :
    (d.under s).unaffected (s :: p) = d.unaffected p := by
  simp [unaffected, outside, aboutKey, under, List.cons_prefix_cons]

theorem unaffected_nil (d : Diagnostic) :
    d.unaffected [] = (d.path.isEmpty && d.problem.isAboutKey) := by
  cases h : d.path <;> simp [unaffected, outside, aboutKey, h]

theorem filter_unaffected_under (ds : List Diagnostic) (s : Segment) (p : Path) :
    (ds.map (.under s)).filter (unaffected (s :: p)) =
      (ds.filter (unaffected p)).map (.under s) :=
  filter_under (unaffected_under s p) ds

end Diagnostic

open Diagnostic

namespace Registry

variable {r : Registry} {o : CheckOptions}

/-! ## The value -/

/-- A node has no key of its own. -/
theorem filter_check_root (t : TypeId) (n : Node) :
    (r.check o t n).filter (unaffected []) = [] := by
  rw [List.filter_eq_nil_iff]
  intro d hd
  obtain ⟨p, u, m, c, -, hc, rfl⟩ := mem_check_iff.mp hd
  cases reported_of_mem hc with
  | key => cases p <;> simp [unaffected_nil, beneath, under]
  | _ => simp [unaffected_nil, beneath, Problem.isAboutKey]

theorem filter_validate_root (root : TypeId) (doc : Node) :
    (r.validate o root doc).filter (unaffected []) = [] := by
  cases doc with
  | stream documents =>
    rw [validate, checkItems_eq, List.filter_flatMap, List.flatMap_eq_nil_iff]
    intro e _
    rw [List.filter_map, List.map_eq_nil_iff, List.filter_eq_nil_iff]
    intro d _
    simp [unaffected_nil, under]
  | _ =>
    rw [validate_eq_check rfl]
    exact filter_check_root root _

/-! ## The way to the value -/

section Children

variable {p : Path}

theorem checkEntries_unaffected {value value' : Node}
    (h : ∀ u, (r.check o u value).filter (unaffected p) =
      (r.check o u value').filter (unaffected p))
    (t : TypeId) (before : List (String × Node)) (key : String) (after : List (String × Node)) :
    (r.checkEntries o t (before ++ (key, value) :: after)).filter (unaffected (.key key :: p)) =
      (r.checkEntries o t (before ++ (key, value') :: after)).filter
        (unaffected (.key key :: p)) := by
  have hentry := checkEntry_congr (fun _ _ => List.filter_append ..) h t key
  simp only [checkEntries_eq, List.flatMap_append, List.flatMap_cons, List.filter_append,
    filter_unaffected_under, hentry]

theorem checkItems_unaffected {item item' : Node} {element : TypeId}
    (h : (r.check o element item).filter (unaffected p) =
      (r.check o element item').filter (unaffected p)) (before after : List Node) :
    (r.checkItems o element 0 (before ++ item :: after)).filter
        (unaffected (indexSegment before.length :: p)) =
      (r.checkItems o element 0 (before ++ item' :: after)).filter
        (unaffected (indexSegment before.length :: p)) := by
  simp only [checkItems_eq, List.zipIdx_append, List.zipIdx_cons, List.flatMap_append,
    List.flatMap_cons, List.filter_append, Nat.zero_add, filter_unaffected_under, h]

end Children

/-- The type of a node decides alone whether the check goes on to its children. -/
theorem check_unaffected {p : Path} {n n' : Node} (h : n.DifferOnlyAt p n') (t : TypeId) :
    (r.check o t n).filter (unaffected p) = (r.check o t n').filter (unaffected p) := by
  induction h generalizing t with
  | here n n' => rw [filter_check_root, filter_check_root]
  | entry before key after _ ih =>
    simp only [check]
    cases r.kind t with
    | bean | map value => exact checkEntries_unaffected ih t before key after
    | unknown | atomic | sequence element => rfl
  | element before after _ ih =>
    simp only [check]
    cases r.kind t with
    | sequence element => exact checkItems_unaffected (ih element) before after
    | unknown | atomic | bean | map value => rfl
  | document before after _ ih =>
    simp only [check]
    cases r.kind t with
    | sequence element => simp only [checkShorthand, Node.isScalar]; rfl
    | unknown | atomic | bean | map value => rfl

theorem validate_unaffected {p : Path} {doc doc' : Node} (h : doc.DifferOnlyAt p doc')
    (root : TypeId) :
    (r.validate o root doc).filter (unaffected p) =
      (r.validate o root doc').filter (unaffected p) := by
  cases h with
  | here => rw [filter_validate_root, filter_validate_root]
  | entry before key after h =>
    exact check_unaffected (.entry before key after h) root
  | element before after h => exact check_unaffected (.element before after h) root
  | document before after h => exact checkItems_unaffected (check_unaffected h root) before after

end Registry

/-- Of two documents that differ only in the value at a position, the same is reported outside of it
and about the key that leads to it. -/
theorem validate_frame (r : Registry) (o : CheckOptions) (root : TypeId) {p : Path}
    {doc doc' : Node} (h : doc.DifferOnlyAt p doc') :
    (r.validate o root doc).filter (outside p) = (r.validate o root doc').filter (outside p) ∧
      (r.validate o root doc).filter (aboutKey p) =
        (r.validate o root doc').filter (aboutKey p) := by
  have hsame := Registry.validate_unaffected (r := r) (o := o) h root
  have hrestrict : ∀ q : Diagnostic → Bool, (∀ d, q d → d.unaffected p) →
      (r.validate o root doc).filter q = (r.validate o root doc').filter q := by
    intro q hq
    have hand : ∀ d, (q d && d.unaffected p) = q d := by
      intro d
      cases hd : q d with
      | false => rfl
      | true => simp [hq d hd]
    have hfilter := congrArg (List.filter q) hsame
    simpa only [List.filter_filter, hand] using hfilter
  refine ⟨hrestrict _ fun d hd => ?_, hrestrict _ fun d hd => ?_⟩
  · simp [unaffected, hd]
  · simp [unaffected, hd]

/-- The list of ports in the second document of a stream becomes a mapping. This is reported where
the elements were, and nothing else changes. -/
theorem validate_frame_ports :
    let list := (Builder.new.listOf .integer).2
    let ports : Property := ⟨"ports", ⟨5⟩, none, some ⟨none, none⟩⟩
    let bean := ((list.bean "Config").2.addProperty ⟨6⟩ ports).2
    let r := (bean.addProperty ⟨6⟩ ⟨"host", .string, none, none⟩).2.build
    let doc (value : Node) : Node := .stream
      [.null, .mapping [("host", .sequence []), ("ports", value), ("hots", .null)]]
    let second := Registry.indexSegment 1
    let p : Path := [second, .key "ports"]
    let d := doc (.string "x, 80")
    let d' := doc (.mapping [])
    d.DifferOnlyAt p d' ∧
      (r.validate ⟨true⟩ ⟨6⟩ d).filter (outside p) =
        [⟨[second, .key "host"], .expectedScalar "String" "sequence"⟩,
          ⟨[second, .key "hots"], .unknownProperty "hots" "Config"⟩] ∧
      (r.validate ⟨true⟩ ⟨6⟩ d).filter (aboutKey p) = [⟨p, .deprecated "ports" none⟩] ∧
      (r.validate ⟨true⟩ ⟨6⟩ d).filter (outside p) =
        (r.validate ⟨true⟩ ⟨6⟩ d').filter (outside p) ∧
      (r.validate ⟨true⟩ ⟨6⟩ d).filter (aboutKey p) =
        (r.validate ⟨true⟩ ⟨6⟩ d').filter (aboutKey p) ∧
      r.validate ⟨true⟩ ⟨6⟩ d ≠ r.validate ⟨true⟩ ⟨6⟩ d' := by
  intro list ports bean r doc second p d d'
  have hentry : Node.DifferOnlyAt [.key "ports"]
      (.mapping [("host", .sequence []), ("ports", .string "x, 80"), ("hots", .null)])
      (.mapping [("host", .sequence []), ("ports", .mapping []), ("hots", .null)]) :=
    .entry [("host", .sequence [])] "ports" [("hots", .null)] (.here _ _)
  have hd : d.DifferOnlyAt p d' := .document [.null] [] hentry
  obtain ⟨houtside, hkey⟩ := validate_frame r ⟨true⟩ ⟨6⟩ hd
  exact ⟨hd, by decide +kernel, by decide +kernel, houtside, hkey, by decide +kernel⟩

end TypedYaml
