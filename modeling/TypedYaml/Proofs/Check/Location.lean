import TypedYaml.Proofs.Check.Reach

/-!
# Diagnostics are found in the document

The path of a diagnostic is made up on the way of the check, and walking along it is another matter.
It leads to the node that the diagnostic is about, because the check goes to children only and each
of its steps is a step of a walk (`Reaches.traverse`). Where a list is written as a scalar, the
scalar is the last node on the path, and an index of the element comes after it.

* `Problem.Fits`: what a diagnostic says about the node at its path.
* `Diagnostic.Located`: the node is there.
* `validate_located`: it is there for all diagnostics of a document.
-/

namespace TypedYaml

/-- What is wrong with the node at a path. A stream of documents is no list. -/
def Problem.Fits (problem : Problem) (p : Path) (n : Node) : Prop :=
  match problem with
  | .unknownProperty property _ | .deprecated property _ => p.getLast? = some (.key property)
  | .expectedMap _ found => found = n.kindName ∧ n.isMapping = false
  | .expectedSequence _ found => found = n.kindName ∧ ∀ items, n ≠ .sequence items
  | .expectedScalar _ found => found = n.kindName ∧ n.isScalar = false
  | .invalidValue value _ => n.scalarText? = some value

/-- The path leads to one node of the document, the one that is at fault; or to a scalar that
stands for a list, with the index of an element after it. -/
inductive Diagnostic.Located (doc : Node) : Diagnostic → Prop
  | node {d : Diagnostic} {n : Node} (hn : Node.descent.traverse [doc] d.path = .ok [n])
      (hfits : d.problem.Fits d.path n) : Located doc d
  | part {q : Path} {text part typeName : String} {i : Nat}
      (hn : Node.descent.traverse [doc] q = .ok [.string text])
      (hi : (Registry.splitList text)[i]? = some part) :
      Located doc ⟨q ++ [Registry.indexSegment i], .invalidValue part typeName⟩
  | single {q : Path} {n : Node} {text typeName : String}
      (hn : Node.descent.traverse [doc] q = .ok [n]) (hnull : n ≠ .null)
      (hstring : ∀ s, n ≠ .string s) (htext : n.scalarText? = some text) :
      Located doc ⟨q ++ [Registry.indexSegment 0], .invalidValue text typeName⟩

namespace Registry

variable {r : Registry} {o : CheckOptions}

/-- A diagnostic about a key is found at the value of its entry. -/
theorem traverse_entry {doc : Node} {p : Path} {entries : List (String × Node)} {key : String}
    {value : Node} (hp : Node.descent.traverse [doc] p = .ok [.mapping entries])
    (hentries : (Node.mapping entries).WellFormed) (hmem : (key, value) ∈ entries) :
    Node.descent.traverse [doc] (p ++ [.key key]) = .ok [value] := by
  have hleads : (Node.mapping entries).Leads (.key key) value :=
    .entry (lookup_of_mem (Node.wellFormed_mapping.mp hentries).1 hmem)
  rw [Descent.traverse_append_of_ok hp, Node.traverse_cons_of_descent _ (hleads.descent hentries)]
  rfl

/-- What is said about a node is located where the node is. -/
theorem located_of_reported {doc n : Node} {p : Path} {t : TypeId} {d : Diagnostic}
    (hp : Node.descent.traverse [doc] p = .ok [n]) (hn : n.WellFormed)
    (hd : r.Reported o t n d) : (d.beneath p).Located doc := by
  cases hd with
  | key hmem hd =>
    rcases mem_keyReports_iff.mp hd with ⟨q, c, -, -, -, rfl⟩ | ⟨-, rfl⟩
    · exact .node (traverse_entry hp hn hmem) List.getLast?_concat
    · exact .node (traverse_entry hp hn hmem) List.getLast?_concat
  | noMapping hno => exact .node (by simpa [Diagnostic.beneath] using hp) ⟨rfl, hno⟩
  | noSequence hno => exact .node (by simpa [Diagnostic.beneath] using hp) ⟨rfl, hno⟩
  | noScalar hno => exact .node (by simpa [Diagnostic.beneath] using hp) ⟨rfl, hno⟩
  | invalid htext => exact .node (by simpa [Diagnostic.beneath] using hp) htext
  | invalidPart element hi => exact .part hp hi
  | invalidSingle element hnull hstring htext => exact .single hp hnull hstring htext

end Registry

/-- Every diagnostic of a document or stream is located in it. -/
theorem validate_located (r : Registry) (o : CheckOptions) (root : TypeId) {doc : Node}
    (hdoc : doc.WellFormed) : ∀ d ∈ r.validate o root doc, d.Located doc := by
  intro d hd
  obtain ⟨p, t, n, c, hvisits, hc, rfl⟩ := Registry.mem_validate_iff.mp hd
  obtain ⟨hp, hn⟩ := hvisits.traverse hdoc
  exact Registry.located_of_reported hp hn (Registry.reported_of_mem hc)

/-- An element of a list that is written as one text, the warning and the error of an entry in the
second document of a stream, and a key that is not known. -/
theorem validate_located_ports :
    let list := (Builder.new.listOf .integer).2
    let bean := ((list.bean "Config").2.addProperty ⟨6⟩ ⟨"ports", ⟨5⟩, none, none⟩).2
    let r := (bean.addProperty ⟨6⟩ ⟨"host", .string, none, some ⟨none, none⟩⟩).2.build
    let doc : Node := .stream [.mapping [("ports", .string "80, x")],
      .mapping [("host", .sequence []), ("hots", .null)]]
    let first := Registry.indexSegment 0
    let second := Registry.indexSegment 1
    doc.WellFormed ∧
      r.validate ⟨true⟩ ⟨6⟩ doc =
        [⟨[first, .key "ports", second], .invalidValue "x" "Integer"⟩,
          ⟨[second, .key "host"], .deprecated "host" none⟩,
          ⟨[second, .key "host"], .expectedScalar "String" "sequence"⟩,
          ⟨[second, .key "hots"], .unknownProperty "hots" "Config"⟩] ∧
      ∀ d ∈ r.validate ⟨true⟩ ⟨6⟩ doc, d.Located doc := by
  intro list bean r doc first second
  have hdoc : doc.WellFormed := by simp [doc]
  exact ⟨hdoc, by decide +kernel, validate_located r ⟨true⟩ ⟨6⟩ hdoc⟩

end TypedYaml
