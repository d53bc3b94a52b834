import TypedYaml.Proofs.Definition.Reading

/-!
# Definitions with repetitions

A text may write several entries with one name under `types`, or under the `properties` of a type.
All of them are read, but then they are collected by name, and of those with one name only the last
is kept, in the place of the first. This comes before anything is declared. So the checks for names
that are declared twice never see the repetition, and such a text gives the schema that it would
give without the entries that are lost.

* `SchemaDefinition.writtenIn`: a definition with all the entries that a text writes.
* `SchemaDefinition.merged`: what is kept of them.
* `SchemaDefinition.ofYaml_eq_map_merged`: what is read is what is kept.
* `Registry.ofYaml_merges`: the schema of a text with repetitions.
-/

namespace TypedYaml

open Yaml (Tree)

/-! ## Entries as they are written -/

namespace Definition

variable {α β : Type}

/-- The key and the value of one entry. -/
def write (read : Tree → Except DefinitionFault α) (e : Tree × Tree) :
    Except DefinitionFault (String × α) := do
  let name ← text e.1
  let v ← read e.2
  .ok (name, v)

/-- All entries of a mapping, in the order in which they are written. -/
def writes (read : Tree → Except DefinitionFault α) (t : Tree) :
    Except DefinitionFault (List (String × α)) := do
  let es ← entries t
  es.mapM (write read)

theorem table_eq_map_writes (read : Tree → Except DefinitionFault α) (t : Tree) :
    table read t = Entries.ofList <$> writes read t := by
  rw [writes, map_bind]
  refine congrArg (entries t >>= ·) (funext fun es => ?_)
  exact bind_pure_comp Entries.ofList (es.mapM (write read))

theorem write_map (read : Tree → Except DefinitionFault α) (g : α → β) (e : Tree × Tree) :
    write (fun t => g <$> read t) e = Prod.map id g <$> write read e := by
  unfold write
  simp only [map_bind, bind_map_left]
  rfl

theorem writes_map (read : Tree → Except DefinitionFault α) (g : α → β) (t : Tree) :
    writes (fun t => g <$> read t) t = List.map (Prod.map id g) <$> writes read t := by
  have hwrite : write (fun t => g <$> read t) = fun e => Prod.map id g <$> write read e :=
    funext (write_map read g)
  simp only [writes, map_bind, hwrite, mapM_map_eq]

theorem withDefault_map (d : α) (read : Tree → Except DefinitionFault α) (g : α → β)
    (member : Option Tree) :
    withDefault (g d) (fun t => g <$> read t) member = g <$> withDefault d read member := by
  cases member <;> rfl

end Definition

open Definition

/-! ## Definitions as they are written -/

namespace TypeDefinition

/-- The definition that a tree contains, with all the properties that it writes. -/
def written (t : Tree) : Except DefinitionFault TypeDefinition := do
  let es ← entries t
  let found ← members ["description", "values", "atomic", "properties"] es
  let description ← optional text (found.lookup "description")
  let values ← optional (fun v => items v >>= (·.mapM text)) (found.lookup "values")
  let atomic ← withDefault false flag (found.lookup "atomic")
  let properties ← withDefault [] (writes PropertyDefinition.ofTree) (found.lookup "properties")
  .ok ⟨description, values, atomic, properties⟩

/-- Of the properties with one name the last is kept, in the place of the first. -/
def merged (d : TypeDefinition) : TypeDefinition :=
  { d with properties := Entries.ofList d.properties }

theorem ofTree_eq_map_merged (t : Tree) : ofTree t = merged <$> written t := by
  have hproperties (member : Option Tree) :
      withDefault [] (table PropertyDefinition.ofTree) member =
        Entries.ofList <$> withDefault [] (writes PropertyDefinition.ofTree) member := by
    rw [← withDefault_map]
    exact congrArg (withDefault [] · member) (funext (table_eq_map_writes _))
  unfold ofTree written
  simp only [map_bind, hproperties, bind_map_left]
  rfl

theorem nodup_merged (d : TypeDefinition) : (d.merged.properties.map Prod.fst).Nodup :=
  Entries.nodup_ofList d.properties

end TypeDefinition

namespace SchemaDefinition

/-- The definition that a tree contains, with all the types that it writes. -/
def written (t : Tree) : Except DefinitionFault SchemaDefinition := do
  let es ← entries t
  let found ← members ["root", "types"] es
  let root ← optional text (found.lookup "root")
  let types ← withDefault [] (writes TypeDefinition.written) (found.lookup "types")
  .ok ⟨root, types⟩

/-- The definition that a text contains, with all that it writes. -/
def writtenIn (text : String) : Except DefinitionFault SchemaDefinition := do
  let trees ← (Tree.ofText .v11 text).mapError .yaml
  match trees with
  | [] => .ok ⟨none, []⟩
  | [t] =>
    let t ← t.expand.mapError .yaml
    written t
  | _ => .error .severalDocuments

/-- Of the types with one name the last is kept, in the place of the first, and the same holds for
the properties of each. -/
def merged (f : SchemaDefinition) : SchemaDefinition :=
  { f with types := Entries.ofList (f.types.map (Prod.map id TypeDefinition.merged)) }

theorem ofTree_eq_map_merged (t : Tree) : ofTree t = merged <$> written t := by
  have hread : TypeDefinition.ofTree =
      fun t => TypeDefinition.merged <$> TypeDefinition.written t :=
    funext TypeDefinition.ofTree_eq_map_merged
  have htypes (member : Option Tree) :
      withDefault [] (table TypeDefinition.ofTree) member =
        (fun ws => Entries.ofList (ws.map (Prod.map id TypeDefinition.merged))) <$>
          withDefault [] (writes TypeDefinition.written) member := by
    rw [← withDefault_map]
    refine congrArg (withDefault [] · member) (funext fun t => ?_)
    rw [table_eq_map_writes, hread, writes_map, Functor.map_map]
  unfold ofTree written
  simp only [map_bind, htypes, bind_map_left]
  rfl

/-- What is read from a text is what is kept of that which it writes. -/
theorem ofYaml_eq_map_merged (text : String) : ofYaml text = merged <$> writtenIn text := by
  unfold ofYaml writtenIn
  rw [map_bind]
  refine congrArg (_ >>= ·) (funext fun trees => ?_)
  match trees with
  | [] => rfl
  | [t] => simp only [map_bind, ofTree_eq_map_merged]
  | _ :: _ :: _ => rfl

theorem distinct_merged (f : SchemaDefinition) : f.merged.Distinct where
  types := Entries.nodup_ofList _
  properties := by
    intro x hx
    obtain ⟨y, -, rfl⟩ := List.mem_map.mp (Entries.mem_of_mem_ofList hx)
    exact y.2.nodup_merged

theorem names_merged (f : SchemaDefinition) :
    f.merged.types.map Prod.fst = (f.types.map Prod.fst).eraseDups := by
  show (Entries.ofList _).map Prod.fst = _
  rw [Entries.keys_ofList, List.map_map]
  rfl

/-- Of a type that is written several times the last definition is kept. -/
theorem lookup_merged (f : SchemaDefinition) (name : String) :
    f.merged.types.lookup name = (f.types.reverse.lookup name).map TypeDefinition.merged := by
  show (Entries.ofList _).lookup name = _
  rw [Entries.lookup_ofList, ← List.map_reverse]
  exact Entries.lookup_map TypeDefinition.merged f.types.reverse name

end SchemaDefinition

/-! ## Schemas of texts with repetitions -/

/-- A text that repeats names gives a schema exactly if what is kept of its entries is well formed.
The schema has each name once, where it is written first, and with what is written last. -/
theorem Registry.ofYaml_merges {text : String} {f : SchemaDefinition}
    (h : SchemaDefinition.writtenIn text = .ok f) :
    Settles (Registry.ofYaml text) f.merged.WellFormed f.merged.Describes ∧
      f.merged.types.map Prod.fst = (f.types.map Prod.fst).eraseDups ∧
      (∀ name, f.merged.types.lookup name =
        (f.types.reverse.lookup name).map TypeDefinition.merged) ∧
      ∀ d : TypeDefinition, d.merged.properties.map Prod.fst =
          (d.properties.map Prod.fst).eraseDups ∧
        ∀ name, d.merged.properties.lookup name = d.properties.reverse.lookup name := by
  have hread : SchemaDefinition.ofYaml text = .ok f.merged := by
    rw [SchemaDefinition.ofYaml_eq_map_merged, h]
    rfl
  have hload : Registry.ofYaml text = f.merged.build.mapError .invalid := by
    unfold Registry.ofYaml
    rw [hread]
    rfl
  refine ⟨?_, f.names_merged, f.lookup_merged, fun d => ⟨?_, ?_⟩⟩
  · rw [hload]
    exact ((SchemaDefinition.build_settles f.distinct_merged).mapError _).congr .rfl
      fun _ hr => hr.1
  · exact Entries.keys_ofList d.properties
  · exact Entries.lookup_ofList d.properties

/-- A type that is first written as any scalar and then as an enumeration. -/
theorem Registry.ofYaml_merges_level :
    let text := "types:\n  Level:\n    atomic: true\n  Level:\n    values: [LOW]\n"
    ∃ f r, SchemaDefinition.writtenIn text = .ok f ∧ f.types.map Prod.fst = ["Level", "Level"] ∧
      f.merged.types.map Prod.fst = ["Level"] ∧ Registry.ofYaml text = .ok r ∧
      f.merged.Describes r := by
  intro text
  have hwritten : (SchemaDefinition.writtenIn text).map (·.types.map Prod.fst) =
      .ok ["Level", "Level"] := by decide +kernel
  have hload : (Registry.ofYaml text).map Registry.size = .ok 6 := by decide +kernel
  obtain ⟨f, hf, hnames⟩ := map_eq_ok_iff.mp hwritten
  obtain ⟨r, hr, -⟩ := map_eq_ok_iff.mp hload
  obtain ⟨hsettles, hmerged, -⟩ := ofYaml_merges hf
  rw [hnames] at hmerged
  exact ⟨f, r, hf, hnames, hmerged, hr, hsettles.post r hr⟩

/-- Neither a type nor a property that is written twice is an error, though its entries differ. -/
theorem Registry.ofYaml_repeats :
    let types := "types:\n  Level:\n    atomic: true\n  Level:\n    values: [LOW]\n"
    let properties := "types:\n  Node:\n    properties:\n      next: Integer\n      next: Node\n"
    (∃ f r, SchemaDefinition.writtenIn types = .ok f ∧
      f.types.map (fun x => (x.1, x.2.values)) = [("Level", none), ("Level", some ["LOW"])] ∧
      Registry.ofYaml types = .ok r ∧ (r.descriptor ⟨5⟩).hints = ["LOW"]) ∧
    ∃ f r, SchemaDefinition.writtenIn properties = .ok f ∧
      f.types.map (fun x => x.2.properties.map fun y => (y.1, y.2.type)) =
        [[("next", "Integer"), ("next", "Node")]] ∧
      Registry.ofYaml properties = .ok r ∧
      (r.descriptor ⟨5⟩).properties.map (fun p => (p.name, p.type)) = [("next", ⟨5⟩)] := by
  intro types properties
  have hlevels : (SchemaDefinition.writtenIn types).map
      (·.types.map fun x => (x.1, x.2.values)) =
        .ok [("Level", none), ("Level", some ["LOW"])] := by decide +kernel
  have hhints : (Registry.ofYaml types).map (fun r => (r.descriptor ⟨5⟩).hints) =
      .ok ["LOW"] := by decide +kernel
  have hnexts : (SchemaDefinition.writtenIn properties).map
      (·.types.map fun x => x.2.properties.map fun y => (y.1, y.2.type)) =
        .ok [[("next", "Integer"), ("next", "Node")]] := by decide +kernel
  have hnext : (Registry.ofYaml properties).map
      (fun r => (r.descriptor ⟨5⟩).properties.map fun p => (p.name, p.type)) =
        .ok [("next", ⟨5⟩)] := by decide +kernel
  obtain ⟨f, hf, hfound⟩ := map_eq_ok_iff.mp hlevels
  obtain ⟨r, hr, hkept⟩ := map_eq_ok_iff.mp hhints
  obtain ⟨f', hf', hfound'⟩ := map_eq_ok_iff.mp hnexts
  obtain ⟨r', hr', hkept'⟩ := map_eq_ok_iff.mp hnext
  exact ⟨⟨f, r, hf, hfound, hr, hkept⟩, f', r', hf', hfound', hr', hkept'⟩

end TypedYaml
