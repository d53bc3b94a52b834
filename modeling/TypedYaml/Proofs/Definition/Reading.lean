import TypedYaml.Proofs.Definition.Building
import TypedYaml.Proofs.Entries
import TypedYaml.Schema.Definition.Reading

/-!
# Definitions that were read

A mapping of a definition is written entry by entry, and no write adds a key that is there. So what
is read has no name twice, whatever the text repeats, and this is all that building asks for.

* `Definition.table_eq_ok`: a mapping that is read.
* `SchemaDefinition.distinct_of_ofYaml`: definitions in a text.
* `Registry.ofYaml_settles`: the texts of schemas.
-/

namespace TypedYaml

/-! ## Parts of a definition -/

namespace Definition

open Yaml (Tree)

variable {α : Type} {read : Tree → Except DefinitionFault α}

/-- A mapping that is read has no name twice, and its values have been read. -/
theorem table_eq_ok {t : Tree} {entries : Entries α} (h : table read t = .ok entries) :
    (entries.map Prod.fst).Nodup ∧ ∀ x ∈ entries, ∃ u, read u = .ok x.2 := by
  obtain ⟨es, -, h⟩ := bind_eq_ok_iff.mp h
  obtain ⟨writes, hwrites, h⟩ := bind_eq_ok_iff.mp h
  cases h
  refine ⟨Entries.nodup_ofList writes, fun x hx => ?_⟩
  obtain ⟨⟨key, value⟩, -, hx⟩ := exists_of_mem_mapM hwrites (Entries.mem_of_mem_ofList hx)
  obtain ⟨name, -, hx⟩ := bind_eq_ok_iff.mp hx
  obtain ⟨v, hv, hx⟩ := bind_eq_ok_iff.mp hx
  cases hx
  exact ⟨value, hv⟩

/-- A mapping that is missing is empty. -/
theorem withDefault_table_eq_ok {member : Option Tree} {entries : Entries α}
    (h : withDefault [] (table read) member = .ok entries) :
    (entries.map Prod.fst).Nodup ∧ ∀ x ∈ entries, ∃ u, read u = .ok x.2 := by
  cases member with
  | none =>
    cases h
    exact ⟨List.nodup_nil, nofun⟩
  | some t => exact table_eq_ok h

end Definition

open Definition Yaml

theorem TypeDefinition.nodup_of_ofTree {t : Tree} {d : TypeDefinition} (h : ofTree t = .ok d) :
    (d.properties.map Prod.fst).Nodup := by
  obtain ⟨es, -, h⟩ := bind_eq_ok_iff.mp h
  obtain ⟨found, -, h⟩ := bind_eq_ok_iff.mp h
  obtain ⟨description, -, h⟩ := bind_eq_ok_iff.mp h
  obtain ⟨values, -, h⟩ := bind_eq_ok_iff.mp h
  obtain ⟨atomic, -, h⟩ := bind_eq_ok_iff.mp h
  obtain ⟨properties, hproperties, h⟩ := bind_eq_ok_iff.mp h
  cases h
  exact (withDefault_table_eq_ok hproperties).1

namespace SchemaDefinition

theorem distinct_of_ofTree {t : Tree} {f : SchemaDefinition} (h : ofTree t = .ok f) :
    f.Distinct := by
  obtain ⟨es, -, h⟩ := bind_eq_ok_iff.mp h
  obtain ⟨found, -, h⟩ := bind_eq_ok_iff.mp h
  obtain ⟨root, -, h⟩ := bind_eq_ok_iff.mp h
  obtain ⟨types, htypes, h⟩ := bind_eq_ok_iff.mp h
  cases h
  obtain ⟨hnodup, hread⟩ := withDefault_table_eq_ok htypes
  refine ⟨hnodup, fun x hx => ?_⟩
  obtain ⟨u, hu⟩ := hread x hx
  exact TypeDefinition.nodup_of_ofTree hu

/-- A definition that is read from a text has no name twice. -/
theorem distinct_of_ofYaml {text : String} {f : SchemaDefinition} (h : ofYaml text = .ok f) :
    f.Distinct := by
  obtain ⟨trees, -, h⟩ := bind_eq_ok_iff.mp h
  match trees with
  | [] =>
    cases h
    exact ⟨List.nodup_nil, nofun⟩
  | [t] =>
    obtain ⟨u, -, h⟩ := bind_eq_ok_iff.mp h
    exact distinct_of_ofTree h
  | _ :: _ :: _ => cases h

end SchemaDefinition

/-! ## Schemas in a text -/

/-- A text gives a schema exactly if it contains a well-formed definition, which then describes the
schema. -/
theorem Registry.ofYaml_settles (text : String) :
    Settles (Registry.ofYaml text) (∃ f, SchemaDefinition.ofYaml text = .ok f ∧ f.WellFormed)
      fun r => r.WellFormed ∧ ∃ f, SchemaDefinition.ofYaml text = .ok f ∧ f.Describes r := by
  unfold Registry.ofYaml
  cases hf : SchemaDefinition.ofYaml text with
  | error x =>
    refine .error _ ?_
    rintro ⟨f, heq, -⟩
    cases heq
  | ok f =>
    have hbuild := (SchemaDefinition.build_settles (SchemaDefinition.distinct_of_ofYaml hf)).mapError
      SchemaTextError.invalid
    refine hbuild.congr ⟨?_, fun h => ⟨f, rfl, h⟩⟩ fun r hr => ⟨hr.2, f, rfl, hr.1⟩
    rintro ⟨_, ⟨⟩, h⟩
    exact h

end TypedYaml
