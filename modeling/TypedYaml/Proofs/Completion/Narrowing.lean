import TypedYaml.Proofs.Completion
import TypedYaml.Proofs.Text.LowerCase
import Mathlib.Data.List.Basic

/-!
# Typing more of a label

What is proposed for a text is selected from the same candidates as what is proposed for an initial
part of it. A label that starts with the text in lower case starts with the part in lower case too,
if the lower-case form of the text is that of the part, continued. So there are fewer proposals when
more is typed.

It is not continued where the part ends a word with a sigma and the text goes on with the word: then
the sigma is written otherwise than before. A label that starts with the text does not start with
the part (`matchesStart_iff`), so that it comes up again only when the word goes on.

* `complete_narrows`: the proposals for a text and for an initial part of it.
* `complete_not_narrows`: a label that is not proposed for an initial part of it.
-/

namespace TypedYaml

theorem matchesStart_eq (start label : String) :
    matchesStart start label ↔ Text.lowercase start.toList <+: Text.lowercase label.toList :=
  List.isPrefixOf_iff_prefix

theorem matchesStart_self (label : String) : matchesStart label label :=
  (matchesStart_eq label label).mpr (List.prefix_refl _)

/-- A label that starts with a text starts with a part of it, unless the end of the part is written
otherwise in the text. -/
theorem matchesStart_iff {p q label : String} (h : matchesStart (p ++ q) label) :
    matchesStart p label ↔ Text.reopens p.toList q.toList = false := by
  rw [matchesStart_eq, String.toList_append] at h
  rw [matchesStart_eq, ← Text.lowercase_prefix_iff]
  constructor
  · intro hp
    exact List.prefix_of_prefix_length_le hp h (Text.length_lowercase_le _ _)
  · intro hp
    exact hp.trans h

namespace Registry

variable {r : Registry} {o : CompletionOptions} {root t : TypeId} {path : Path}

/-- With room for all candidates nothing is cut off. -/
theorem complete_of_room (ht : r.resolve root path = .ok t)
    (hroom : (r.candidates o.includeDeprecated t).length ≤ o.maxResults) (start : String) :
    r.complete o root path start =
      (r.candidates o.includeDeprecated t).filter fun c => matchesStart start c.label := by
  rw [complete_of_resolve ht]
  exact List.take_of_length_le ((List.length_filter_le _ _).trans hroom)

end Registry

/-- If there is room for all candidates, what is proposed for a text is proposed for an initial part
of it, in the same order. The exception is a part that ends a word with a sigma, when the text goes
on with this word: then nothing is proposed for both. So a label is proposed for an initial part of
it except for such a part. -/
theorem complete_narrows (r : Registry) (o : CompletionOptions) (root : TypeId) (path : Path)
    (p q : String) (hroom : ∀ t, r.resolve root path = .ok t →
      (r.candidates o.includeDeprecated t).length ≤ o.maxResults) :
    (Text.reopens p.toList q.toList = false →
        (r.complete o root path (p ++ q)).Sublist (r.complete o root path p)) ∧
      (Text.reopens p.toList q.toList →
        ∀ c ∈ r.complete o root path (p ++ q), c ∉ r.complete o root path p) ∧
      ∀ t, r.resolve root path = .ok t → ∀ c ∈ r.candidates o.includeDeprecated t,
        c.label = p ++ q →
          (c ∈ r.complete o root path p ↔ Text.reopens p.toList q.toList = false) := by
  cases ht : r.resolve root path with
  | error e => simp [Registry.complete, ht]
  | ok t =>
    have hcomplete := Registry.complete_of_room ht (hroom t ht)
    refine ⟨fun hword => ?_, fun hword c hc hp => ?_, ?_⟩
    · rw [hcomplete, hcomplete]
      exact List.monotone_filter_right _ fun c hc => (matchesStart_iff hc).mpr hword
    · rw [hcomplete, List.mem_filter] at hc hp
      rw [(matchesStart_iff hc.2).mp hp.2] at hword
      cases hword
    · rintro _ ⟨⟩ c hc hlabel
      have hself : matchesStart (p ++ q) c.label := hlabel ▸ matchesStart_self _
      rw [hcomplete, List.mem_filter, and_iff_right hc]
      exact matchesStart_iff hself

/-- The sigma at the end of a word is no hindrance if a new word follows. -/
theorem complete_narrows_names :
    let names := ["ΣΙΣΥΦΟΣ", "Ζευς", "ΖΕΥΣ ΠΑΤΗΡ"]
    let r := (Builder.new.enumeration "Name" names).2.build
    let o : CompletionOptions := ⟨false, 3⟩
    let name (label : String) : Completion := ⟨label, .value, "Name", none, false⟩
    (∀ t, r.resolve ⟨5⟩ [] = .ok t → (r.candidates o.includeDeprecated t).length ≤ o.maxResults) ∧
      r.complete o ⟨5⟩ [] ("ζευΣ" ++ " ") = [name "ΖΕΥΣ ΠΑΤΗΡ"] ∧
      r.complete o ⟨5⟩ [] "ζευΣ" = [name "Ζευς", name "ΖΕΥΣ ΠΑΤΗΡ"] ∧
      Text.reopens "ζευΣ".toList " ".toList = false ∧
      (r.complete o ⟨5⟩ [] ("ζευΣ" ++ " ")).Sublist (r.complete o ⟨5⟩ [] "ζευΣ") := by
  intro names r o name
  have hroom : ∀ t, r.resolve ⟨5⟩ [] = .ok t →
      (r.candidates o.includeDeprecated t).length ≤ o.maxResults := by
    rintro _ ⟨⟩
    decide +kernel
  have hword : Text.reopens "ζευΣ".toList " ".toList = false := by decide +kernel
  exact ⟨hroom, by decide +kernel, by decide +kernel, hword,
    (complete_narrows r o ⟨5⟩ [] "ζευΣ" " " hroom).1 hword⟩

/-- The name of Sisyphus is proposed for nothing and for the whole of it, but not for its first three
letters. -/
theorem complete_not_narrows :
    let r := (Builder.new.enumeration "Name" ["ΣΙΣΥΦΟΣ"]).2.build
    let o : CompletionOptions := ⟨false, 50⟩
    let name : Completion := ⟨"ΣΙΣΥΦΟΣ", .value, "Name", none, false⟩
    (r.candidates o.includeDeprecated ⟨5⟩).length ≤ o.maxResults ∧
      r.complete o ⟨5⟩ [] "" = [name] ∧ r.complete o ⟨5⟩ [] "ΣΙ" = [name] ∧
      r.complete o ⟨5⟩ [] "ΣΙΣ" = [] ∧ r.complete o ⟨5⟩ [] ("ΣΙΣ" ++ "ΥΦΟΣ") = [name] ∧
      ¬ (r.complete o ⟨5⟩ [] ("ΣΙΣ" ++ "ΥΦΟΣ")).Sublist (r.complete o ⟨5⟩ [] "ΣΙΣ") := by
  intro r o name
  have hpart : r.complete o ⟨5⟩ [] "ΣΙΣ" = [] := by decide +kernel
  have hwhole : r.complete o ⟨5⟩ [] ("ΣΙΣ" ++ "ΥΦΟΣ") = [name] := by decide +kernel
  refine ⟨by decide +kernel, by decide +kernel, by decide +kernel, hpart, hwhole, ?_⟩
  rw [hpart, hwhole]
  exact nofun

end TypedYaml
