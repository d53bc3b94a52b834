import TypedYaml.Proofs.Check.Reach

/-!
# Warnings and errors

Whether warnings are asked for is looked at in one place only, before the value of an entry is
checked. It has no part in where the check goes and in what is reported elsewhere. So two checks of
a document report the same errors in the same order, whatever is asked for (`filter_check`). A check
without warnings reports nothing else (`isError_of_mem_validate`).

* `validate_errors`: the reports without warnings.
-/

namespace TypedYaml

open Diagnostic

theorem filter_isError_under (ds : List Diagnostic) (s : Segment) :
    (ds.map (.under s)).filter isError = (ds.filter isError).map (.under s) :=
  filter_under (fun _ => rfl) ds

namespace Registry

variable {r : Registry}

theorem filter_isError_deprecations (o : CheckOptions) (p : Property) :
    (deprecations o p).filter isError = [] := by
  rw [List.filter_eq_nil_iff]
  intro d hd
  simp [isError_eq, (of_mem_deprecations hd).2]

mutual

/-- The options change no errors. -/
theorem filter_check (o o' : CheckOptions) (t : TypeId) : ∀ n : Node,
    (r.check o t n).filter isError = (r.check o' t n).filter isError
  | .null | .bool _ | .number _ | .string _ | .stream _ => rfl
  | .mapping entries => by
    simp only [check]
    cases r.kind t with
    | bean | map value => exact filter_checkEntries o o' t entries
    | unknown | atomic | sequence element => rfl
  | .sequence items => by
    simp only [check]
    cases r.kind t with
    | sequence element => exact filter_checkItems o o' element 0 items
    | unknown | atomic | bean | map value => rfl

theorem filter_checkEntries (o o' : CheckOptions) (t : TypeId) :
    ∀ entries : List (String × Node),
      (r.checkEntries o t entries).filter isError = (r.checkEntries o' t entries).filter isError
  | [] => rfl
  | (key, node) :: rest => by
    have hnode := fun u => filter_check o o' u node
    have hentry : (r.checkEntry o t key node).filter isError =
        (r.checkEntry o' t key node).filter isError := by
      unfold checkEntry
      cases r.entryType t key with
      | property p => simp only [List.filter_append, filter_isError_deprecations, hnode]
      | value u => exact hnode u
      | undeclared => rfl
    have hrest := filter_checkEntries o o' t rest
    simp only [checkEntries_cons, List.filter_append, filter_isError_under, hentry, hrest]

theorem filter_checkItems (o o' : CheckOptions) (element : TypeId) (i : Nat) :
    ∀ items : List Node,
      (r.checkItems o element i items).filter isError =
        (r.checkItems o' element i items).filter isError
  | [] => rfl
  | node :: rest => by
    have hnode := filter_check o o' element node
    have hrest := filter_checkItems o o' element (i + 1) rest
    simp only [checkItems, List.filter_append, filter_isError_under, hnode, hrest]

end

theorem filter_validate (o o' : CheckOptions) (root : TypeId) (doc : Node) :
    (r.validate o root doc).filter isError = (r.validate o' root doc).filter isError := by
  cases doc with
  | stream documents => exact filter_checkItems o o' root 0 documents
  | _ => exact filter_check o o' root _

/-- Only the key of an entry can be worth a warning, and only if warnings are asked for. -/
theorem isError_of_mem_validate {o : CheckOptions} (ho : o.reportDeprecated = false)
    {root : TypeId} {doc : Node} : ∀ d ∈ r.validate o root doc, d.isError := by
  intro d hd
  obtain ⟨p, t, n, c, -, hc, rfl⟩ := mem_validate_iff.mp hd
  cases reported_of_mem hc with
  | key _ hkey =>
    rcases mem_keyReports_iff.mp hkey with ⟨q, c, -, -, hreport, -⟩ | ⟨-, rfl⟩
    · rw [ho] at hreport
      cases hreport
    · rfl
  | _ => rfl

/-- What is reported without warnings are the errors that are reported with them. -/
theorem validate_errors (o : CheckOptions) (root : TypeId) (doc : Node) :
    r.validate ⟨false⟩ root doc = (r.validate o root doc).filter isError := by
  rw [filter_validate o ⟨false⟩]
  exact (List.filter_eq_self.mpr (isError_of_mem_validate rfl)).symm

end Registry

end TypedYaml
