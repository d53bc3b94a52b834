import TypedYaml.Basic
import TypedYaml.Proofs.Outcome
import Mathlib.Data.List.Induction
import Mathlib.Data.List.Nodup

/-!
# Entries that were written

A write adds its key at the end, unless the key is there. So after some writes a key stands where
it was first written, and has the value that was written last.

* `Entries.keys_ofList`, `Entries.lookup_ofList`: the keys and their values after some writes.
* `Entries.ofList_of_nodup`: writes to different keys are the entries.
-/

namespace TypedYaml.Entries

variable {α : Type} {entries : Entries α} {key : String}

/-! ## One write -/

theorem insert_of_notMem (value : α) (h : key ∉ entries.map Prod.fst) :
    entries.insert key value = entries ++ [(key, value)] := by
  induction entries with
  | nil => rfl
  | cons e entries ih =>
    rw [List.map_cons, List.mem_cons, not_or] at h
    rw [insert, if_neg (Ne.symm h.1), ih h.2, List.cons_append]

theorem keys_insert_of_mem (value : α) (h : key ∈ entries.map Prod.fst) :
    (entries.insert key value).map Prod.fst = entries.map Prod.fst := by
  induction entries with
  | nil => cases h
  | cons e entries ih =>
    rw [insert]
    split
    · rfl
    · next hne =>
      have hrest : key ∈ entries.map Prod.fst := List.mem_of_ne_of_mem (Ne.symm hne) h
      rw [List.map_cons, ih hrest, List.map_cons]

theorem lookup_cons (e : String × α) (entries : Entries α) (k : String) :
    List.lookup k (e :: entries) = if k = e.1 then some e.2 else entries.lookup k := by
  rw [List.lookup_cons]
  by_cases hk : k = e.1
  · rw [if_pos hk, beq_iff_eq.mpr hk]
  · rw [if_neg hk, beq_eq_false_iff_ne.mpr hk]

theorem lookup_map {β : Type} (f : α → β) (entries : Entries α) (k : String) :
    (entries.map fun e => (e.1, f e.2)).lookup k = (entries.lookup k).map f := by
  induction entries with
  | nil => rfl
  | cons e entries ih =>
    rw [List.map_cons, lookup_cons, lookup_cons, ih]
    split <;> rfl

theorem lookup_insert (entries : Entries α) (key : String) (value : α) (k : String) :
    (entries.insert key value).lookup k = if k = key then some value else entries.lookup k := by
  induction entries with
  | nil => exact lookup_cons (key, value) [] k
  | cons e entries ih =>
    rw [insert]
    split
    · next he =>
      rw [lookup_cons, lookup_cons, he]
      by_cases hk : k = key
      · rw [if_pos hk, if_pos hk]
      · simp only [if_neg hk]
    · next he =>
      rw [lookup_cons, lookup_cons, ih]
      by_cases hk : k = key
      · have hke : k ≠ e.1 := fun heq => he (heq.symm.trans hk)
        rw [if_neg hke, if_pos hk, if_pos hk]
      · simp only [if_neg hk]

theorem nodup_insert (h : (entries.map Prod.fst).Nodup) (key : String) (value : α) :
    ((entries.insert key value).map Prod.fst).Nodup := by
  by_cases hkey : key ∈ entries.map Prod.fst
  · rwa [keys_insert_of_mem value hkey]
  · rw [insert_of_notMem value hkey, List.map_append, List.map_singleton,
      ← List.concat_eq_append]
    exact List.Nodup.concat hkey h

/-! ## Several writes -/

theorem ofList_concat (writes : List (String × α)) (x : String × α) :
    ofList (writes ++ [x]) = (ofList writes).insert x.1 x.2 :=
  List.foldl_append

theorem nodup_ofList (writes : List (String × α)) : ((ofList writes).map Prod.fst).Nodup :=
  List.foldlRecOn writes _ (motive := fun entries : Entries α => (entries.map Prod.fst).Nodup)
    List.nodup_nil fun _ h x _ => nodup_insert h x.1 x.2

/-- The keys stand in the order in which they were first written. -/
theorem keys_ofList (writes : List (String × α)) :
    (ofList writes).map Prod.fst = (writes.map Prod.fst).eraseDups := by
  induction writes using List.reverseRecOn with
  | nil => rfl
  | append_singleton writes x ih =>
    have hmem : x.1 ∈ (ofList writes).map Prod.fst ↔ x.1 ∈ writes.map Prod.fst := by
      rw [ih, List.mem_eraseDups]
    rw [ofList_concat, List.map_append, List.eraseDups_append, ← ih]
    by_cases hkey : x.1 ∈ writes.map Prod.fst
    · rw [keys_insert_of_mem _ (hmem.mpr hkey)]
      simp [List.removeAll, hkey]
    · rw [insert_of_notMem _ (mt hmem.mp hkey), List.map_append]
      simp [List.removeAll, hkey, List.eraseDups_cons]

/-- A key has the value that was written last. -/
theorem lookup_ofList (writes : List (String × α)) (key : String) :
    (ofList writes).lookup key = writes.reverse.lookup key := by
  induction writes using List.reverseRecOn with
  | nil => rfl
  | append_singleton writes x ih =>
    rw [ofList_concat, lookup_insert, ih, List.reverse_concat, lookup_cons]

theorem mem_of_mem_ofList {writes : List (String × α)} {x : String × α}
    (h : x ∈ ofList writes) : x ∈ writes := by
  have hlookup := lookup_of_mem (nodup_ofList writes) h
  rw [lookup_ofList] at hlookup
  exact List.mem_reverse.mp (mem_of_lookup hlookup)

/-- Writes to different keys all stay. -/
theorem ofList_of_nodup {writes : List (String × α)} (h : (writes.map Prod.fst).Nodup) :
    ofList writes = writes := by
  induction writes using List.reverseRecOn with
  | nil => rfl
  | append_singleton writes x ih =>
    rw [List.map_append, List.nodup_append] at h
    have hx : x.1 ∉ writes.map Prod.fst := fun hmem => h.2.2 x.1 hmem x.1 List.mem_cons_self rfl
    rw [ofList_concat, ih h.1, insert_of_notMem _ hx]

end TypedYaml.Entries
