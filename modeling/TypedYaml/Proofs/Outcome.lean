/-!
# Outcomes

A change of the error leaves results alone, so a result comes from a result and an error from an
error. A change of the result leaves errors alone.

A run is settled when it is known under which condition it succeeds and what is true of its result.
One run after the other succeeds under both conditions, where the second may use what is true of
the first result.

Two runs are parallel if both succeed or both fail, with results or errors that correspond.

What is found in a list of entries is one of them, and each of them is found if their keys differ.

* `Settles`: when a run succeeds, and with what.
* `Parallel`: two runs with corresponding outcomes.
-/

namespace TypedYaml

variable {ε δ α : Type}

theorem mapError_eq_ok {e : Except ε α} {f : ε → δ} {a : α} (h : e.mapError f = .ok a) :
    e = .ok a := by
  cases e with
  | error x => cases h
  | ok b =>
    cases h
    rfl

theorem mapError_eq_error {e : Except ε α} {f : ε → δ} {y : δ} (h : e.mapError f = .error y) :
    ∃ x, e = .error x ∧ f x = y := by
  cases e with
  | error x =>
    cases h
    exact ⟨x, rfl, rfl⟩
  | ok b => cases h

theorem map_eq_ok_iff {β : Type} {e : Except ε α} {f : α → β} {b : β} :
    e.map f = .ok b ↔ ∃ a, e = .ok a ∧ f a = b := by
  cases e <;> simp [Except.map]

theorem map_eq_error_iff {β : Type} {e : Except ε α} {f : α → β} {x : ε} :
    e.map f = .error x ↔ e = .error x := by
  cases e <;> simp [Except.map]

theorem toOption_eq_some_iff {e : Except ε α} {a : α} : e.toOption = some a ↔ e = .ok a := by
  cases e <;> simp [Except.toOption]

theorem bind_eq_ok_iff {β : Type} {e : Except ε α} {f : α → Except ε β} {b : β} :
    e >>= f = .ok b ↔ ∃ a, e = .ok a ∧ f a = .ok b := by
  cases e <;> simp [bind, Except.bind]

/-- What the steps give back came out of one of them. -/
theorem exists_of_mem_mapM {β : Type} {f : α → Except ε β} {xs : List α} {ys : List β}
    (h : xs.mapM f = .ok ys) {y : β} (hy : y ∈ ys) : ∃ x ∈ xs, f x = .ok y := by
  induction xs generalizing ys with
  | nil =>
    cases h
    cases hy
  | cons x xs ih =>
    rw [List.mapM_cons] at h
    obtain ⟨z, hz, hrest⟩ := bind_eq_ok_iff.mp h
    obtain ⟨zs, hzs, heq⟩ := bind_eq_ok_iff.mp hrest
    cases heq
    rcases List.mem_cons.mp hy with rfl | hmem
    · exact ⟨x, List.mem_cons_self, hz⟩
    · obtain ⟨x', hx', hfx⟩ := ih hzs hmem
      exact ⟨x', List.mem_cons_of_mem _ hx', hfx⟩

/-- Results that are changed in each of the steps could be changed after all of them. -/
theorem mapM_map_eq {β γ : Type} (f : γ → Except ε α) (g : α → β) (xs : List γ) :
    xs.mapM (fun x => g <$> f x) = List.map g <$> xs.mapM f := by
  induction xs with
  | nil => rfl
  | cons x xs ih =>
    simp only [List.mapM_cons, ih, map_bind, bind_map_left, bind_pure_comp, Functor.map_map,
      List.map_cons]

/-! ## Settled runs -/

/-- The run succeeds exactly under a condition, and what it gives back is then as it should be. -/
structure Settles (run : Except ε α) (condition : Prop) (post : α → Prop) : Prop where
  isOk_iff : run.isOk ↔ condition
  post : ∀ a, run = .ok a → post a

namespace Settles

variable {β : Type} {run : Except ε α} {condition condition' : Prop} {post : α → Prop}

theorem ok {a : α} (hcondition : condition) (h : post a) :
    Settles (.ok a : Except ε α) condition post where
  isOk_iff := iff_of_true rfl hcondition
  post := by
    rintro _ ⟨⟩
    exact h

theorem error (x : ε) (h : ¬ condition) : Settles (.error x) condition post where
  isOk_iff := iff_of_false nofun h
  post := nofun

theorem congr {post' : α → Prop} (h : Settles run condition post)
    (hcondition : condition' ↔ condition) (hpost : ∀ a, post a → post' a) :
    Settles run condition' post' where
  isOk_iff := h.isOk_iff.trans hcondition.symm
  post := fun a ha => hpost a (h.post a ha)

theorem bind {f : α → Except ε β} {post' : β → Prop} (h : Settles run condition post)
    (hf : ∀ a, condition → post a → Settles (f a) condition' post') :
    Settles (run.bind f) (condition ∧ condition') post' := by
  cases run with
  | error x => exact .error x fun hboth => nomatch h.isOk_iff.mpr hboth.1
  | ok a =>
    have hcondition : condition := h.isOk_iff.mp rfl
    exact (hf a hcondition (h.post a rfl)).congr (and_iff_right hcondition) fun _ hb => hb

theorem mapError (h : Settles run condition post) (f : ε → δ) :
    Settles (run.mapError f) condition post := by
  cases run with
  | error x => exact .error _ fun hcondition => nomatch h.isOk_iff.mpr hcondition
  | ok a => exact .ok (h.isOk_iff.mp rfl) (h.post a rfl)

end Settles

/-! ## Parallel runs -/

/-- Both runs fail with related errors, or both succeed with related results. -/
inductive Parallel (E : ε → ε → Prop) (S : α → α → Prop) : Except ε α → Except ε α → Prop
  | error {x x' : ε} (h : E x x') : Parallel E S (.error x) (.error x')
  | ok {a a' : α} (h : S a a') : Parallel E S (.ok a) (.ok a')

namespace Parallel

variable {E : ε → ε → Prop} {S : α → α → Prop} {run run' : Except ε α}

theorem mono {E' : ε → ε → Prop} {S' : α → α → Prop} (h : Parallel E S run run')
    (hE : ∀ x x', E x x' → E' x x') (hS : ∀ a a', S a a' → S' a a') : Parallel E' S' run run' := by
  cases h with
  | error hx => exact .error (hE _ _ hx)
  | ok ha => exact .ok (hS _ _ ha)

theorem mapError {D : δ → δ → Prop} {f : ε → δ} (h : Parallel E S run run')
    (hf : ∀ x x', E x x' → D (f x) (f x')) : Parallel D S (run.mapError f) (run'.mapError f) := by
  cases h with
  | error hx => exact .error (hf _ _ hx)
  | ok ha => exact .ok ha

theorem toOption (h : Parallel E S run run') : Option.Rel S run.toOption run'.toOption := by
  cases h with
  | error => exact .none
  | ok ha => exact .some ha

end Parallel

/-! ## Entries -/

theorem mem_of_lookup {κ : Type} [BEq κ] [LawfulBEq κ] {entries : List (κ × α)} {k : κ} {a : α}
    (h : entries.lookup k = some a) : (k, a) ∈ entries := by
  obtain ⟨before, after, rfl, -⟩ := List.lookup_eq_some_iff.mp h
  exact List.mem_append_right _ List.mem_cons_self

theorem lookup_of_mem {κ : Type} [BEq κ] [LawfulBEq κ] {entries : List (κ × α)} {k : κ} {a : α}
    (hkeys : (entries.map Prod.fst).Nodup) (h : (k, a) ∈ entries) : entries.lookup k = some a := by
  obtain ⟨before, after, rfl⟩ := List.append_of_mem h
  refine List.lookup_eq_some_iff.mpr ⟨before, after, rfl, fun e he => ?_⟩
  rw [List.map_append, List.nodup_append] at hkeys
  have hne : e.1 ≠ k := hkeys.2.2 e.1 (List.mem_map_of_mem he) k List.mem_cons_self
  exact bne_iff_ne.mpr hne.symm

end TypedYaml
