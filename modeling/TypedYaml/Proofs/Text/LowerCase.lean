import TypedYaml.Text.LowerCase
import Mathlib.Data.List.TakeWhile

/-!
# Lower case and initial parts

The lower-case form of a character depends on what stands around it only if it is a capital sigma,
and then on two things: whether the nearest character before it that case does not ignore is a cased
one, and whether the nearest one after it is. When a text is continued, only the second can change,
and only for a sigma after which nothing but ignored characters follows. There is at most one such
sigma, the last character that case does not ignore.

So the lower-case form of a text is that of an initial part of it, continued, unless the part ends a
word with a sigma and the text goes on with the word (`lowercase_prefix_iff`).

* `endsInSigma`, `reopens`: a text that ends a word with a sigma, and a word that goes on after that.
* `lowercaseBetween`: the lower-case form of a part of a text.
* `lowercase_prefix_iff`: when continuing a text continues its lower-case form.
-/

namespace TypedYaml.Text

/-- The last character that case does not ignore is a capital sigma, and stands after a cased one. -/
def endsInSigma (cs : List Char) : Bool :=
  match cs.reverse.dropWhile caseIgnorableRanges.contains with
  | c :: before => c == 'Σ' && meetsCased before
  | [] => false

/-- A word that ended with a sigma in the first text goes on in the second. -/
def reopens (cs ds : List Char) : Bool := endsInSigma cs && meetsCased ds

/-! ## Around a sigma -/

theorem sigma_not_ignorable : caseIgnorableRanges.contains 'Σ' = false := by decide +kernel

theorem meetsCased_append_of_ignorable {cs : List Char}
    (h : ∀ c ∈ cs, caseIgnorableRanges.contains c) (ds : List Char) :
    meetsCased (cs ++ ds) = meetsCased ds := by
  rw [meetsCased, List.dropWhile_append_of_pos h, meetsCased]

theorem meetsCased_cons_of_not_ignorable {c : Char}
    (h : caseIgnorableRanges.contains c = false) (cs : List Char) :
    meetsCased (c :: cs) = casedRanges.contains c := by
  rw [meetsCased, List.dropWhile_cons, h]
  rfl

/-- What follows the first character that case does not ignore does not matter. -/
theorem meetsCased_append_congr {ds es : List Char} (h : meetsCased ds = meetsCased es)
    (cs : List Char) : meetsCased (cs ++ ds) = meetsCased (cs ++ es) := by
  induction cs with
  | nil => exact h
  | cons c cs ih =>
    cases hc : caseIgnorableRanges.contains c with
    | true =>
      have hsingle : ∀ d ∈ [c], caseIgnorableRanges.contains d := by simpa using hc
      have hskip := fun xs => meetsCased_append_of_ignorable hsingle xs
      exact (hskip (cs ++ ds)).trans (ih.trans (hskip (cs ++ es)).symm)
    | false =>
      rw [List.cons_append, List.cons_append, meetsCased_cons_of_not_ignorable hc,
        meetsCased_cons_of_not_ignorable hc]

/-! ## Parts of a text -/

/-- The lower-case form of a character between two texts, the first of them in reverse. -/
def lowercaseAt (before : List Char) (c : Char) (after : List Char) : List Char :=
  if c = 'Σ' then (if meetsCased before && !meetsCased after then ['ς'] else ['σ'])
  else lowercaseChar c

/-- The lower-case form of a text between two others, the first of them in reverse. -/
def lowercaseBetween (before after : List Char) : List Char → List Char
  | [] => []
  | c :: cs => lowercaseAt before c (cs ++ after) ++ lowercaseBetween (c :: before) after cs

theorem lowercaseFrom_append (before cs ds : List Char) :
    lowercaseFrom before (cs ++ ds) =
      lowercaseBetween before ds cs ++ lowercaseFrom (cs.reverse ++ before) ds := by
  induction cs generalizing before with
  | nil => rfl
  | cons c cs ih =>
    have hreverse : (c :: cs).reverse ++ before = cs.reverse ++ (c :: before) := by simp
    rw [hreverse, List.cons_append, lowercaseFrom, ih, lowercaseBetween, List.append_assoc]
    rfl

theorem lowercase_append (cs ds : List Char) :
    lowercase (cs ++ ds) = lowercaseBetween [] ds cs ++ lowercaseFrom cs.reverse ds := by
  rw [lowercase, lowercaseFrom_append, List.append_nil]

theorem lowercase_eq (cs : List Char) : lowercase cs = lowercaseBetween [] [] cs := by
  have happend := lowercase_append cs []
  rwa [List.append_nil, lowercaseFrom, List.append_nil] at happend

theorem lowercaseBetween_append (before after cs ds : List Char) :
    lowercaseBetween before after (cs ++ ds) =
      lowercaseBetween before (ds ++ after) cs ++
        lowercaseBetween (cs.reverse ++ before) after ds := by
  induction cs generalizing before with
  | nil => rfl
  | cons c cs ih =>
    have hreverse : (c :: cs).reverse ++ before = cs.reverse ++ (c :: before) := by simp
    rw [hreverse, List.cons_append, lowercaseBetween, lowercaseBetween, ih, List.append_assoc,
      List.append_assoc]

theorem length_lowercaseAt (before : List Char) (c : Char) (ds es : List Char) :
    (lowercaseAt before c ds).length = (lowercaseAt before c es).length := by
  unfold lowercaseAt
  grind

theorem length_lowercaseBetween (before ds es cs : List Char) :
    (lowercaseBetween before ds cs).length = (lowercaseBetween before es cs).length := by
  induction cs generalizing before with
  | nil => rfl
  | cons c cs ih =>
    rw [lowercaseBetween, lowercaseBetween, List.length_append, List.length_append, ih,
      length_lowercaseAt before c (cs ++ ds) (cs ++ es)]

/-! ## What follows a part -/

theorem lowercaseAt_congr {c : Char} {ds es : List Char}
    (h : c = 'Σ' → meetsCased ds = meetsCased es) (before : List Char) :
    lowercaseAt before c ds = lowercaseAt before c es := by
  unfold lowercaseAt
  by_cases hc : c = 'Σ'
  · rw [h hc]
  · rw [if_neg hc, if_neg hc]

theorem lowercaseBetween_congr {ds es : List Char} (h : meetsCased ds = meetsCased es)
    (before cs : List Char) : lowercaseBetween before ds cs = lowercaseBetween before es cs := by
  induction cs generalizing before with
  | nil => rfl
  | cons c cs ih =>
    rw [lowercaseBetween, lowercaseBetween, ih,
      lowercaseAt_congr fun _ => meetsCased_append_congr h cs]

theorem lowercaseBetween_of_no_sigma {cs : List Char} (h : 'Σ' ∉ cs) (before ds es : List Char) :
    lowercaseBetween before ds cs = lowercaseBetween before es cs := by
  induction cs generalizing before with
  | nil => rfl
  | cons c cs ih =>
    obtain ⟨hc, hcs⟩ := List.ne_and_not_mem_of_not_mem_cons h
    rw [lowercaseBetween, lowercaseBetween, ih hcs,
      lowercaseAt_congr fun heq => absurd heq.symm hc]

theorem sigma_notMem_of_ignorable {cs : List Char}
    (h : ∀ c ∈ cs, caseIgnorableRanges.contains c) : 'Σ' ∉ cs := by
  intro hmem
  have hsigma := h _ hmem
  rw [sigma_not_ignorable] at hsigma
  cases hsigma

/-! ## The end of a text -/

/-- A text is ignored by case, or has a last character that is not. -/
theorem exists_last (cs : List Char) :
    (∀ c ∈ cs, caseIgnorableRanges.contains c) ∧ endsInSigma cs = false ∨
      ∃ before c last, cs = List.reverse before ++ c :: last ∧
        caseIgnorableRanges.contains c = false ∧
        (∀ d ∈ last, caseIgnorableRanges.contains d) ∧
        endsInSigma cs = (c == 'Σ' && meetsCased before) := by
  have hsplit : cs.reverse.takeWhile caseIgnorableRanges.contains ++
      cs.reverse.dropWhile caseIgnorableRanges.contains = cs.reverse :=
    List.takeWhile_append_dropWhile
  have hlast : ∀ d ∈ cs.reverse.takeWhile caseIgnorableRanges.contains,
      caseIgnorableRanges.contains d := fun _ hd => List.mem_takeWhile_imp hd
  have hhead := List.head?_dropWhile_not caseIgnorableRanges.contains cs.reverse
  unfold endsInSigma
  cases hrest : cs.reverse.dropWhile caseIgnorableRanges.contains with
  | nil =>
    rw [hrest, List.append_nil] at hsplit
    refine Or.inl ⟨fun c hc => ?_, rfl⟩
    rw [hsplit] at hlast
    exact hlast c (List.mem_reverse.mpr hc)
  | cons c before =>
    rw [hrest] at hsplit hhead
    have hcs := congrArg List.reverse hsplit
    rw [List.reverse_reverse, List.reverse_append, List.reverse_cons, List.append_assoc] at hcs
    exact Or.inr ⟨before, c, _, hcs.symm, hhead, fun d hd => hlast d (List.mem_reverse.mp hd), rfl⟩

/-- Only a sigma that ends a word is written otherwise when the word goes on. -/
theorem lowercaseAt_eq_iff {c : Char} {before last ds : List Char}
    (hlast : ∀ d ∈ last, caseIgnorableRanges.contains d) (hds : meetsCased ds) :
    lowercaseAt before c (last ++ ds) = lowercaseAt before c last ↔
      (c == 'Σ' && meetsCased before) = false := by
  have hend : meetsCased last = false := by
    have happend := meetsCased_append_of_ignorable hlast []
    rwa [List.append_nil] at happend
  rw [lowercaseAt, lowercaseAt, meetsCased_append_of_ignorable hlast, hds, hend]
  by_cases hc : c = 'Σ'
  · cases hbefore : meetsCased before <;> simp [hc]
  · simp [hc]

theorem lowercaseBetween_eq_iff {cs ds : List Char} (hds : meetsCased ds) :
    lowercaseBetween [] ds cs = lowercaseBetween [] [] cs ↔ endsInSigma cs = false := by
  rcases exists_last cs with ⟨hcs, hend⟩ | ⟨before, c, last, rfl, hc, hlast, hend⟩
  · exact iff_of_true (lowercaseBetween_of_no_sigma (sigma_notMem_of_ignorable hcs) _ _ _) hend
  have hfirst : lowercaseBetween [] (c :: last ++ ds) before.reverse =
      lowercaseBetween [] (c :: last ++ []) before.reverse := by
    refine lowercaseBetween_congr ?_ _ _
    rw [List.cons_append, List.cons_append, meetsCased_cons_of_not_ignorable hc,
      meetsCased_cons_of_not_ignorable hc]
  have hrest := fun before => lowercaseBetween_of_no_sigma (sigma_notMem_of_ignorable hlast)
    before ds []
  rw [hend, lowercaseBetween_append, lowercaseBetween_append, hfirst, List.append_cancel_left_eq,
    lowercaseBetween, lowercaseBetween, hrest, List.append_cancel_right_eq, List.append_nil,
    List.append_nil, List.reverse_reverse]
  exact lowercaseAt_eq_iff hlast hds

theorem length_lowercase_le (cs ds : List Char) :
    (lowercase cs).length ≤ (lowercase (cs ++ ds)).length := by
  rw [lowercase_eq, lowercase_append, List.length_append, length_lowercaseBetween [] [] ds]
  exact Nat.le_add_right _ _

/-- Continuing a text continues its lower-case form, unless it goes on with a word that it ended
with a sigma. -/
theorem lowercase_prefix_iff (cs ds : List Char) :
    lowercase cs <+: lowercase (cs ++ ds) ↔ reopens cs ds = false := by
  have hlength := length_lowercaseBetween [] [] ds cs
  have hsame : lowercase cs <+: lowercase (cs ++ ds) ↔
      lowercaseBetween [] ds cs = lowercaseBetween [] [] cs := by
    rw [lowercase_eq cs, lowercase_append]
    constructor
    · intro h
      have hpart := List.prefix_of_prefix_length_le h (List.prefix_append _ _) hlength.le
      exact (hpart.eq_of_length hlength).symm
    · intro h
      rw [h]
      exact List.prefix_append _ _
  rw [hsame, reopens]
  cases hds : meetsCased ds with
  | true => rw [lowercaseBetween_eq_iff hds, Bool.and_true]
  | false => exact iff_of_true (lowercaseBetween_congr hds _ _) (Bool.and_false _)

/-- The sigma in the name of Sisyphus is at first the last letter. -/
example :
    reopens "ΣΙΣ".toList "ΥΦΟΣ".toList = true ∧ lowercase "ΣΙΣ".toList = "σις".toList ∧
      lowercase "ΣΙΣΥΦΟΣ".toList = "σισυφος".toList := by
  decide +kernel

end TypedYaml.Text
