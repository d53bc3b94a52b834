import Mathlib.Data.List.DropRight
import TypedYaml.Basic

/-!
# Texts with white space around them

Trimming takes away what may stand around a text without being part of it, and no more. So texts
that trim alike are the same text with different white space around it.

* `Padded`: the relation between a text and what it is in a longer one.
* `padded_trim`, `Padded.trim_eq`: trimming undoes it.
* `trim_concat`: the end of a trimmed text, where it is no white space.
* `trim_eq_self`: a text without white space is left as it is.
-/

namespace TypedYaml.Text

/-- The second text is the first with white space around it. -/
def Padded (core cs : List Char) : Prop :=
  ∃ before after, isBlank before ∧ isBlank after ∧ cs = before ++ core ++ after

theorem isWhitespace_of_isDigit {c : Char} (h : c.isDigit) : isWhitespace c = false := by
  obtain ⟨hlow, hhigh⟩ := Char.isDigit_iff_toNat.mp h
  simp only [Char.reduceToNat] at hlow hhigh
  simp only [isWhitespace, Bool.or_eq_false_iff, Bool.and_eq_false_iff, beq_eq_false_iff_ne,
    decide_eq_false_iff_not]
  omega

theorem trimStart_append_of_isBlank {before : List Char} (h : isBlank before) (cs : List Char) :
    trimStart (before ++ cs) = trimStart cs :=
  List.dropWhile_append_of_pos (List.all_eq_true.mp h)

theorem trimEnd_append_of_isBlank {after : List Char} (h : isBlank after) (cs : List Char) :
    trimEnd (cs ++ after) = trimEnd cs := by
  have hreverse : isBlank after.reverse := by rwa [isBlank, List.all_reverse]
  rw [trimEnd, List.reverse_append, trimStart_append_of_isBlank hreverse, trimEnd]

theorem trimStart_cons {c : Char} (hc : isWhitespace c = false) (cs : List Char) :
    trimStart (c :: cs) = c :: cs :=
  List.dropWhile_cons_of_neg (by simp [hc])

theorem trimStart_concat {c : Char} (hc : isWhitespace c = false) (cs : List Char) :
    trimStart (cs ++ [c]) = trimStart cs ++ [c] := by
  rw [trimStart, List.dropWhile_append]
  split
  · next h =>
    rw [trimStart, List.isEmpty_iff.mp h]
    exact trimStart_cons hc []
  · rfl

theorem trimEnd_concat {c : Char} (hc : isWhitespace c = false) (cs : List Char) :
    trimEnd (cs ++ [c]) = cs ++ [c] := by
  rw [trimEnd, List.reverse_append, List.reverse_singleton, List.singleton_append,
    trimStart_cons hc, List.reverse_cons, List.reverse_reverse]

theorem trim_concat {c : Char} (hc : isWhitespace c = false) (cs : List Char) :
    trim (cs ++ [c]) = trimStart cs ++ [c] := by
  rw [trim, trimStart_concat hc, trimEnd_concat hc]

theorem trim_trimStart (cs : List Char) : trim (trimStart cs) = trim cs := by
  rw [trim, trimStart, trimStart, List.dropWhile_idempotent, trim, trimStart]

theorem trimStart_padded (cs : List Char) : ∃ before, isBlank before ∧ cs = before ++ trimStart cs :=
  ⟨_, List.all_takeWhile, List.takeWhile_append_dropWhile.symm⟩

theorem trimEnd_padded (cs : List Char) : ∃ after, isBlank after ∧ cs = trimEnd cs ++ after := by
  obtain ⟨before, hbefore, heq⟩ := trimStart_padded cs.reverse
  refine ⟨before.reverse, ?_, ?_⟩
  · rwa [isBlank, List.all_reverse]
  · rw [trimEnd, ← List.reverse_append, ← heq, List.reverse_reverse]

theorem padded_trim (cs : List Char) : Padded (trim cs) cs := by
  obtain ⟨before, hbefore, hstart⟩ := trimStart_padded cs
  obtain ⟨after, hafter, hend⟩ := trimEnd_padded (trimStart cs)
  exact ⟨before, after, hbefore, hafter, by rw [trim, List.append_assoc, ← hend, ← hstart]⟩

theorem Padded.trim_eq {core cs : List Char} (h : Padded core cs) : trim cs = trim core := by
  obtain ⟨before, after, hbefore, hafter, rfl⟩ := h
  rw [trim, List.append_assoc, trimStart_append_of_isBlank hbefore, trimStart,
    List.dropWhile_append]
  split
  · next hcore =>
    have hblank : trimStart after = [] := List.dropWhile_eq_nil_iff.mpr (List.all_eq_true.mp hafter)
    rw [trim, trimStart, List.isEmpty_iff.mp hcore]
    exact congrArg trimEnd hblank
  · exact trimEnd_append_of_isBlank hafter _

theorem trimStart_eq_self {cs : List Char} (h : ∀ c ∈ cs, isWhitespace c = false) :
    trimStart cs = cs := by
  cases cs with
  | nil => rfl
  | cons c cs => exact trimStart_cons (h c List.mem_cons_self) cs

theorem trim_eq_self {cs : List Char} (h : ∀ c ∈ cs, isWhitespace c = false) : trim cs = cs := by
  have hreverse : ∀ c ∈ cs.reverse, isWhitespace c = false :=
    fun c hc => h c (List.mem_reverse.mp hc)
  rw [trim, trimStart_eq_self h, trimEnd, trimStart_eq_self hreverse, List.reverse_reverse]

/-- What is trimmed has nothing left to be trimmed. -/
theorem trim_trim (cs : List Char) : trim (trim cs) = trim cs :=
  (padded_trim cs).trim_eq.symm

end TypedYaml.Text
