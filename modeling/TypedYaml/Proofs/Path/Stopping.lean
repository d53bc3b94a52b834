import TypedYaml.Proofs.Path.Readers

/-!
# Where reading a path expression stops

A text is viable if it can be continued to an expression. Reading stops at the first character that
makes the text unviable, at the end of a viable text, or in a bracket that nothing can mend. Only a
text that is torn is taken for the last of these though it is viable.

All of this is what it means to be prompt. What has to be added is the position of a character,
which counts the bytes before it and so falls between two characters.

* `Viable`: the beginnings of expressions.
* `PathError.Locates`: what an error says of a text.
* `parse_error_located`: the errors say so.
-/

namespace TypedYaml

open PathGrammar PathParser

/-- The text can be continued to an expression. -/
def Viable (text : String) : Prop := ∃ more p, Path.parse (text ++ more) = .ok p

/-- Where the error of a text says that the text goes wrong. -/
def PathError.Locates (text : String) : PathError → Prop
  | .unexpectedToken position found _ =>
    ∃ before after, text = before ++ String.singleton found ++ after ∧
      before.utf8ByteSize = position ∧ Viable before ∧ ¬ Viable (before ++ String.singleton found)
  | .unexpectedEnd _ => Viable text ∧ ∀ p, Path.parse text ≠ .ok p
  | .invalidSyntax _ => Viable text ↔ Torn text.toList

/-! ## Positions -/

theorem utf8Length_eq_sum (cs : List Char) : utf8Length cs = (cs.map Char.utf8Size).sum := by
  rw [utf8Length, List.sum_eq_foldl, List.foldl_map]

theorem utf8Length_append (cs ds : List Char) :
    utf8Length (cs ++ ds) = utf8Length cs + utf8Length ds := by
  simp only [utf8Length_eq_sum, List.map_append, List.sum_append]

theorem utf8ByteSize_ofList (cs : List Char) : (String.ofList cs).utf8ByteSize = utf8Length cs := by
  rw [String.utf8ByteSize_ofList, utf8Length_eq_sum]
  induction cs with
  | nil => rfl
  | cons c cs ih => rw [String.utf8Len_cons, ih, List.map_cons, List.sum_cons, Nat.add_comm]

/-! ## Texts and their characters -/

theorem parse_eq_ok {text : String} {p : Path} :
    Path.parse text = .ok p ↔ expression text.toList = .ok p := by
  rw [Path.parse]
  cases expression text.toList <;> simp [Except.mapError]

theorem whole_of_parse {text : String} {e : PathError} (h : Path.parse text = .error e) :
    ∃ stop, whole text.toList = .error stop ∧ stop.error text.toList = e := by
  rw [Path.parse] at h
  rw [whole]
  cases hread : expression text.toList with
  | error stop =>
    rw [hread] at h
    exact ⟨stop, rfl, Except.error.inj h⟩
  | ok p =>
    rw [hread] at h
    cases h

theorem viable_iff {text : String} : Viable text ↔ Starts Expression text.toList := by
  constructor
  · rintro ⟨more, p, hp⟩
    have hexpression := expression_sound (parse_eq_ok.mp hp)
    rw [String.toList_append] at hexpression
    exact ⟨more.toList, p, hexpression⟩
  · rintro ⟨more, p, hp⟩
    refine ⟨String.ofList more, p, parse_eq_ok.mpr ?_⟩
    rw [String.toList_append, String.toList_ofList]
    exact expression_complete hp

/-- No continuation is read, so none is an expression. -/
theorem not_starts_of_whole {cs : List Char}
    (h : ∀ more, ∃ stop, whole (cs ++ more) = .error stop) :
    ¬ Starts Expression cs := by
  rintro ⟨more, p, hp⟩
  obtain ⟨stop, hstop⟩ := h more
  rw [whole, expression_complete hp] at hstop
  cases hstop

/-! ## Errors -/

/-- Every error holds of its text: where it stops being viable, that it lacks an end, or that nothing
can mend it. -/
theorem parse_error_located {text : String} {e : PathError} (h : Path.parse text = .error e) :
    e.Locates text := by
  obtain ⟨stop, hread, rfl⟩ := whole_of_parse h
  have hprompt := prompt_whole text.toList
  cases stop with
  | expected rest what =>
    have hleft : whole text.toList = left rest (.error what) := hread
    obtain ⟨used, hused⟩ := hprompt.suffix hleft
    have hviable := hprompt.missing hused hleft
    cases rest with
    | nil =>
      rw [List.append_nil] at hused
      refine ⟨viable_iff.mpr (hused ▸ hviable), ?_⟩
      intro p hp
      rw [h] at hp
      cases hp
    | cons c rest =>
      have htext : text = String.ofList used ++ String.singleton c ++ String.ofList rest := by
        rw [← String.toList_inj, hused]
        simp
      refine ⟨String.ofList used, String.ofList rest, htext, ?_, ?_, ?_⟩
      · rw [utf8ByteSize_ofList, hused, utf8Length_append, Nat.add_sub_cancel]
      · rwa [viable_iff, String.toList_ofList]
      · rw [viable_iff, String.toList_append, String.toList_ofList]
        refine not_starts_of_whole fun more => ⟨.expected (c :: more) what, ?_⟩
        rw [String.toList_singleton, List.append_assoc]
        have hsame : (c :: more).head? = (c :: rest).head? := rfl
        exact hprompt.steady hused hsame hleft
  | malformed reason =>
    refine ⟨fun hviable => ?_, fun htorn => viable_iff.mpr htorn.starts⟩
    rcases hprompt.wrong ⟨reason, hread⟩ with htorn | hwrong
    · exact htorn
    · refine absurd (viable_iff.mp hviable) (not_starts_of_whole fun more => ?_)
      obtain ⟨reason, hreason⟩ := hwrong more
      exact ⟨_, hreason⟩

/-- Letters of several bytes, in a text that goes wrong, in one that is unfinished and in one that
is torn after a sign. -/
theorem parse_error_located_letters :
    let token := PathError.unexpectedToken 11 'é' .dotOrBracket
    let unfinished := PathError.unexpectedEnd (.closingQuote '"')
    let number := PathError.invalidSyntax (.number "-")
    (Path.parse "日本.*\u3000é" = .error token ∧ token.Locates "日本.*\u3000é") ∧
      (Path.parse "日本[\"é" = .error unfinished ∧ unfinished.Locates "日本[\"é") ∧
      Path.parse "日本[ -" = .error number ∧ number.Locates "日本[ -" ∧ Viable "日本[ -" := by
  intro token unfinished number
  have htoken : Path.parse "日本.*\u3000é" = .error token := by decide +kernel
  have hunfinished : Path.parse "日本[\"é" = .error unfinished := by decide +kernel
  have hnumber : Path.parse "日本[ -" = .error number := by decide +kernel
  have hviable : Viable "日本[ -" := ⟨"1]", [.key "日本", .index (-1)], by decide +kernel⟩
  exact ⟨⟨htoken, parse_error_located htoken⟩, ⟨hunfinished, parse_error_located hunfinished⟩,
    hnumber, parse_error_located hnumber, hviable⟩

end TypedYaml
