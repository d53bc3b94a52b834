import TypedYaml.Proofs.Path.Stopping

/-!
# The two forms of a path expression

The query form starts with a dollar sign, after which every name has a dot before it. The property
form does without both, and its first segment is read on its own. The readers differ in no more
than that: after the dollar sign the dot is taken, and then the same characters are left to the
same reader as in the property form (`whole_query`). A bracket has no dot before it, so there the
dollar sign is all that is added (`whole_query_bracket`).

So one form is read as the other is, and where it stops as much is left. The position of an error
counts what comes before, which is more by what was added (`parse_append`).

* `PathError.moved`: the errors of a text with something in front.
* `parse_forms`: the two forms of a text.
-/

namespace TypedYaml

open PathGrammar PathParser Text

/-- The first character that is no white space. -/
def firstVisible? (text : String) : Option Char := text.toList.find? (!isWhitespace ·)

/-- The same error with so many bytes in front of the text. -/
def PathError.moved (bytes : Nat) : PathError → PathError
  | .unexpectedToken position found expected => .unexpectedToken (position + bytes) found expected
  | .unexpectedEnd expected => .unexpectedEnd expected
  | .invalidSyntax reason => .invalidSyntax reason

/-! ## Reading either form -/

namespace PathGrammar

theorem exists_skipBlanks_cons {text : String} {c : Char} (h : firstVisible? text = some c) :
    ∃ cs, skipBlanks text.toList = c :: cs := by
  rw [firstVisible?, List.find?_eq_head?_dropWhile_not] at h
  simpa [skipBlanks, List.head?_eq_some_iff] using h

theorem expression_eq_map (cs : List Char) : expression cs = (whole cs).map Prod.fst := by
  rw [whole]
  cases expression cs <;> rfl

/-- After a dollar sign, segments are read up to the end of the text. -/
theorem whole_dollar (cs : List Char) : whole ('$' :: cs) = toEnd cs := by
  rw [whole_eq, Reader.skip, skipBlanks_cons (by decide)]
  rfl

/-- With the dot taken, a name or wildcard is read as at the start of the property form. -/
theorem whole_query {c : Char} {cs ds : List Char} (hcs : skipBlanks cs = c :: ds)
    (hdollar : c ≠ '$') (hbracket : c ≠ '[') : whole ('$' :: '.' :: cs) = whole cs := by
  have hproperty : whole cs = Reader.andThen nameOrWildcard andToEnd (c :: ds) := by
    rw [whole_eq, Reader.skip, hcs, fromStart_of_ne hdollar hbracket]
  have hstep : step ('.' :: cs) = nameOrWildcard (c :: ds) := by rw [step, hcs]
  rw [whole_dollar, toEnd_of_cons (skipBlanks_cons (by decide)), Reader.andThen, hstep, hproperty,
    Reader.andThen]

/-- A bracket comes first like any other segment after the dollar sign. -/
theorem whole_query_bracket {cs ds : List Char} (hcs : skipBlanks cs = '[' :: ds) :
    whole ('$' :: cs) = whole cs := by
  have hproperty : whole cs = Reader.andThen bracket andToEnd ds := by
    rw [whole_eq, Reader.skip, hcs]
    rfl
  rw [whole_dollar, toEnd_of_cons hcs, hproperty]
  rfl

end PathGrammar

/-! ## Positions -/

/-- What is left where reading stops is an end of the text, so what is added in front was read. -/
theorem Stop.error_append (before : List Char) {cs : List Char} {stop : Stop}
    (h : whole cs = .error stop) :
    stop.error (before ++ cs) = (stop.error cs).moved (utf8Length before) := by
  cases stop with
  | malformed reason => rfl
  | expected rest what =>
    have hleft : whole cs = left rest (.error what) := h
    obtain ⟨used, rfl⟩ := (prompt_whole cs).suffix hleft
    cases rest with
    | nil => rfl
    | cons c rest =>
      have hposition : utf8Length (before ++ (used ++ c :: rest)) - utf8Length (c :: rest) =
          utf8Length (used ++ c :: rest) - utf8Length (c :: rest) + utf8Length before := by
        simp only [utf8Length_append]
        omega
      simp only [Stop.error, PathError.moved, hposition]

/-- Characters in front that make no difference to the reader only move its errors. -/
theorem parse_append {before text : String}
    (h : whole (before.toList ++ text.toList) = whole text.toList) :
    Path.parse (before ++ text) = (Path.parse text).mapError (.moved before.utf8ByteSize) := by
  have hexpression : expression (before.toList ++ text.toList) = expression text.toList := by
    rw [expression_eq_map, expression_eq_map, h]
  have hbytes : utf8Length before.toList = before.utf8ByteSize := by
    rw [← utf8ByteSize_ofList, String.ofList_toList]
  rw [Path.parse, Path.parse, String.toList_append, hexpression, ← hbytes]
  cases hread : expression text.toList with
  | ok p => rfl
  | error stop =>
    have hstop : whole text.toList = .error stop := by
      rw [whole, hread]
      rfl
    exact congrArg Except.error (Stop.error_append before.toList hstop)

/-! ## Both forms -/

/-- An expression in property form and the same in query form denote one path, or both are refused
for one reason, at places that are apart by what the query form has in front. -/
theorem parse_forms (text : String) :
    (∀ c, firstVisible? text = some c → c ≠ '$' → c ≠ '[' →
      Path.parse ("$." ++ text) = (Path.parse text).mapError (.moved 2)) ∧
    (firstVisible? text = some '[' →
      Path.parse ("$" ++ text) = (Path.parse text).mapError (.moved 1)) := by
  constructor
  · intro c hc hdollar hbracket
    obtain ⟨cs, hcs⟩ := exists_skipBlanks_cons hc
    exact parse_append (whole_query hcs hdollar hbracket)
  · intro hc
    obtain ⟨cs, hcs⟩ := exists_skipBlanks_cons hc
    exact parse_append (whole_query_bracket hcs)

/-- White space in front, letters of several bytes and a second name without a dot; a wildcard that
comes first; and a bracket that is not closed. -/
theorem parse_forms_letters :
    let name := " größe. wert x"
    let bracket := "\u3000['größe'] [0."
    firstVisible? name = some 'g' ∧
      Path.parse name = .error (.unexpectedToken 15 'x' .dotOrBracket) ∧
      Path.parse ("$." ++ name) = .error (.unexpectedToken 17 'x' .dotOrBracket) ∧
      firstVisible? "*[-1]" = some '*' ∧
      Path.parse ("$." ++ "*[-1]") = .ok [.wildcard, .index (-1)] ∧
      firstVisible? bracket = some '[' ∧
      Path.parse bracket = .error (.unexpectedToken 17 '.' (.char ']')) ∧
      Path.parse ("$" ++ bracket) = .error (.unexpectedToken 18 '.' (.char ']')) := by
  intro name bracket
  have hname : Path.parse name = .error (.unexpectedToken 15 'x' .dotOrBracket) := by decide +kernel
  have hwildcard : Path.parse "*[-1]" = .ok [.wildcard, .index (-1)] := by decide +kernel
  have hbracket : Path.parse bracket = .error (.unexpectedToken 17 '.' (.char ']')) := by
    decide +kernel
  have hmoved := (parse_forms name).1 'g' (by decide) (by decide) (by decide)
  have hmoved' := (parse_forms "*[-1]").1 '*' (by decide) (by decide) (by decide)
  have hmoved'' := (parse_forms bracket).2 (by decide)
  rw [hname] at hmoved
  rw [hwildcard] at hmoved'
  rw [hbracket] at hmoved''
  exact ⟨by decide, hname, hmoved, by decide, hmoved', by decide, hbracket, hmoved''⟩

end TypedYaml
