import TypedYaml.Proofs.Outcome
import TypedYaml.Proofs.Text.Whitespace
import TypedYaml.Schema.TypeExpr

/-!
# The grammar of type expressions

The grammar says of a text which type expression it spells, without saying where to cut it. A reader
takes an expression apart from the outside, by what it ends with and what it starts with, and never
looks for the brackets that belong together. This does no harm, since a text that is cut in the
wrong place leaves a part that nothing spells: a name has no bracket and no comma.

* `TypeGrammar.Expression`: the grammar.
* `parse_eq_ok_iff`: reading finds the expressions of the grammar. So no text spells two.
-/

namespace TypedYaml

open Text

/-! ## The grammar -/

namespace TypeGrammar

/-- The type that a text spells. White space may stand around each part but a name. -/
inductive Expression : List Char → TypeExpr → Prop
  | name {cs name : List Char} : Padded name cs → name ≠ [] → trim name = name →
      (∀ c ∈ name, TypeExpr.isReserved c = false) → Expression cs (.name (String.ofList name))
  | array {cs element : List Char} {e : TypeExpr} : Padded (element ++ ['[', ']']) cs →
      Expression element e → Expression cs (.list e)
  | list {cs blanks element : List Char} {e : TypeExpr} :
      Padded ("List".toList ++ blanks ++ '<' :: element ++ ['>']) cs → isBlank blanks →
      Expression element e → Expression cs (.list e)
  | map {cs blanks key value : List Char} {e : TypeExpr} :
      Padded ("Map".toList ++ blanks ++ '<' :: (key ++ ',' :: value) ++ ['>']) cs →
      isBlank blanks → Padded "String".toList key → Expression value e → Expression cs (.map e)

end TypeGrammar

namespace TypeExpr

open TypeGrammar

/-! ## Cutting -/

theorem after?_eq_some {ps cs rest : List Char} : after? ps cs = some rest ↔ cs = ps ++ rest := by
  fun_induction after? ps cs with
  | case1 cs => simp [eq_comm]
  | case2 => simp
  | case3 p ps cs ih => simp [ih]
  | case4 p ps c cs hne => simp [Ne.symm hne]

theorem before?_eq_some {ending cs rest : List Char} :
    before? ending cs = some rest ↔ cs = rest ++ ending := by
  rw [before?, Option.map_eq_some_iff]
  constructor
  · rintro ⟨reversed, hreversed, rfl⟩
    have heq := congrArg List.reverse (after?_eq_some.mp hreversed)
    simpa using heq
  · rintro rfl
    exact ⟨rest.reverse, after?_eq_some.mpr List.reverse_append, List.reverse_reverse _⟩

theorem arguments?_eq_some {name cs args : List Char} :
    arguments? name cs = some args ↔
      ∃ blanks, isBlank blanks ∧ cs = name ++ blanks ++ '<' :: args ++ ['>'] := by
  simp only [arguments?, Option.bind_eq_bind, Option.bind_eq_some_iff, after?_eq_some,
    before?_eq_some]
  constructor
  · rintro ⟨rest, rfl, opened, hopened, rfl⟩
    obtain ⟨blanks, hblanks, hrest⟩ := trimStart_padded rest
    exact ⟨blanks, hblanks, by rw [hrest, hopened]; simp⟩
  · rintro ⟨blanks, hblanks, rfl⟩
    refine ⟨blanks ++ '<' :: args ++ ['>'], by simp, args ++ ['>'], ?_, rfl⟩
    rw [List.append_assoc, trimStart_append_of_isBlank hblanks]
    exact trimStart_cons (by decide) _

theorem eq_of_splitComma? {depth : Nat} {cs key value : List Char}
    (h : splitComma? depth cs = some (key, value)) : cs = key ++ ',' :: value := by
  induction cs generalizing depth key with
  | nil => cases h
  | cons c cs ih =>
    rw [splitComma?] at h
    split at h
    · next hcomma =>
      cases h
      rw [hcomma.1, List.nil_append]
    · split at h
      · cases h
      · obtain ⟨⟨key', value'⟩, hsplit, heq⟩ := Option.map_eq_some_iff.mp h
        cases heq
        rw [ih hsplit, List.cons_append]

theorem isReserved_of_isWhitespace {c : Char} (hc : isWhitespace c) : isReserved c = false := by
  refine Bool.eq_false_iff.mpr fun h => ?_
  have hmem : c ∈ ['<', '>', ',', '[', ']'] := by simpa [isReserved, or_assoc] using h
  have hall : ['<', '>', ',', '[', ']'].any isWhitespace = false := rfl
  exact List.any_eq_false.mp hall c hmem hc

theorem isReserved_of_padded {core cs : List Char} (h : Padded core cs)
    (hcore : ∀ c ∈ core, isReserved c = false) : ∀ c ∈ cs, isReserved c = false := by
  obtain ⟨before, after, hbefore, hafter, rfl⟩ := h
  intro c hc
  rcases List.mem_append.mp hc with hc | hc
  · rcases List.mem_append.mp hc with hc | hc
    · exact isReserved_of_isWhitespace (List.all_eq_true.mp hbefore c hc)
    · exact hcore c hc
  · exact isReserved_of_isWhitespace (List.all_eq_true.mp hafter c hc)

/-- Before the first comma there is no bracket to be counted. -/
theorem splitComma?_append {key : List Char} (hkey : ∀ c ∈ key, isReserved c = false)
    (value : List Char) : splitComma? 0 (key ++ ',' :: value) = some (key, value) := by
  induction key with
  | nil => rfl
  | cons c key ih =>
    have hc : c ≠ '<' ∧ c ≠ '>' ∧ c ≠ ',' := by
      have hreserved := hkey c List.mem_cons_self
      refine ⟨?_, ?_, ?_⟩ <;> rintro rfl <;> exact absurd hreserved (by decide)
    have hrest := ih fun c hc => hkey c (List.mem_cons_of_mem _ hc)
    simp [splitComma?, hc, hrest]

/-! ## Reading -/

theorem parseChars_eq (cs : List Char) :
    parseChars cs =
      if (trim cs).isEmpty then invalid cs .empty
      else
        match before? ['[', ']'] (trim cs) with
        | some element => (parseChars element).map .list
        | none =>
          match arguments? "List".toList (trim cs) with
          | some element => (parseChars element).map .list
          | none =>
            match arguments? "Map".toList (trim cs) with
            | some args =>
              match splitComma? 0 args with
              | none => invalid cs .mapArguments
              | some (key, value) =>
                if trim key = "String".toList then (parseChars value).map .map
                else invalid cs .mapKeys
            | none =>
              if (trim cs).any isReserved then invalid cs .malformed
              else .ok (.name (String.ofList (trim cs))) := by
  rw [parseChars]
  split
  · rfl
  · split
    · next h => simp only [h]
    · next h =>
      simp only [h]
      split
      · next h => simp only [h]
      · next h =>
        simp only [h]
        split
        · next h =>
          simp only [h]
          split
          · next h => simp only [h]
          · next h => simp only [h]
        · next h => simp only [h]

section Shapes

variable {cs blanks part : List Char}

theorem before?_closing (cs : List Char) : before? ['[', ']'] (cs ++ ['>']) = none := by
  simp [before?, after?]

theorem parseChars_array (h : trim cs = part ++ ['[', ']']) :
    parseChars cs = (parseChars part).map .list := by
  have hbefore : before? ['[', ']'] (part ++ ['[', ']']) = some part := before?_eq_some.mpr rfl
  simp [parseChars_eq cs, h, hbefore]

theorem arguments?_brackets (name : List Char) (hblanks : isBlank blanks) (args : List Char) :
    arguments? name (name ++ blanks ++ '<' :: args ++ ['>']) = some args :=
  arguments?_eq_some.mpr ⟨blanks, hblanks, rfl⟩

theorem parseChars_list (hblanks : isBlank blanks)
    (h : trim cs = "List".toList ++ blanks ++ '<' :: part ++ ['>']) :
    parseChars cs = (parseChars part).map .list := by
  rw [parseChars_eq, h, before?_closing, arguments?_brackets _ hblanks]
  rfl

theorem parseChars_map {key : List Char} (hblanks : isBlank blanks)
    (hkey : Padded "String".toList key)
    (h : trim cs = "Map".toList ++ blanks ++ '<' :: (key ++ ',' :: part) ++ ['>']) :
    parseChars cs = (parseChars part).map .map := by
  have hstring : trim key = "String".toList := hkey.trim_eq
  have hlist : arguments? "List".toList
      ("Map".toList ++ blanks ++ '<' :: (key ++ ',' :: part) ++ ['>']) = none := rfl
  have hname : ∀ c ∈ "String".toList, isReserved c = false := by simp [isReserved]
  have hsplit := splitComma?_append (isReserved_of_padded hkey hname) part
  simp only [parseChars_eq cs, h, before?_closing, hlist, arguments?_brackets _ hblanks, hsplit,
    hstring]
  rfl

theorem parseChars_name (hne : trim cs ≠ []) (hreserved : ∀ c ∈ trim cs, isReserved c = false) :
    parseChars cs = .ok (.name (String.ofList (trim cs))) := by
  have hbefore : before? ['[', ']'] (trim cs) = none := by
    refine Option.eq_none_iff_forall_ne_some.mpr fun part hpart => ?_
    have hmem : ']' ∈ trim cs := by simp [before?_eq_some.mp hpart]
    exact absurd (hreserved _ hmem) (by decide)
  have hargs : ∀ name, arguments? name (trim cs) = none := by
    refine fun name => Option.eq_none_iff_forall_ne_some.mpr fun part hpart => ?_
    obtain ⟨blanks, -, heq⟩ := arguments?_eq_some.mp hpart
    have hmem : '>' ∈ trim cs := by simp [heq]
    exact absurd (hreserved _ hmem) (by decide)
  have hany : (trim cs).any isReserved = false := by simpa using hreserved
  rw [parseChars_eq, hbefore, hargs, hargs, hany]
  simp [hne]

end Shapes

theorem expression_of_parseChars (cs : List Char) :
    ∀ e, parseChars cs = .ok e → Expression cs e := by
  fun_induction parseChars cs with
  | case2 cs core _ element hbefore _ ih =>
    intro e h
    obtain ⟨e, he, rfl⟩ := map_eq_ok_iff.mp h
    have hcore : trim cs = element ++ ['[', ']'] := before?_eq_some.mp hbefore
    exact .array (hcore ▸ padded_trim cs) (ih e he)
  | case3 cs core _ _ element hargs _ ih =>
    intro e h
    obtain ⟨e, he, rfl⟩ := map_eq_ok_iff.mp h
    obtain ⟨blanks, hblanks, hcore⟩ := arguments?_eq_some.mp hargs
    have hpadded : Padded core cs := padded_trim cs
    exact .list (hcore ▸ hpadded) hblanks (ih e he)
  | case5 cs core _ _ _ args hargs key value hsplit _ hkey ih =>
    intro e h
    obtain ⟨e, he, rfl⟩ := map_eq_ok_iff.mp h
    obtain ⟨blanks, hblanks, hcore⟩ := arguments?_eq_some.mp hargs
    have hpadded : Padded core cs := padded_trim cs
    rw [eq_of_splitComma? hsplit] at hcore
    exact .map (hcore ▸ hpadded) hblanks (hkey ▸ padded_trim key) (ih e he)
  | case8 cs core hne _ _ _ hreserved =>
    intro e h
    cases h
    refine .name (padded_trim cs) (by simpa using hne) (trim_trim cs) ?_
    simpa using hreserved
  | case1 | case4 | case6 | case7 => exact nofun

/-- The array may have white space before it that belongs to its elements, so what is read of it is
only known to trim alike. -/
theorem parseChars_of_expression {cs : List Char} {e : TypeExpr} (h : Expression cs e) :
    ∀ cs', trim cs' = trim cs → parseChars cs' = .ok e := by
  induction h with
  | @name cs name hpadded hne htrim hreserved =>
    intro cs' heq
    rw [hpadded.trim_eq, htrim] at heq
    rw [parseChars_name (heq ▸ hne) (heq ▸ hreserved), heq]
  | @array cs element e hpadded _ ih =>
    intro cs' heq
    have hcore : trim cs' = trimStart element ++ ['[', ']'] := by
      rw [heq, hpadded.trim_eq, List.append_cons, trim_concat (by decide),
        trimStart_concat (by decide), ← List.append_cons]
    rw [parseChars_array hcore, ih _ (trim_trimStart element)]
    rfl
  | @list cs blanks element e hpadded hblanks _ ih =>
    intro cs' heq
    rw [hpadded.trim_eq, trim_concat (by decide)] at heq
    rw [parseChars_list hblanks heq, ih _ rfl]
    rfl
  | @map cs blanks key value e hpadded hblanks hkey _ ih =>
    intro cs' heq
    rw [hpadded.trim_eq, trim_concat (by decide)] at heq
    rw [parseChars_map hblanks hkey heq, ih _ rfl]
    rfl

/-- Reading finds what the grammar says. -/
theorem parse_eq_ok_iff {text : String} {e : TypeExpr} :
    parse text = .ok e ↔ Expression text.toList e :=
  ⟨expression_of_parseChars _ e, fun h => parseChars_of_expression h _ rfl⟩

end TypeExpr

end TypedYaml
