import TypedYaml.Proofs.Path.Prompt

/-!
# The readers of path expressions are prompt

From names and numbers up to whole expressions, each reader is prompt because its parts are. The
name or number that ends a text might be longer in a longer one, so that only the first character
after it tells what it is. A number that does not fit into 64 bits does not fit with more digits
either. The segments up to the end of the text are an induction on what is left of it.

* `prompt_nameOrWildcard`, `prompt_quoted`, `prompt_index`: the tokens.
* `prompt_bracket`, `prompt_step`: a segment.
* `prompt_toEnd`, `prompt_whole`: all segments, and the whole expression.
-/

namespace TypedYaml

open PathParser Text

namespace PathGrammar

/-! ## Names -/

theorem exists_span {α : Type} (p : α → Bool) (cs : List α) :
    ∃ used rest, cs = used ++ rest ∧ (∀ a ∈ used, p a) ∧ ∀ a ∈ rest.head?, p a = false := by
  refine ⟨cs.takeWhile p, cs.dropWhile p, List.takeWhile_append_dropWhile.symm,
    List.all_eq_true.mp List.all_takeWhile, fun a ha => ?_⟩
  have hhead := List.head?_dropWhile_not p cs
  rw [ha] at hhead
  simpa using hhead

theorem identifier_of_head {cs : List Char} (h : ∀ c ∈ cs.head?, isNameChar c = false) :
    identifier cs = .error (.expected cs .identifier) := by
  have htake := (takeWhile_append_head (List.forall_mem_nil _) h).1
  rw [List.nil_append] at htake
  rw [identifier, htake]

theorem prompt_identifier (torn : List Char → Prop) (cs : List Char) :
    Prompt identifier (fun cs name => isName cs ∧ name = String.ofList cs) torn cs := by
  obtain ⟨name, rest, rfl, hall, hhead⟩ := exists_span isNameChar cs
  by_cases hne : name = []
  · subst hne
    have hstarts : Starts (fun cs name => isName cs ∧ name = String.ofList cs) [] :=
      ⟨['a'], "a", by decide, rfl⟩
    exact .of_missing (fun ds hds => identifier_of_head (by rwa [hds])) hstarts
  · have hname : isName name := by simp [isName, hne, List.all_eq_true.mpr hall]
    exact .of_ok fun ds hds => identifier_name hname (by rwa [hds])

theorem prompt_nameOrWildcard (torn : List Char → Prop) (cs : List Char) :
    Prompt nameOrWildcard NameOrWildcard torn cs := by
  cases cs with
  | nil => exact .of_nil rfl ⟨['*'], _, .wildcard⟩
  | cons c cs =>
    by_cases hc : c = '*'
    · subst hc
      exact .of_fixed ['*'] fun _ => rfl
    · have hname : Prompt (Reader.map Segment.key identifier) NameOrWildcard torn (c :: cs) := by
        refine (prompt_identifier torn (c :: cs)).map ?_ id
        rintro ds _ ⟨hname, rfl⟩
        exact .name hname
      exact hname.congr fun ds => nameOrWildcard_of_ne hc

/-! ## Brackets -/

theorem prompt_quoted {quote : Char} (hquote : '\\' ≠ quote) (cs : List Char) :
    Prompt (quoted quote) (fun cs key => ∃ ds, cs = ds ++ [quote] ∧ Quoted quote ds key)
      (TornKey quote) cs := by
  fun_induction quoted quote cs with
  | case1 => exact .of_nil rfl ⟨[quote], [], [], rfl, .nil⟩
  | case2 cs => exact .of_fixed [quote] (quoted_close quote)
  | case3 => exact .of_wrong ⟨.escape, by simp [quoted, hquote]⟩ (Or.inl (.mk .nil))
  | case4 e cs he =>
    have hwrong : ∀ ds, Wrong (quoted quote) ('\\' :: e :: ds) := fun ds =>
      ⟨.escape, by simp [quoted, hquote, he]⟩
    exact .of_wrong (hwrong cs) (Or.inr fun more => hwrong (cs ++ more))
  | case5 e cs c he _ ih =>
    refine .after ['\\', e] (quoted_escaped hquote he) (ih.map ?_ ?_)
    · rintro _ key ⟨ds, rfl, hds⟩
      exact ⟨'\\' :: e :: ds, rfl, .escaped (escape_iff.mpr he) hds⟩
    · rintro ⟨hds⟩
      exact .mk (.escaped (escape_iff.mpr he) hds)
  | case6 c cs hc hslash ih =>
    refine .after [c] (quoted_raw hc hslash) (ih.map ?_ ?_)
    · rintro _ key ⟨ds, rfl, hds⟩
      exact ⟨c :: ds, rfl, .raw hc hslash hds⟩
    · rintro ⟨hds⟩
      exact .mk (.raw hc hslash hds)

/-! ## Numbers -/

/-- An index after its sign. -/
def digits (sign : List Char) : Reader Int64 := fun cs =>
  let ds := cs.takeWhile PathParser.isDigit
  match int64? (sign ++ ds) with
  | some i => .ok (i, cs.dropWhile PathParser.isDigit)
  | none => .error (.malformed (.number (String.ofList (sign ++ ds))))

theorem digits_append {sign ds rest : List Char} (hds : ∀ d ∈ ds, PathParser.isDigit d)
    (hrest : ∀ c ∈ rest.head?, PathParser.isDigit c = false) :
    digits sign (ds ++ rest) =
      match int64? (sign ++ ds) with
      | some i => .ok (i, rest)
      | none => .error (.malformed (.number (String.ofList (sign ++ ds)))) := by
  obtain ⟨htake, hdrop⟩ := takeWhile_append_head hds hrest
  rw [digits, htake, hdrop]

theorem wrong_digits {sign ds rest : List Char} (hds : ∀ d ∈ ds, PathParser.isDigit d)
    (hrest : ∀ c ∈ rest.head?, PathParser.isDigit c = false) :
    Wrong (digits sign) (ds ++ rest) ↔ int64? (sign ++ ds) = none := by
  rw [Wrong, digits_append hds hrest]
  cases int64? (sign ++ ds) <;> simp

/-- A number that is too large stays so with more digits, and one without digits ends there. -/
theorem wrong_digits_append {sign ds rest : List Char} (hsign : sign = [] ∨ sign = ['-'])
    (hds : ∀ d ∈ ds, PathParser.isDigit d) (hrest : ∀ c ∈ rest.head?, PathParser.isDigit c = false)
    (hvalue : int64? (sign ++ ds) = none) (hne : ds ++ rest ≠ []) (more : List Char) :
    Wrong (digits sign) (ds ++ rest ++ more) := by
  by_cases hend : rest = []
  · subst hend
    rw [List.append_nil] at hne ⊢
    obtain ⟨es, rest', rfl, hes, hrest'⟩ := exists_span PathParser.isDigit more
    have hall : ∀ d ∈ ds ++ es, PathParser.isDigit d := List.forall_mem_append.mpr ⟨hds, hes⟩
    rw [← List.append_assoc, wrong_digits hall hrest', Option.eq_none_iff_forall_ne_some]
    intro i hi
    obtain ⟨j, hj⟩ := exists_int64?_of_append hsign hne hall hi
    rw [hvalue] at hj
    cases hj
  · rw [List.append_assoc, wrong_digits hds, hvalue]
    rwa [head?_append_right hend more]

theorem prompt_digits {sign : List Char} (hsign : sign = [] ∨ sign = ['-'])
    (derives : List Char → Int64 → Prop) (cs : List Char) :
    Prompt (digits sign) derives (· = []) cs := by
  obtain ⟨ds, rest, rfl, hds, hrest⟩ := exists_span PathParser.isDigit cs
  cases hvalue : int64? (sign ++ ds) with
  | some i =>
    have hread : ∀ rest, (∀ c ∈ rest.head?, PathParser.isDigit c = false) →
        digits sign (ds ++ rest) = .ok (i, rest) := fun rest hrest => by
      rw [digits_append hds hrest, hvalue]
    exact .of_ok fun rest' h => hread rest' (by rwa [h])
  | none =>
    refine .of_wrong ((wrong_digits hds hrest).mpr hvalue) ?_
    by_cases hne : ds ++ rest = []
    · exact Or.inl hne
    · exact Or.inr (wrong_digits_append hsign hds hrest hvalue hne)

theorem index_minus (cs : List Char) : index ('-' :: cs) = digits ['-'] cs := rfl

theorem index_of_ne {c : Char} (hc : c ≠ '-') (cs : List Char) :
    index (c :: cs) = digits [] (c :: cs) := by
  have hsplit : splitNumber (c :: cs) =
      ((c :: cs).takeWhile PathParser.isDigit, (c :: cs).dropWhile PathParser.isDigit) := by
    unfold splitNumber
    split
    · next heq =>
      cases heq
      exact absurd rfl hc
    · rfl
  rw [index, hsplit]
  rfl

theorem prompt_index {c : Char} (hc : c = '-' ∨ PathParser.isDigit c) (cs : List Char) :
    Prompt index Numeral (· = ['-']) (c :: cs) := by
  by_cases hminus : c = '-'
  · subst hminus
    refine .after ['-'] index_minus ((prompt_digits (Or.inr rfl) _ cs).mono (fun h => h) ?_)
    rintro rfl
    rfl
  · have hdigits := prompt_digits (Or.inl rfl) Numeral (c :: cs)
    exact (hdigits.mono (fun h => h) fun hnil => absurd hnil (List.cons_ne_nil c cs)).congr
      (index_of_ne hminus)

/-! ## Brackets -/

theorem prompt_bracketBody (cs : List Char) : Prompt bracketBody Body TornBody cs := by
  cases cs with
  | nil => exact .of_nil rfl ⟨['*'], _, .wildcard⟩
  | cons c cs =>
    by_cases hstar : c = '*'
    · subst hstar
      exact .of_fixed ['*'] fun _ => rfl
    by_cases hquote : c = '\'' ∨ c = '"'
    · have hread : ∀ ds, bracketBody (c :: ds) =
          Reader.map (fun key => .key (String.ofList key)) (quoted c) ds := fun ds => by
        simp only [bracketBody, if_neg hstar, if_pos hquote]
        rfl
      have hslash : '\\' ≠ c := by rcases hquote with rfl | rfl <;> decide
      refine .after [c] hread ((prompt_quoted hslash cs).map ?_ ?_)
      · rintro _ key ⟨ds, rfl, hds⟩
        exact .key hquote hds
      · exact .key hquote
    by_cases hindex : c = '-' ∨ PathParser.isDigit c
    · have hsign : c :: cs = ['-'] → TornBody (c :: cs) := by
        intro hcs
        rw [hcs]
        exact .sign
      exact ((prompt_index hindex cs).map .index hsign).congr fun ds =>
        (bracketBody_index ds hindex).2
    · have hwrong : ∀ ds, Wrong bracketBody (c :: ds) := fun ds =>
        ⟨.bracket, by simp only [bracketBody, if_neg hstar, if_neg hquote, if_neg hindex]⟩
      exact .of_wrong (hwrong cs) (Or.inr fun more => hwrong (cs ++ more))

/-- The closing bracket of the segment `s`. -/
def closing (s : Segment) : Reader Segment := fun cs => (char ']' cs).map fun rest => (s, rest)

/-- White space and a bracket, after which the segment is complete. -/
def Closing (s : Segment) (cs : List Char) (s' : Segment) : Prop :=
  s' = s ∧ ∃ blanks, Blanks blanks ∧ cs = blanks ++ [']']

theorem closing_not_wrong (s : Segment) : ¬ Wrong (closing s) [] :=
  not_wrong_of_left (o := .error (.char ']')) rfl

theorem closing_skip (s : Segment) : (closing s).skip = closing s := by
  funext cs
  rw [Reader.skip, closing, char, skipBlanks_skipBlanks, closing, char]

theorem starts_closing (s : Segment) : Starts (Closing s) [] :=
  ⟨[']'], s, rfl, [], List.forall_mem_nil _, rfl⟩

theorem prompt_closing (s : Segment) (torn : List Char → Prop) (cs : List Char) :
    Prompt (closing s) (Closing s) torn cs := by
  have hfront : Prompt (closing s) (Closing s) (fun _ => False) (skipBlanks cs) := by
    have hhead := skipBlanks_head cs
    generalize skipBlanks cs = ds at hhead ⊢
    obtain _ | ⟨c, ds⟩ := ds
    · exact .of_nil rfl (starts_closing s)
    by_cases hc : c = ']'
    · subst hc
      exact .of_fixed [']'] fun ds => by rw [List.singleton_append, closing, char_bracket]; rfl
    · have hread : ∀ ds : List Char, ds.head? = some c →
          closing s ds = .error (.expected ds (.char ']')) := by
        intro ds hds
        obtain ⟨es, rfl⟩ := List.head?_eq_some_iff.mp hds
        simp [closing, char, skipBlanks_cons (hhead c rfl), hc, Except.map]
      exact .of_missing hread (starts_closing s)
  rw [← closing_skip]
  refine hfront.skip (closing_not_wrong s) ?_ fun _ h => h.elim
  rintro before _ s' hbefore ⟨hs, blanks, hblanks, rfl⟩
  exact ⟨hs, before ++ blanks, List.forall_mem_append.mpr ⟨hbefore, hblanks⟩,
    (List.append_assoc ..).symm⟩

/-- A body with white space before it. -/
def Indented (cs : List Char) (s : Segment) : Prop :=
  ∃ blanks ds, Blanks blanks ∧ Body ds s ∧ cs = blanks ++ ds

theorem indented_sound : Sound (Reader.skip bracketBody) Indented := by
  intro cs s rest h
  obtain ⟨blanks, hblanks, hcs⟩ := exists_blanks cs
  obtain ⟨ds, hds, hbody⟩ := bracketBody_sound _ _ _ h
  refine ⟨blanks ++ ds, ?_, blanks, ds, hblanks, hbody, rfl⟩
  rw [List.append_assoc, ← hds, ← hcs]

theorem bracket_eq : bracket = (Reader.skip bracketBody).andThen closing := by
  funext cs
  rw [bracket, Reader.andThen, Reader.skip]
  cases bracketBody (skipBlanks cs) <;> rfl

theorem prompt_bracket (cs : List Char) :
    Prompt bracket (fun cs s => Bracket ('[' :: cs) s) (fun cs => TornBracket ('[' :: cs)) cs := by
  have hnil : ¬ Wrong bracketBody [] := not_wrong_of_left (o := .error .bracketBody) rfl
  have hbody : Prompt (Reader.skip bracketBody) Indented (fun cs => TornBracket ('[' :: cs)) cs :=
    (prompt_bracketBody _).skip hnil (fun hblanks hbody => ⟨_, _, hblanks, hbody, rfl⟩) .mk
  rw [bracket_eq]
  refine .andThen indented_sound hbody (fun s rest _ => prompt_closing s (fun _ => False) rest)
    starts_closing closing_not_wrong ?_ id fun _ h => h.elim
  rintro _ _ s s' ⟨before, ds, hbefore, hbody, rfl⟩ ⟨rfl, after, hafter, rfl⟩
  have hbracket := Bracket.mk hbefore hbody hafter
  simpa using hbracket

/-! ## Segments -/

theorem step_of_head {cs : List Char} (h : ∀ c ∈ cs.head?, c ≠ '.' ∧ c ≠ '[') :
    step cs = .error (.expected cs .dotOrBracket) := by
  unfold step
  split
  · exact absurd rfl (h '.' rfl).1
  · exact absurd rfl (h '[' rfl).2
  · rfl

theorem prompt_step (cs : List Char) : Prompt step Rest TornBracket cs := by
  have hstarts : Starts Rest [] :=
    ⟨['.', '*'], .wildcard, @Rest.dot [] ['*'] _ (List.forall_mem_nil _) .wildcard⟩
  by_cases hcs : ∀ c ∈ cs.head?, c ≠ '.' ∧ c ≠ '['
  · exact .of_missing (fun ds hds => step_of_head (by rwa [hds])) hstarts
  · obtain _ | ⟨c, cs⟩ := cs
    · simp at hcs
    by_cases hdot : c = '.'
    · subst hdot
      have hnil : ¬ Wrong nameOrWildcard [] := not_wrong_of_left (o := .error .identifier) rfl
      have hname := prompt_nameOrWildcard (fun _ => False) (skipBlanks cs)
      exact .after ['.'] (fun _ => rfl) (hname.skip hnil .dot fun _ h => h.elim)
    · obtain rfl : c = '[' := by simpa [hdot] using hcs
      exact .after ['['] (fun _ => rfl) ((prompt_bracket cs).mono .bracket id)

/-- The segments up to the end of the text, of which nothing is left. -/
def toEnd : Reader Path := fun cs => (steps cs).map fun p => (p, [])

/-- The segments up to the end of the text, after a first one. -/
def andToEnd (s : Segment) : Reader Path := toEnd.map (s :: ·)

theorem toEnd_of_blank {cs : List Char} (h : skipBlanks cs = []) : toEnd cs = .ok ([], []) := by
  rw [toEnd, steps_of_blank h]
  rfl

theorem toEnd_of_cons {cs ds : List Char} {c : Char} (h : skipBlanks cs = c :: ds) :
    toEnd cs = Reader.andThen step andToEnd (c :: ds) := by
  rw [toEnd, steps]
  split
  · next heq =>
    rw [h] at heq
    cases heq
  · next heq =>
    rw [h] at heq
    cases heq
    split
    · next hs =>
      rw [andThen_of_error hs]
      rfl
    · next s rest hs =>
      rw [andThen_of_ok hs]
      show ((steps rest).map _).map _ = ((steps rest).map _).map _
      cases steps rest <;> rfl

theorem toEnd_not_wrong : ¬ Wrong toEnd [] :=
  not_wrong_of_left (o := .ok []) (toEnd_of_blank rfl)

theorem toEnd_skip : toEnd.skip = toEnd := by
  funext cs
  rw [Reader.skip]
  cases hcs : skipBlanks cs with
  | nil => rw [toEnd_of_blank hcs, toEnd_of_blank rfl]
  | cons c ds =>
    have htwice := skipBlanks_skipBlanks cs
    rw [hcs] at htwice
    rw [toEnd_of_cons hcs, toEnd_of_cons htwice]

/-- A segment of some reader, and those up to the end of the text. -/
theorem prompt_andToEnd {read : Reader Segment} {d : List Char → Segment → Prop}
    {d' : List Char → Path → Prop} {torn torn' : List Char → Prop} {cs : List Char}
    (hsound : Sound read d) (hread : Prompt read d torn cs)
    (hrest : ∀ s rest, read cs = .ok (s, rest) → Prompt toEnd Tail TornTail rest)
    (hd : ∀ {ds es s p}, d ds s → Tail es p → d' (ds ++ es) (s :: p)) (ht : torn cs → torn' cs)
    (ht' : ∀ {ds es s}, d ds s → TornTail es → torn' (ds ++ es)) :
    Prompt (read.andThen andToEnd) d' torn' cs := by
  have hnext : ∀ s rest, read cs = .ok (s, rest) →
      Prompt (andToEnd s) (fun cs q => ∃ p, Tail cs p ∧ q = s :: p) TornTail rest :=
    fun s rest h => (hrest s rest h).map (fun hp => ⟨_, hp, rfl⟩) id
  refine .andThen hsound hread hnext (fun s => ⟨[], [s], [], .nil, rfl⟩)
    (fun s => mt wrong_map.mp toEnd_not_wrong) ?_ ht ht'
  rintro ds es s _ hds ⟨p, hp, rfl⟩
  exact hd hds hp

theorem prompt_toEnd_nil : Prompt toEnd Tail TornTail [] := by
  have hread : ∀ rest : List Char, rest.head? = none → toEnd ([] ++ rest) = .ok ([], rest) := by
    intro rest hrest
    rw [List.head?_eq_none_iff.mp hrest]
    exact toEnd_of_blank rfl
  show Prompt toEnd Tail TornTail ([] ++ [])
  exact .of_ok hread

/-- By induction on what is left, which is less after every step. -/
theorem prompt_toEnd (cs : List Char) : Prompt toEnd Tail TornTail cs := by
  have hlength := skipBlanks_length_le cs
  have hhead := skipBlanks_head cs
  have hfront : Prompt toEnd Tail TornTail (skipBlanks cs) := by
    generalize skipBlanks cs = ds at hlength hhead ⊢
    obtain _ | ⟨c, ds⟩ := ds
    · exact prompt_toEnd_nil
    have hsegments : Prompt (Reader.andThen step andToEnd) Tail TornTail (c :: ds) := by
      refine prompt_andToEnd step_sound (prompt_step _) (fun s rest hs => ?_) .cons (.mk .nil) .cons
      have hlt := Nat.lt_of_lt_of_le (step_length_lt hs) hlength
      exact prompt_toEnd rest
    exact hsegments.congr fun ds => toEnd_of_cons (skipBlanks_cons (hhead c rfl))
  rw [← toEnd_skip]
  exact hfront.skip toEnd_not_wrong .indent .indent
termination_by cs.length

/-! ## Whole expressions -/

/-- A whole expression without the white space before it. -/
def fromStart : Reader Path
  | [] => .error (.expected [] .pathExpression)
  | '$' :: cs => toEnd cs
  | '[' :: cs => Reader.andThen bracket andToEnd cs
  | cs => Reader.andThen nameOrWildcard andToEnd cs

theorem fromStart_of_ne {c : Char} (hdollar : c ≠ '$') (hbracket : c ≠ '[') (cs : List Char) :
    fromStart (c :: cs) = Reader.andThen nameOrWildcard andToEnd (c :: cs) := by
  unfold fromStart
  split
  · next heq => cases heq
  · next heq =>
    cases heq
    exact absurd rfl hdollar
  · next heq =>
    cases heq
    exact absurd rfl hbracket
  · rfl

theorem starts_fromStart : Starts FromStart [] :=
  ⟨['$'], [], FromStart.mk .root .nil⟩

theorem prompt_fromStart (cs : List Char) : Prompt fromStart FromStart TornFromStart cs := by
  obtain _ | ⟨c, cs⟩ := cs
  · exact .of_nil rfl starts_fromStart
  by_cases hdollar : c = '$'
  · subst hdollar
    exact .after ['$'] (fun _ => rfl) ((prompt_toEnd cs).mono (.mk .root) (.later .root))
  by_cases hbracket : c = '['
  · subst hbracket
    refine .after ['['] (fun _ => rfl) ?_
    refine prompt_andToEnd bracket_sound (prompt_bracket cs) (fun _ rest _ => prompt_toEnd rest)
      (fun hs hp => ?_) .first fun hs htorn => ?_
    · have hstart := FromStart.mk (.bracket hs) hp
      exact hstart
    · have hstart := TornFromStart.later (.bracket hs) htorn
      exact hstart
  · have hname := prompt_nameOrWildcard TornFromStart (c :: cs)
    refine .congr ?_ (fromStart_of_ne hdollar hbracket)
    exact prompt_andToEnd nameOrWildcard_sound hname (fun _ rest _ => prompt_toEnd rest)
      (fun hs hp => .mk (.bare hs) hp) id fun hs htorn => .later (.bare hs) htorn

/-- The whole text, of which nothing is left. -/
def whole : Reader Path := fun cs => (expression cs).map fun p => (p, [])

theorem whole_eq : whole = fromStart.skip := by
  funext cs
  rw [whole, expression, Reader.skip]
  generalize skipBlanks cs = ds
  split
  · rfl
  · rfl
  · next rest =>
    have hread : toEnd ('[' :: rest) = _ := toEnd_of_cons (skipBlanks_cons (by decide))
    exact hread
  · next hnil hdollar hbracket =>
    obtain _ | ⟨c, ds⟩ := ds
    · exact absurd rfl hnil
    have hdollar : c ≠ '$' := by
      rintro rfl
      exact hdollar ds rfl
    have hbracket : c ≠ '[' := by
      rintro rfl
      exact hbracket ds rfl
    rw [fromStart_of_ne hdollar hbracket, Reader.andThen]
    cases nameOrWildcard (c :: ds) with
    | error stop => rfl
    | ok p =>
      show ((steps p.2).map _).map _ = ((steps p.2).map _).map _
      cases steps p.2 <;> rfl

theorem prompt_whole (cs : List Char) : Prompt whole Expression Torn cs := by
  rw [whole_eq]
  have hnil : ¬ Wrong fromStart [] := not_wrong_of_left (o := .error .pathExpression) rfl
  exact (prompt_fromStart _).skip hnil FromStart.indent TornFromStart.indent

end PathGrammar

end TypedYaml
