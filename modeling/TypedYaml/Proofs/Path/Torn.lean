import TypedYaml.Proofs.Path.Grammar

/-!
# Texts that break off

A text that is torn breaks off after the backslash of an escape or after the sign of an index.
Either is read together with what follows, so the end of the text is not told from something wrong
in its place. What is torn can always be continued: an escape by a backslash and the closing quote,
and an index by a zero.

An expression is its start, the segments after it and white space around them. The relations
without the white space in front are stated here as well, for the expression and for what is torn.

* `Tail`, `FromStart`: an expression after its start, and without white space before it.
* `Torn`: the torn texts.
* `Torn.starts`: each of them is the beginning of an expression.
-/

namespace TypedYaml

open Text

namespace PathGrammar

/-! ## The parts of an expression -/

/-- Segments after the start, and white space after them. -/
def Tail (cs : List Char) (p : Path) : Prop :=
  ∃ ds after, cs = ds ++ after ∧ Rests ds p ∧ Blanks after

theorem Tail.nil : Tail [] [] := ⟨[], [], rfl, .nil, List.forall_mem_nil _⟩

theorem Tail.cons {cs ds : List Char} {s : Segment} {p : Path} (hs : Rest cs s) (hp : Tail ds p) :
    Tail (cs ++ ds) (s :: p) := by
  obtain ⟨ds, after, rfl, hds, hafter⟩ := hp
  have hrests := Rests.cons (List.forall_mem_nil _) hs hds
  exact ⟨cs ++ ds, after, (List.append_assoc ..).symm, hrests, hafter⟩

theorem Tail.indent {blanks cs : List Char} {p : Path} (hblanks : Blanks blanks) (hp : Tail cs p) :
    Tail (blanks ++ cs) p := by
  obtain ⟨ds, after, rfl, hds, hafter⟩ := hp
  cases hds with
  | nil =>
    exact ⟨[], blanks ++ after, rfl, .nil, List.forall_mem_append.mpr ⟨hblanks, hafter⟩⟩
  | @cons before cs ds s p hbefore hs hp =>
    have hall := List.forall_mem_append.mpr ⟨hblanks, hbefore⟩
    exact ⟨blanks ++ before ++ cs ++ ds, after, by simp, .cons hall hs hp, hafter⟩

/-- An expression without white space before it. -/
inductive FromStart : List Char → Path → Prop
  | mk {cs ds : List Char} {p q : Path} : Start cs p → Tail ds q → FromStart (cs ++ ds) (p ++ q)

theorem FromStart.indent {blanks cs : List Char} {p : Path} (hblanks : Blanks blanks)
    (hp : FromStart cs p) : Expression (blanks ++ cs) p := by
  obtain ⟨hstart, ds, after, rfl, hrests, hafter⟩ := hp
  have hexpression := Expression.mk hblanks hstart hrests hafter
  simpa using hexpression

theorem Rests.append_tail {cs ds : List Char} {p q : Path} (hp : Rests cs p) (hq : Tail ds q) :
    Tail (cs ++ ds) (p ++ q) := by
  induction hp with
  | nil => exact hq
  | @cons blanks cs es s p hblanks hs _ ih =>
    have htail := (Tail.cons hs ih).indent hblanks
    simpa using htail

theorem Expression.append_tail {cs ds : List Char} {p q : Path} (hp : Expression cs p)
    (hq : Tail ds q) : Expression (cs ++ ds) (p ++ q) := by
  obtain ⟨hbefore, hstart, hrests, hafter⟩ := hp
  have htail := hrests.append_tail (hq.indent hafter)
  have hexpression := (FromStart.mk hstart htail).indent hbefore
  simpa using hexpression

/-! ## Torn texts -/

/-- The backslash of an escape comes last. -/
inductive TornKey (quote : Char) : List Char → Prop
  | mk {cs key : List Char} : Quoted quote cs key → TornKey quote (cs ++ ['\\'])

/-- The backslash of an escape or the sign of an index comes last. -/
inductive TornBody : List Char → Prop
  | key {quote : Char} {cs : List Char} : quote = '\'' ∨ quote = '"' → TornKey quote cs →
      TornBody (quote :: cs)
  | sign : TornBody ['-']

/-- A bracket whose body is torn. -/
inductive TornBracket : List Char → Prop
  | mk {blanks cs : List Char} : Blanks blanks → TornBody cs → TornBracket ('[' :: blanks ++ cs)

/-- The torn bracket comes first or after a whole expression. -/
inductive Torn : List Char → Prop
  | first {before cs : List Char} : Blanks before → TornBracket cs → Torn (before ++ cs)
  | later {before cs : List Char} {p : Path} : Expression before p → TornBracket cs →
      Torn (before ++ cs)

/-- A torn bracket after whole segments. -/
inductive TornTail : List Char → Prop
  | mk {ds es : List Char} {p : Path} : Tail ds p → TornBracket es → TornTail (ds ++ es)

theorem TornTail.cons {cs ds : List Char} {s : Segment} (hs : Rest cs s) (h : TornTail ds) :
    TornTail (cs ++ ds) := by
  obtain ⟨hp, htorn⟩ := h
  rw [← List.append_assoc]
  exact .mk (.cons hs hp) htorn

theorem TornTail.indent {blanks cs : List Char} (hblanks : Blanks blanks) (h : TornTail cs) :
    TornTail (blanks ++ cs) := by
  obtain ⟨hp, htorn⟩ := h
  rw [← List.append_assoc]
  exact .mk (hp.indent hblanks) htorn

/-- A torn text without the white space before it. -/
inductive TornFromStart : List Char → Prop
  | first {cs : List Char} : TornBracket cs → TornFromStart cs
  | later {cs ds : List Char} {p : Path} : Start cs p → TornTail ds → TornFromStart (cs ++ ds)

theorem TornFromStart.indent {blanks cs : List Char} (hblanks : Blanks blanks)
    (h : TornFromStart cs) : Torn (blanks ++ cs) := by
  obtain h | ⟨hstart, htail, h⟩ := h
  · exact .first hblanks h
  · have hexpression := (FromStart.mk hstart htail).indent hblanks
    have htorn := Torn.later hexpression h
    simpa using htorn

/-! ## Continuations -/

/-- Some text of the nonterminal starts with it. -/
def Starts {α : Type} (derives : List Char → α → Prop) (cs : List Char) : Prop :=
  ∃ more a, derives (cs ++ more) a

theorem Quoted.append {quote : Char} {cs ds key key' : List Char} (h : Quoted quote cs key)
    (h' : Quoted quote ds key') : Quoted quote (cs ++ ds) (key ++ key') := by
  induction h with
  | nil => exact h'
  | raw hc hslash _ ih => exact .raw hc hslash ih
  | escaped he _ ih => exact .escaped he ih

/-- An escape of a backslash and the quote complete a key, and a zero completes an index. -/
theorem TornBody.starts {cs : List Char} (h : TornBody cs) : Starts Body cs := by
  obtain @⟨quote, _, hquote, ⟨hkey⟩⟩ | _ := h
  · have hslash : Quoted quote ['\\', '\\'] ['\\'] := .escaped .backslash .nil
    have hbody := Body.key hquote (hkey.append hslash)
    exact ⟨['\\', quote], _, by simpa using hbody⟩
  · have hzero : Numeral ['-', '0'] 0 :=
      .minus (by simp) (by simp) (by simp [Nat.ofDigitChars_cons])
    exact ⟨['0'], .index 0, .index hzero⟩

theorem TornBracket.starts {cs : List Char} (h : TornBracket cs) : Starts Bracket cs := by
  obtain ⟨hblanks, hbody⟩ := h
  obtain ⟨more, s, hs⟩ := hbody.starts
  have hbracket := Bracket.mk hblanks hs (List.forall_mem_nil _)
  exact ⟨more ++ [']'], s, by simpa using hbracket⟩

theorem Torn.starts {cs : List Char} (h : Torn cs) : Starts Expression cs := by
  obtain ⟨hbefore, htorn⟩ | ⟨hbefore, htorn⟩ := h
  · obtain ⟨more, s, hs⟩ := htorn.starts
    have hexpression := (FromStart.mk (.bracket hs) .nil).indent hbefore
    exact ⟨more, _, by simpa using hexpression⟩
  · obtain ⟨more, s, hs⟩ := htorn.starts
    have hexpression := hbefore.append_tail (.cons (.bracket hs) .nil)
    exact ⟨more, _, by simpa using hexpression⟩

end PathGrammar

end TypedYaml
