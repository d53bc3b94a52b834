import TypedYaml.Proofs.Path.Torn

/-!
# Readers that stop at once

A reader is prompt in a text if it takes no more of it than it has to. It has seen what it has
taken and the first character of what is left, and nothing beyond. Where it misses something, what
it has taken can be completed. Where it finds the text wrong, no continuation can mend it, unless
the text is torn, that is, breaks off within a token that is read as one.

Promptness is stated at one text at a time, since the readers of whole expressions are recursive in
what is left. It carries over from the parts of a reader to the reader.

* `Prompt`: the property, for a reader and its nonterminal.
* `Prompt.after`, `Prompt.skip`, `Prompt.andThen`: fixed characters, white space, and another
  reader in front.
-/

namespace TypedYaml

open PathParser Text

namespace PathGrammar

/-! ## Readers -/

/-- A reader gives what it found and what is left, or says where it stopped. -/
abbrev Reader (α : Type) := List Char → Except Stop (α × List Char)

namespace Reader

variable {α β : Type}

/-- The reader of what a function makes of the value. -/
def map (f : α → β) (read : Reader α) : Reader β := fun cs =>
  (read cs).map fun (a, rest) => (f a, rest)

/-- The reader after white space. -/
def skip (read : Reader α) : Reader α := fun cs => read (skipBlanks cs)

/-- Two readers in turn, the second of which may depend on what the first has found. -/
def andThen (read : Reader α) (next : α → Reader β) : Reader β := fun cs =>
  match read cs with
  | .error stop => .error stop
  | .ok (a, rest) => next a rest

end Reader

variable {α β : Type} {read : Reader α} {cs rest rest' : List Char}

/-- A reader that comes to an end with `rest` left has a value or says what it misses. -/
def left (rest : List Char) : Except Expected α → Except Stop (α × List Char)
  | .ok a => .ok (a, rest)
  | .error what => .error (.expected rest what)

/-- The reader has found the text wrong. -/
def Wrong (read : Reader α) (cs : List Char) : Prop :=
  ∃ reason, read cs = .error (.malformed reason)

theorem left_inj {o o' : Except Expected α} (h : left rest o = left rest' o') :
    rest = rest' ∧ o = o' := by
  cases o <;> cases o' <;> cases h <;> exact ⟨rfl, rfl⟩

theorem not_wrong_of_left {o : Except Expected α} (h : read cs = left rest o) : ¬ Wrong read cs := by
  rintro ⟨reason, hwrong⟩
  rw [h] at hwrong
  cases o <;> cases hwrong

theorem wrong_congr {read' : Reader α} {ds : List Char} (h : read cs = read' ds) :
    Wrong read cs ↔ Wrong read' ds := by
  rw [Wrong, Wrong, h]

theorem left_of_map {f : α → β} {o : Except Expected β} (h : read.map f cs = left rest o) :
    ∃ o', read cs = left rest o' ∧ o = o'.map f := by
  unfold Reader.map at h
  cases hread : read cs with
  | error stop =>
    rw [hread] at h
    cases o with
    | error what =>
      cases h
      exact ⟨.error what, rfl, rfl⟩
    | ok b => cases h
  | ok p =>
    rw [hread] at h
    cases o with
    | error what => cases h
    | ok b =>
      cases h
      exact ⟨.ok p.1, rfl, rfl⟩

theorem andThen_of_ok {next : α → Reader β} {a : α} (h : read cs = .ok (a, rest)) :
    read.andThen next cs = next a rest := by
  rw [Reader.andThen, h]

theorem andThen_of_error {next : α → Reader β} {stop : Stop} (h : read cs = .error stop) :
    read.andThen next cs = .error stop := by
  rw [Reader.andThen, h]

/-- The first of two readers misses something, or the second one takes over. -/
theorem left_of_andThen {next : α → Reader β} {o : Except Expected β}
    (h : read.andThen next cs = left rest o) :
    (∃ what, read cs = left rest (.error what) ∧ o = .error what) ∨
      ∃ a mid, read cs = .ok (a, mid) ∧ next a mid = left rest o := by
  unfold Reader.andThen at h
  split at h
  · next stop hread =>
    cases o with
    | error what =>
      cases h
      exact Or.inl ⟨what, hread, rfl⟩
    | ok b => cases h
  · next a mid hread => exact Or.inr ⟨a, mid, hread, h⟩

theorem wrong_map {f : α → β} : Wrong (read.map f) cs ↔ Wrong read cs := by
  simp only [Wrong, Reader.map]
  cases read cs <;> simp [Except.map]

theorem wrong_of_andThen {next : α → Reader β} (h : Wrong (read.andThen next) cs) :
    Wrong read cs ∨ ∃ a mid, read cs = .ok (a, mid) ∧ Wrong (next a) mid := by
  obtain ⟨reason, h⟩ := h
  unfold Reader.andThen at h
  split at h
  · next stop hread =>
    cases h
    exact Or.inl ⟨reason, hread⟩
  · next a mid hread => exact Or.inr ⟨a, mid, hread, reason, h⟩

/-! ## What is left to be read -/

theorem head?_append_left (used : List Char) (h : rest'.head? = rest.head?) :
    (used ++ rest').head? = (used ++ rest).head? := by
  rw [List.head?_append, List.head?_append, h]

theorem head?_append_right (h : cs ≠ []) (more : List Char) :
    (cs ++ more).head? = cs.head? :=
  List.head?_append_of_ne_nil cs h

theorem skipBlanks_head (cs : List Char) : ∀ c ∈ (skipBlanks cs).head?, isWhitespace c = false := by
  intro c hc
  have hhead := List.head?_dropWhile_not isWhitespace cs
  rw [skipBlanks] at hc
  rw [hc] at hhead
  simpa using hhead

theorem skipBlanks_skipBlanks (cs : List Char) : skipBlanks (skipBlanks cs) = skipBlanks cs :=
  List.dropWhile_idempotent _ cs

/-! ## Prompt readers -/

/-- A reader of what `derives` describes goes no further in a text than it has to, and knows at once
when the text is wrong. The condition `torn` describes where it does not. -/
structure Prompt (read : Reader α) (derives : List Char → α → Prop) (torn : List Char → Prop)
    (cs : List Char) : Prop where
  /-- What is left is an end of the text. -/
  suffix : ∀ {rest o}, read cs = left rest o → ∃ used, cs = used ++ rest
  /-- Of what is left, the reader has seen the first character only. -/
  steady : ∀ {used rest rest' o}, cs = used ++ rest → rest'.head? = rest.head? →
    read cs = left rest o → read (used ++ rest') = left rest' o
  /-- What is missing can be added. -/
  missing : ∀ {used rest what}, cs = used ++ rest → read cs = left rest (.error what) →
    Starts derives used
  /-- What is wrong stays wrong, unless the text is torn. -/
  wrong : Wrong read cs → torn cs ∨ ∀ more, Wrong read (cs ++ more)

namespace Prompt

variable {d : List Char → α → Prop} {d' : List Char → β → Prop} {torn torn' : List Char → Prop}

theorem of_left {used : List Char} {o : Except Expected α}
    (hread : ∀ rest', rest'.head? = rest.head? → read (used ++ rest') = left rest' o)
    (hmissing : ∀ what, o = .error what → Starts d used) : Prompt read d torn (used ++ rest) where
  suffix h := by
    obtain ⟨rfl, -⟩ := left_inj ((hread rest rfl).symm.trans h)
    exact ⟨used, rfl⟩
  steady hcs hrest h := by
    obtain ⟨rfl, rfl⟩ := left_inj ((hread rest rfl).symm.trans h)
    rw [← List.append_cancel_right hcs]
    exact hread _ hrest
  missing hcs h := by
    obtain ⟨rfl, rfl⟩ := left_inj ((hread rest rfl).symm.trans h)
    rw [← List.append_cancel_right hcs]
    exact hmissing _ rfl
  wrong h := absurd h (not_wrong_of_left (hread rest rfl))

theorem of_ok {used : List Char} {a : α}
    (hread : ∀ rest', rest'.head? = rest.head? → read (used ++ rest') = .ok (a, rest')) :
    Prompt read d torn (used ++ rest) := by
  refine of_left (o := .ok a) hread ?_
  rintro what ⟨⟩

/-- Some fixed characters are all that is taken. -/
theorem of_fixed {a : α} (us : List Char) (hread : ∀ ds, read (us ++ ds) = .ok (a, ds)) :
    Prompt read d torn (us ++ cs) :=
  of_ok fun rest' _ => hread rest'

/-- Nothing can be taken of the text, because of its first character. -/
theorem of_missing {what : Expected}
    (hread : ∀ ds, ds.head? = cs.head? → read ds = .error (.expected ds what))
    (h : Starts d []) : Prompt read d torn cs :=
  @of_left α read cs d torn [] (.error what) hread fun _ _ => h

theorem of_nil {what : Expected} (hread : read [] = .error (.expected [] what))
    (h : Starts d []) : Prompt read d torn [] := by
  have hempty : ∀ ds : List Char, ds.head? = none → read ds = .error (.expected ds what) := by
    intro ds hds
    rw [List.head?_eq_none_iff.mp hds]
    exact hread
  exact of_missing hempty h

theorem of_wrong (hread : Wrong read cs) (h : torn cs ∨ ∀ more, Wrong read (cs ++ more)) :
    Prompt read d torn cs where
  suffix hleft := absurd hread (not_wrong_of_left hleft)
  steady _ _ hleft := absurd hread (not_wrong_of_left hleft)
  missing _ hleft := absurd hread (not_wrong_of_left hleft)
  wrong _ := h

/-- Readers that do the same from the first character on are prompt alike. -/
theorem congr {read' : Reader α} {c : Char} (h : Prompt read' d torn (c :: cs))
    (hread : ∀ ds, read (c :: ds) = read' (c :: ds)) : Prompt read d torn (c :: cs) where
  suffix hleft := h.suffix ((hread cs).symm.trans hleft)
  steady := by
    intro used rest rest' o hcs hrest hleft
    have hstart := head?_append_left used hrest
    rw [← hcs, List.head?_cons] at hstart
    obtain ⟨ds, hds⟩ := List.head?_eq_some_iff.mp hstart
    have hsteady := h.steady hcs hrest ((hread cs).symm.trans hleft)
    rw [hds] at hsteady ⊢
    exact (hread ds).trans hsteady
  missing hcs hleft := h.missing hcs ((hread cs).symm.trans hleft)
  wrong hwrong := (h.wrong ((wrong_congr (hread cs)).mp hwrong)).imp_right fun hmore more =>
    (wrong_congr (hread (cs ++ more))).mpr (hmore more)

theorem mono {d' : List Char → α → Prop} (h : Prompt read d torn cs)
    (hd : ∀ {ds a}, d ds a → d' ds a) (ht : torn cs → torn' cs) : Prompt read d' torn' cs where
  suffix := h.suffix
  steady := h.steady
  missing hcs hleft := by
    obtain ⟨more, a, ha⟩ := h.missing hcs hleft
    exact ⟨more, a, hd ha⟩
  wrong hwrong := (h.wrong hwrong).imp_left ht

theorem map {f : α → β} (h : Prompt read d torn cs) (hd : ∀ {ds a}, d ds a → d' ds (f a))
    (ht : torn cs → torn' cs) : Prompt (read.map f) d' torn' cs where
  suffix hleft := by
    obtain ⟨o, hread, -⟩ := left_of_map hleft
    exact h.suffix hread
  steady := by
    intro used rest rest' o hcs hrest hleft
    obtain ⟨o, hread, rfl⟩ := left_of_map hleft
    rw [Reader.map, h.steady hcs hrest hread]
    cases o <;> rfl
  missing := by
    intro used rest what hcs hleft
    obtain ⟨_ | _, hread, ho⟩ := left_of_map hleft
    · obtain ⟨more, a, ha⟩ := h.missing hcs hread
      exact ⟨more, f a, hd ha⟩
    · cases ho
  wrong := by
    simp only [wrong_map]
    exact fun hwrong => (h.wrong hwrong).imp_left ht

/-- The reader starts by taking some fixed characters. -/
theorem after {next : Reader α} (us : List Char) (hread : ∀ ds, read (us ++ ds) = next ds)
    (h : Prompt next (fun ds => d (us ++ ds)) (fun ds => torn (us ++ ds)) cs) :
    Prompt read d torn (us ++ cs) := by
  have hused : ∀ {used rest o}, us ++ cs = used ++ rest → read (us ++ cs) = left rest o →
      ∃ vs, used = us ++ vs ∧ cs = vs ++ rest := by
    intro used rest o hcs hleft
    obtain ⟨vs, rfl⟩ := h.suffix ((hread cs).symm.trans hleft)
    rw [← List.append_assoc] at hcs
    exact ⟨vs, (List.append_cancel_right hcs).symm, rfl⟩
  constructor
  case suffix =>
    intro rest o hleft
    obtain ⟨vs, rfl⟩ := h.suffix ((hread cs).symm.trans hleft)
    exact ⟨us ++ vs, (List.append_assoc ..).symm⟩
  case steady =>
    intro used rest rest' o hcs hrest hleft
    obtain ⟨vs, rfl, hvs⟩ := hused hcs hleft
    rw [List.append_assoc, hread]
    exact h.steady hvs hrest ((hread cs).symm.trans hleft)
  case missing =>
    intro used rest what hcs hleft
    obtain ⟨vs, rfl, hvs⟩ := hused hcs hleft
    obtain ⟨more, a, ha⟩ := h.missing hvs ((hread cs).symm.trans hleft)
    exact ⟨more, a, by rwa [List.append_assoc]⟩
  case wrong =>
    intro hwrong
    refine (h.wrong ((wrong_congr (hread cs)).mp hwrong)).imp_right fun hmore more => ?_
    rw [List.append_assoc]
    exact (wrong_congr (hread (cs ++ more))).mpr (hmore more)

/-- White space in front of an empty text is not told from white space that follows it, so that
the reader must not find the empty text wrong. -/
theorem skip {d' : List Char → α → Prop} (h : Prompt read d torn' (skipBlanks cs))
    (hend : ¬ Wrong read []) (hd : ∀ {blanks ds a}, Blanks blanks → d ds a → d' (blanks ++ ds) a)
    (ht : ∀ {blanks ds}, Blanks blanks → torn' ds → torn (blanks ++ ds)) :
    Prompt read.skip d' torn cs := by
  obtain ⟨blanks, hblanks, hcs⟩ := exists_blanks cs
  have hused : ∀ {used rest o}, cs = used ++ rest → read.skip cs = left rest o →
      ∃ us, used = blanks ++ us ∧ skipBlanks cs = us ++ rest := by
    intro used rest o hsplit hleft
    obtain ⟨us, hus⟩ := h.suffix hleft
    rw [hus, hsplit, ← List.append_assoc] at hcs
    exact ⟨us, List.append_cancel_right hcs, hus⟩
  constructor
  case suffix =>
    intro rest o hleft
    obtain ⟨us, hus⟩ := h.suffix hleft
    exact ⟨blanks ++ us, by rw [List.append_assoc, ← hus, ← hcs]⟩
  case steady =>
    intro used rest rest' o hsplit hrest hleft
    obtain ⟨us, rfl, hus⟩ := hused hsplit hleft
    have hhead : ∀ c ∈ (us ++ rest').head?, isWhitespace c = false := by
      rw [head?_append_left us hrest, ← hus]
      exact skipBlanks_head cs
    rw [List.append_assoc, Reader.skip, skipBlanks_append hblanks hhead]
    exact h.steady hus hrest hleft
  case missing =>
    intro used rest what hsplit hleft
    obtain ⟨us, rfl, hus⟩ := hused hsplit hleft
    obtain ⟨more, a, ha⟩ := h.missing hus hleft
    exact ⟨more, a, by rw [List.append_assoc]; exact hd hblanks ha⟩
  case wrong =>
    intro hwrong
    have hne : skipBlanks cs ≠ [] := fun hnil =>
      hend ((wrong_congr (congrArg read hnil)).mp hwrong)
    refine (h.wrong hwrong).imp (fun htorn => hcs ▸ ht hblanks htorn) fun hmore more => ?_
    have hhead : ∀ c ∈ (skipBlanks cs ++ more).head?, isWhitespace c = false := by
      rw [head?_append_right hne more]
      exact skipBlanks_head cs
    have hskip : skipBlanks (cs ++ more) = skipBlanks cs ++ more := by
      conv => lhs; rw [hcs, List.append_assoc]
      exact skipBlanks_append hblanks hhead
    exact (wrong_congr (congrArg read hskip)).mpr (hmore more)

/-- At the end of the text the second reader must not find anything wrong, for the first one might
have taken more of a longer text. -/
theorem andThen {next : α → Reader β} {d₂ : α → List Char → β → Prop}
    {torn₁ : List Char → Prop} {torn₂ : α → List Char → Prop}
    (hsound : Sound read d) (h₁ : Prompt read d torn₁ cs)
    (h₂ : ∀ a rest, read cs = .ok (a, rest) → Prompt (next a) (d₂ a) (torn₂ a) rest)
    (hnext : ∀ a, Starts (d₂ a) []) (hend : ∀ a, ¬ Wrong (next a) [])
    (hd : ∀ {ds es a b}, d ds a → d₂ a es b → d' (ds ++ es) b) (ht₁ : torn₁ cs → torn cs)
    (ht₂ : ∀ {ds es a}, d ds a → torn₂ a es → torn (ds ++ es)) :
    Prompt (read.andThen next) d' torn cs := by
  have hused : ∀ {used rest o a mid}, cs = used ++ rest → read cs = .ok (a, mid) →
      next a mid = left rest o →
      ∃ ds es, used = ds ++ es ∧ cs = ds ++ mid ∧ mid = es ++ rest ∧ d ds a := by
    intro used rest o a mid hcs hread hmid
    obtain ⟨ds, rfl, hds⟩ := hsound _ _ _ hread
    obtain ⟨es, rfl⟩ := (h₂ a mid hread).suffix hmid
    rw [← List.append_assoc] at hcs
    exact ⟨ds, es, (List.append_cancel_right hcs).symm, rfl, rfl, hds⟩
  constructor
  case suffix =>
    intro rest o hleft
    rcases left_of_andThen hleft with ⟨what, hread, rfl⟩ | ⟨a, mid, hread, hmid⟩
    · exact h₁.suffix hread
    · obtain ⟨ds, rfl, -⟩ := hsound _ _ _ hread
      obtain ⟨es, rfl⟩ := (h₂ a mid hread).suffix hmid
      exact ⟨ds ++ es, (List.append_assoc ..).symm⟩
  case steady =>
    intro used rest rest' o hcs hrest hleft
    rcases left_of_andThen hleft with ⟨what, hread, rfl⟩ | ⟨a, mid, hread, hmid⟩
    · exact andThen_of_error (h₁.steady hcs hrest hread)
    · obtain ⟨ds, es, rfl, hsplit, rfl, -⟩ := hused hcs hread hmid
      have hfirst := h₁.steady hsplit (head?_append_left es hrest) (o := .ok a) hread
      rw [List.append_assoc, andThen_of_ok hfirst]
      exact (h₂ a _ hread).steady rfl hrest hmid
  case missing =>
    intro used rest what hcs hleft
    rcases left_of_andThen hleft with ⟨what, hread, -⟩ | ⟨a, mid, hread, hmid⟩
    · obtain ⟨more, a, ha⟩ := h₁.missing hcs hread
      obtain ⟨more', b, hb⟩ := hnext a
      exact ⟨more ++ more', b, by rw [← List.append_assoc]; exact hd ha hb⟩
    · obtain ⟨ds, es, rfl, -, rfl, hds⟩ := hused hcs hread hmid
      obtain ⟨more, b, hb⟩ := (h₂ a _ hread).missing rfl hmid
      exact ⟨more, b, by rw [List.append_assoc]; exact hd hds hb⟩
  case wrong =>
    intro hwrong
    rcases wrong_of_andThen hwrong with hfirst | ⟨a, mid, hread, hsecond⟩
    · refine (h₁.wrong hfirst).imp ht₁ fun hmore more => ?_
      obtain ⟨reason, hreason⟩ := hmore more
      exact ⟨reason, andThen_of_error hreason⟩
    · obtain ⟨ds, rfl, hds⟩ := hsound _ _ _ hread
      have hne : mid ≠ [] := by
        rintro rfl
        exact hend a hsecond
      refine ((h₂ a mid hread).wrong hsecond).imp (ht₂ hds) fun hmore more => ?_
      have hfirst := h₁.steady rfl (head?_append_right hne more) (o := .ok a) hread
      rw [List.append_assoc]
      exact (wrong_congr (andThen_of_ok hfirst)).mpr (hmore more)

end Prompt

end PathGrammar

end TypedYaml
