import Mathlib
import TypedYaml.Proofs.Path.RoundTrip

/-!
# The grammar of path expressions

The grammar says of a text which path it denotes, without saying how to find out. Each nonterminal
is a relation between a text and its meaning, and a text in a row of others is their concatenation.

Reading is sound for the grammar: what a reader takes from the front of a text is a text of its
nonterminal, with the meaning that it gives back (`Sound`). Reading is complete as well, although
the grammar does not say where a name or a number ends. A name is followed by white space, a dot, a
bracket or the end of the text, and a number by white space or a bracket. So the longest run of
name characters or digits is the only one that can be meant.

* `Expression`: the grammar.
* `steps_sound`, `steps_of_rests`: the segments after the start.
* `parse_eq_ok_iff_expression`: whole texts, each of which denotes at most one path.
-/

namespace TypedYaml

open Text PathParser

namespace PathGrammar

/-! ## The grammar -/

/-- Any white space, or none. -/
def Blanks (cs : List Char) : Prop := ∀ c ∈ cs, isWhitespace c

/-- A character after a backslash, and what the two stand for. -/
inductive Escape : Char → Char → Prop
  | newline : Escape 'n' '\n'
  | tab : Escape 't' '\t'
  | carriageReturn : Escape 'r' '\r'
  | backslash : Escape '\\' '\\'
  | singleQuote : Escape '\'' '\''
  | doubleQuote : Escape '"' '"'

/-- What stands between the quotes, and the key that it denotes. -/
inductive Quoted (quote : Char) : List Char → List Char → Prop
  | nil : Quoted quote [] []
  | raw {c : Char} {cs key : List Char} :
      c ≠ quote → c ≠ '\\' → Quoted quote cs key → Quoted quote (c :: cs) (c :: key)
  | escaped {e c : Char} {cs key : List Char} :
      Escape e c → Quoted quote cs key → Quoted quote ('\\' :: e :: cs) (c :: key)

/-- Decimal digits with the value of the index, which fits into 64 bits by being one. -/
inductive Numeral : List Char → Int64 → Prop
  | plain {ds : List Char} {i : Int64} : ds ≠ [] → (∀ d ∈ ds, d.isDigit) →
      i.toInt = Nat.ofDigitChars 10 ds 0 → Numeral ds i
  | minus {ds : List Char} {i : Int64} : ds ≠ [] → (∀ d ∈ ds, d.isDigit) →
      i.toInt = -(Nat.ofDigitChars 10 ds 0 : Int) → Numeral ('-' :: ds) i

/-- What stands between brackets. -/
inductive Body : List Char → Segment → Prop
  | wildcard : Body ['*'] .wildcard
  | key {quote : Char} {cs key : List Char} : quote = '\'' ∨ quote = '"' → Quoted quote cs key →
      Body (quote :: cs ++ [quote]) (.key (String.ofList key))
  | index {cs : List Char} {i : Int64} : Numeral cs i → Body cs (.index i)

/-- A segment in brackets. White space may stand on the inside of both. -/
inductive Bracket : List Char → Segment → Prop
  | mk {before cs after : List Char} {s : Segment} : Blanks before → Body cs s → Blanks after →
      Bracket ('[' :: before ++ cs ++ after ++ [']']) s

/-- A segment without brackets. -/
inductive NameOrWildcard : List Char → Segment → Prop
  | wildcard : NameOrWildcard ['*'] .wildcard
  | name {cs : List Char} : isName cs → NameOrWildcard cs (.key (String.ofList cs))

/-- A segment after the start. -/
inductive Rest : List Char → Segment → Prop
  | dot {blanks cs : List Char} {s : Segment} : Blanks blanks → NameOrWildcard cs s →
      Rest ('.' :: blanks ++ cs) s
  | bracket {cs : List Char} {s : Segment} : Bracket cs s → Rest cs s

/-- The segments after the start, each after any white space. -/
inductive Rests : List Char → Path → Prop
  | nil : Rests [] []
  | cons {blanks cs ds : List Char} {s : Segment} {p : Path} : Blanks blanks → Rest cs s →
      Rests ds p → Rests (blanks ++ cs ++ ds) (s :: p)

/-- The dollar sign or a first segment. -/
inductive Start : List Char → Path → Prop
  | root : Start ['$'] []
  | bare {cs : List Char} {s : Segment} : NameOrWildcard cs s → Start cs [s]
  | bracket {cs : List Char} {s : Segment} : Bracket cs s → Start cs [s]

/-- A whole expression. White space may stand around it. -/
inductive Expression : List Char → Path → Prop
  | mk {before cs ds after : List Char} {p q : Path} : Blanks before → Start cs p → Rests ds q →
      Blanks after → Expression (before ++ cs ++ ds ++ after) (p ++ q)

/-! ## Soundness -/

/-- What the reader takes from the front of a text is derived. -/
def Sound {α : Type} (read : List Char → Except Stop (α × List Char))
    (derives : List Char → α → Prop) : Prop :=
  ∀ cs a rest, read cs = .ok (a, rest) → ∃ ds, cs = ds ++ rest ∧ derives ds a

theorem exists_blanks (cs : List Char) : ∃ blanks, Blanks blanks ∧ cs = blanks ++ skipBlanks cs :=
  ⟨cs.takeWhile isWhitespace, List.all_eq_true.mp List.all_takeWhile,
    List.takeWhile_append_dropWhile.symm⟩

theorem char_sound {c : Char} {cs rest : List Char} (h : char c cs = .ok rest) :
    ∃ blanks, Blanks blanks ∧ cs = blanks ++ c :: rest := by
  obtain ⟨blanks, hblanks, hcs⟩ := exists_blanks cs
  unfold char at h
  split at h
  · cases h
  · next d ds hd =>
    split at h
    · next hdc =>
      cases h
      rw [hd, hdc] at hcs
      exact ⟨blanks, hblanks, hcs⟩
    · cases h

theorem escape_iff {e c : Char} : Escape e c ↔ unescape? e = some c := by
  constructor
  · rintro ⟨⟩ <;> rfl
  · intro h
    unfold unescape? at h
    split at h <;> cases h <;> constructor

theorem quoted_sound (quote : Char) :
    Sound (quoted quote) fun cs key => ∃ ds, cs = ds ++ [quote] ∧ Quoted quote ds key := by
  intro cs key rest h
  fun_induction quoted quote cs generalizing key rest with
  | case1 => cases h
  | case2 cs => cases h; exact ⟨[quote], rfl, [], rfl, .nil⟩
  | case3 => cases h
  | case4 => cases h
  | case5 e cs c he _ ih =>
    obtain ⟨⟨key, rest⟩, hread, ⟨⟩⟩ := exists_of_map_ok h
    obtain ⟨_, rfl, ds, rfl, hds⟩ := ih _ _ hread
    exact ⟨'\\' :: e :: (ds ++ [quote]), rfl, _, rfl, .escaped (escape_iff.mpr he) hds⟩
  | case6 c cs hquote hslash ih =>
    obtain ⟨⟨key, rest⟩, hread, ⟨⟩⟩ := exists_of_map_ok h
    obtain ⟨_, rfl, ds, rfl, hds⟩ := ih _ _ hread
    exact ⟨c :: (ds ++ [quote]), rfl, _, rfl, .raw hquote hslash hds⟩

theorem splitNumber_sound (cs : List Char) : cs = (splitNumber cs).1 ++ (splitNumber cs).2 ∧
    ∀ i, int64? (splitNumber cs).1 = some i → Numeral (splitNumber cs).1 i := by
  have hdigits : ∀ cs : List Char, ∀ d ∈ cs.takeWhile PathParser.isDigit, d.isDigit := fun _ =>
    List.all_eq_true.mp List.all_takeWhile
  unfold splitNumber
  split
  · refine ⟨by simp, fun i hi => ?_⟩
    obtain ⟨hne, hvalue⟩ := (int64?_minus_digits (hdigits _)).mp hi
    exact .minus hne (hdigits _) hvalue
  · refine ⟨by simp, fun i hi => ?_⟩
    obtain ⟨hne, hvalue⟩ := (int64?_digits (hdigits _)).mp hi
    exact .plain hne (hdigits _) hvalue

theorem index_sound : Sound index Numeral := by
  intro cs i rest h
  obtain ⟨hcs, hnumeral⟩ := splitNumber_sound cs
  unfold index at h
  split at h
  · next i hi =>
    cases h
    exact ⟨_, hcs, hnumeral i hi⟩
  · cases h

theorem bracketBody_sound : Sound bracketBody Body := by
  intro cs s rest h
  unfold bracketBody at h
  split at h
  · cases h
  · next c cs =>
    split at h
    · next hc =>
      cases h
      exact ⟨['*'], by rw [hc]; rfl, .wildcard⟩
    · split at h
      · next hc =>
        obtain ⟨⟨key, rest⟩, hread, ⟨⟩⟩ := exists_of_map_ok h
        obtain ⟨_, rfl, ds, rfl, hds⟩ := quoted_sound c _ _ _ hread
        exact ⟨c :: ds ++ [c], by simp, .key hc hds⟩
      · split at h
        · obtain ⟨⟨i, rest⟩, hread, ⟨⟩⟩ := exists_of_map_ok h
          obtain ⟨ds, hds, hnumeral⟩ := index_sound _ _ _ hread
          exact ⟨ds, hds, .index hnumeral⟩
        · cases h

theorem bracket_sound : Sound bracket fun cs s => Bracket ('[' :: cs) s := by
  intro cs s rest h
  obtain ⟨before, hbefore, hcs⟩ := exists_blanks cs
  unfold bracket at h
  split at h
  · cases h
  · next hread =>
    obtain ⟨_, hclose, ⟨⟩⟩ := exists_of_map_ok h
    obtain ⟨body, hbody, hderives⟩ := bracketBody_sound _ _ _ hread
    obtain ⟨after, hafter, rfl⟩ := char_sound hclose
    refine ⟨before ++ body ++ after ++ [']'], ?_, .mk hbefore hderives hafter⟩
    rw [hcs, hbody]
    simp

theorem identifier_sound : Sound identifier fun cs name => isName cs ∧ name = String.ofList cs := by
  intro cs name rest h
  unfold identifier at h
  split at h
  · cases h
  · next hne =>
    cases h
    have hname : cs.takeWhile isNameChar ≠ [] := hne
    exact ⟨_, List.takeWhile_append_dropWhile.symm, by simp [isName, hname], rfl⟩

theorem nameOrWildcard_sound : Sound nameOrWildcard NameOrWildcard := by
  intro cs s rest h
  unfold nameOrWildcard at h
  split at h
  · cases h
    exact ⟨['*'], rfl, .wildcard⟩
  · obtain ⟨⟨name, rest⟩, hread, ⟨⟩⟩ := exists_of_map_ok h
    obtain ⟨ds, hds, hname, rfl⟩ := identifier_sound _ _ _ hread
    exact ⟨ds, hds, .name hname⟩

theorem step_sound : Sound step Rest := by
  intro cs s rest h
  unfold step at h
  split at h
  · next cs =>
    obtain ⟨blanks, hblanks, hcs⟩ := exists_blanks cs
    obtain ⟨ds, hds, hderives⟩ := nameOrWildcard_sound _ _ _ h
    refine ⟨'.' :: blanks ++ ds, ?_, .dot hblanks hderives⟩
    rw [hcs, hds]
    simp
  · obtain ⟨ds, rfl, hderives⟩ := bracket_sound _ _ _ h
    exact ⟨'[' :: ds, rfl, .bracket hderives⟩
  · cases h

/-- Each step takes one segment, and white space is left at the end. -/
theorem steps_sound {cs : List Char} {p : Path} (h : steps cs = .ok p) :
    ∃ ds after, cs = ds ++ after ∧ Rests ds p ∧ Blanks after := by
  fun_induction steps cs generalizing p with
  | case1 cs hend =>
    cases h
    obtain ⟨blanks, hblanks, hcs⟩ := exists_blanks cs
    rw [hend, List.append_nil] at hcs
    exact ⟨[], cs, rfl, .nil, hcs ▸ hblanks⟩
  | case2 => cases h
  | case3 cs c cs' hcs' s rest hs _ ih =>
    obtain ⟨p, hp, rfl⟩ := exists_of_map_ok h
    obtain ⟨blanks, hblanks, hcs⟩ := exists_blanks cs
    obtain ⟨ds, hds, hstep⟩ := step_sound _ _ _ hs
    obtain ⟨es, after, rfl, hrests, hafter⟩ := ih hp
    refine ⟨blanks ++ ds ++ es, after, ?_, .cons hblanks hstep hrests, hafter⟩
    rw [hcs, hcs', hds]
    simp

/-- Before anything but white space there has to be a segment. -/
theorem steps_cons_eq_ok {c : Char} {cs : List Char} {p : Path} (hc : isWhitespace c = false)
    (h : steps (c :: cs) = .ok p) :
    ∃ s rest q, step (c :: cs) = .ok (s, rest) ∧ steps rest = .ok q ∧ p = s :: q := by
  rw [steps] at h
  split at h
  · next hend =>
    rw [skipBlanks_cons hc] at hend
    cases hend
  · next hcons =>
    rw [skipBlanks_cons hc] at hcons
    cases hcons
    split at h
    · cases h
    · next s rest hs =>
      obtain ⟨q, hq, rfl⟩ := exists_of_map_ok h
      exact ⟨s, rest, q, hs, hq, rfl⟩

/-- Without a dollar sign, the text starts with the first segment. -/
theorem expression_of_start {before cs rest : List Char} {s : Segment} {p : Path}
    (hbefore : Blanks before) (hstart : Start cs [s]) (hp : steps rest = .ok p) :
    Expression (before ++ (cs ++ rest)) (s :: p) := by
  obtain ⟨ds, after, rfl, hrests, hafter⟩ := steps_sound hp
  have hexpression := Expression.mk hbefore hstart hrests hafter
  simpa using hexpression

theorem expression_sound {cs : List Char} {p : Path} (h : expression cs = .ok p) :
    Expression cs p := by
  obtain ⟨before, hbefore, hcs⟩ := exists_blanks cs
  unfold expression at h
  split at h
  · cases h
  · next rest hrest =>
    obtain ⟨ds, after, rfl, hrests, hafter⟩ := steps_sound h
    have hexpression := Expression.mk hbefore .root hrests hafter
    rw [hcs, hrest]
    simpa using hexpression
  · next rest hrest =>
    -- the bracket is left to be read like those after the start
    obtain ⟨s, tail, p, hs, hp, rfl⟩ := steps_cons_eq_ok (by decide) h
    obtain ⟨ds, rfl, hbracket⟩ := bracket_sound _ _ _ hs
    rw [hcs, hrest]
    exact expression_of_start hbefore (.bracket hbracket) hp
  · split at h
    · cases h
    · next s tail hs =>
      obtain ⟨p, hp, rfl⟩ := exists_of_map_ok h
      obtain ⟨ds, hds, hbare⟩ := nameOrWildcard_sound _ _ _ hs
      rw [hcs, hds]
      exact expression_of_start hbefore (.bare hbare) hp

/-! ## Completeness -/

theorem skipBlanks_append {blanks cs : List Char} (hblanks : Blanks blanks)
    (hcs : ∀ c ∈ cs.head?, isWhitespace c = false) : skipBlanks (blanks ++ cs) = cs :=
  (takeWhile_append_head hblanks hcs).2

/-- The first character of two texts in a row belongs to the second if the first is empty. -/
theorem head_append {P : Char → Prop} {cs ds : List Char} (hcs : ∀ c ∈ cs, P c)
    (hds : ∀ d ∈ ds.head?, P d) : ∀ c ∈ (cs ++ ds).head?, P c := by
  cases cs with
  | nil => exact hds
  | cons c cs =>
    rintro _ ⟨⟩
    exact hcs c List.mem_cons_self

theorem isNameChar_of_isWhitespace {c : Char} (h : isWhitespace c) : isNameChar c = false := by
  by_contra hname
  rw [isWhitespace_of_isNameChar (Bool.of_not_eq_false hname)] at h
  cases h

theorem isDigit_of_isWhitespace {c : Char} (h : isWhitespace c) :
    PathParser.isDigit c = false := by
  by_contra hdigit
  rw [isWhitespace_of_isDigit (Bool.of_not_eq_false hdigit)] at h
  cases h

theorem quoted_of_derives {quote : Char} {cs key : List Char} (hquote : '\\' ≠ quote)
    (h : Quoted quote cs key) (rest : List Char) :
    quoted quote (cs ++ quote :: rest) = .ok (key, rest) := by
  induction h with
  | nil => exact quoted_close quote rest
  | raw hc hslash _ ih =>
    rw [List.cons_append, quoted_raw hc hslash, ih]
    rfl
  | escaped he _ ih =>
    rw [List.cons_append, List.cons_append, quoted_escaped hquote (escape_iff.mp he), ih]
    rfl

theorem Numeral.exists_cons {cs : List Char} {i : Int64} (h : Numeral cs i) :
    ∃ c cs', cs = c :: cs' ∧ (c = '-' ∨ PathParser.isDigit c) := by
  cases h with
  | plain hne hdigits _ =>
    obtain ⟨d, ds, rfl⟩ := List.exists_cons_of_ne_nil hne
    exact ⟨d, ds, rfl, Or.inr (hdigits d List.mem_cons_self)⟩
  | minus _ _ _ => exact ⟨'-', _, rfl, Or.inl rfl⟩

theorem index_of_numeral {cs rest : List Char} {i : Int64} (h : Numeral cs i)
    (hr : ∀ c ∈ rest.head?, PathParser.isDigit c = false) :
    index (cs ++ rest) = .ok (i, rest) := by
  cases h with
  | plain hne hdigits hvalue =>
    rw [index, (splitNumber_digits hdigits hr hne).1, (int64?_digits hdigits).mpr ⟨hne, hvalue⟩]
  | minus hne hdigits hvalue =>
    rw [index, (splitNumber_digits hdigits hr hne).2,
      (int64?_minus_digits hdigits).mpr ⟨hne, hvalue⟩]

/-- After a number there is white space or a bracket, neither of which is a digit. -/
theorem bracketBody_of_body {cs after : List Char} {s : Segment} (h : Body cs s)
    (hafter : Blanks after) (rest : List Char) :
    ∃ c cs', cs = c :: cs' ∧ isWhitespace c = false ∧
      bracketBody (cs ++ (after ++ ']' :: rest)) = .ok (s, after ++ ']' :: rest) := by
  cases h with
  | wildcard => exact ⟨'*', [], rfl, by decide, rfl⟩
  | @key quote cs key hquote hkey =>
    have hread : quoted quote (cs ++ quote :: (after ++ ']' :: rest)) =
        .ok (key, after ++ ']' :: rest) := by
      refine quoted_of_derives ?_ hkey _
      rcases hquote with rfl | rfl <;> decide
    refine ⟨quote, cs ++ [quote], rfl, ?_, ?_⟩
    · rcases hquote with rfl | rfl <;> decide
    · have hstar : quote ≠ '*' := by rcases hquote with rfl | rfl <;> decide
      simp [bracketBody, hstar, hquote, hread, Except.map]
  | @index _ i hnumeral =>
    obtain ⟨c, cs', rfl, hc⟩ := hnumeral.exists_cons
    obtain ⟨hw, hbody⟩ := bracketBody_index (cs' ++ (after ++ ']' :: rest)) hc
    have hr : ∀ d ∈ (after ++ ']' :: rest).head?, PathParser.isDigit d = false := by
      refine head_append (fun d hd => isDigit_of_isWhitespace (hafter d hd)) ?_
      rintro _ ⟨⟩
      decide
    refine ⟨c, cs', rfl, hw, ?_⟩
    have hindex := index_of_numeral hnumeral hr
    rw [List.cons_append] at hindex ⊢
    rw [hbody, hindex]
    rfl

theorem char_of_blanks {blanks : List Char} {c : Char} (hblanks : Blanks blanks)
    (hc : isWhitespace c = false) (rest : List Char) :
    char c (blanks ++ c :: rest) = .ok rest := by
  have hhead : ∀ d ∈ (c :: rest).head?, isWhitespace d = false := by
    rintro _ ⟨⟩
    exact hc
  rw [char, skipBlanks_append hblanks hhead]
  simp

theorem bracket_of_derives {cs : List Char} {s : Segment} (h : Bracket cs s)
    (rest : List Char) : ∃ cs', cs = '[' :: cs' ∧ bracket (cs' ++ rest) = .ok (s, rest) := by
  obtain @⟨before, _, after, _, hbefore, hbody, hafter⟩ := h
  obtain ⟨c, cs, rfl, hw, hread⟩ := bracketBody_of_body hbody hafter rest
  refine ⟨before ++ (c :: cs) ++ after ++ [']'], rfl, ?_⟩
  have hassoc : before ++ (c :: cs) ++ after ++ [']'] ++ rest =
      before ++ (c :: cs ++ (after ++ ']' :: rest)) := by simp
  have hhead : ∀ d ∈ (c :: cs ++ (after ++ ']' :: rest)).head?, isWhitespace d = false := by
    rintro _ ⟨⟩
    exact hw
  rw [hassoc, bracket, skipBlanks_append hbefore hhead, hread]
  show (char ']' (after ++ ']' :: rest)).map _ = _
  rw [char_of_blanks hafter (by decide)]
  rfl

theorem nameOrWildcard_of_derives {cs rest : List Char} {s : Segment} (h : NameOrWildcard cs s)
    (hr : ∀ c ∈ rest.head?, isNameChar c = false) :
    ∃ c cs', cs = c :: cs' ∧ (c = '*' ∨ isNameChar c) ∧
      nameOrWildcard (cs ++ rest) = .ok (s, rest) := by
  cases h with
  | wildcard => exact ⟨'*', [], rfl, Or.inl rfl, rfl⟩
  | name hname =>
    obtain ⟨c, cs', hcs, hc⟩ := exists_name_cons hname
    rw [← String.toList_ofList (l := cs)] at hname
    have hread := nameOrWildcard_name hname hr
    rw [String.toList_ofList] at hread
    exact ⟨c, cs', hcs, Or.inr hc, hread⟩

theorem isWhitespace_of_start {c : Char} (h : c = '*' ∨ isNameChar c) :
    isWhitespace c = false := by
  rcases h with rfl | h
  · decide
  · exact isWhitespace_of_isNameChar h

theorem step_of_rest {cs rest : List Char} {s : Segment} (h : Rest cs s)
    (hr : ∀ c ∈ rest.head?, isNameChar c = false) :
    ∃ c cs', cs = c :: cs' ∧ (c = '.' ∨ c = '[') ∧ step (cs ++ rest) = .ok (s, rest) := by
  cases h with
  | @dot blanks cs _ hblanks hderives =>
    obtain ⟨c, cs, rfl, hc, hread⟩ := nameOrWildcard_of_derives hderives hr
    have hhead : ∀ d ∈ (c :: cs ++ rest).head?, isWhitespace d = false := by
      rintro _ ⟨⟩
      exact isWhitespace_of_start hc
    refine ⟨'.', _, rfl, Or.inl rfl, ?_⟩
    rw [List.cons_append, List.cons_append, List.append_assoc, step,
      skipBlanks_append hblanks hhead, hread]
  | bracket hbracket =>
    obtain ⟨cs, rfl, hread⟩ := bracket_of_derives hbracket rest
    exact ⟨'[', cs, rfl, Or.inr rfl, hread⟩

theorem rests_head {cs after : List Char} {p : Path} (h : Rests cs p) (hafter : Blanks after) :
    ∀ c ∈ (cs ++ after).head?, isNameChar c = false := by
  have hblank : ∀ {blanks : List Char}, Blanks blanks → ∀ c ∈ blanks, isNameChar c = false :=
    fun hblanks c hc => isNameChar_of_isWhitespace (hblanks c hc)
  cases h with
  | nil => exact fun c hc => hblank hafter c (List.mem_of_mem_head? hc)
  | cons hblanks hrest _ =>
    obtain ⟨c, cs, rfl, hc, -⟩ := @step_of_rest _ [] _ hrest nofun
    rw [List.append_assoc, List.append_assoc]
    -- without white space the first character is the dot or the bracket
    refine head_append (hblank hblanks) ?_
    rintro _ ⟨⟩
    rcases hc with rfl | rfl <;> decide

theorem steps_of_rests {cs after : List Char} {p : Path} (h : Rests cs p)
    (hafter : Blanks after) : steps (cs ++ after) = .ok p := by
  induction h with
  | nil => exact steps_of_blank (by simpa using @skipBlanks_append after [] hafter nofun)
  | @cons blanks cs ds s p hblanks hrest hrests ih =>
    obtain ⟨c, cs, rfl, hc, hread⟩ := step_of_rest hrest (rests_head hrests hafter)
    have hhead : ∀ d ∈ (c :: cs ++ (ds ++ after)).head?, isWhitespace d = false := by
      rintro _ ⟨⟩
      rcases hc with rfl | rfl <;> decide
    have hblanks := skipBlanks_append hblanks hhead
    rw [List.append_assoc, List.append_assoc, steps_of_step hblanks hread, ih]
    rfl

theorem expression_append {before : List Char} (hbefore : Blanks before) (cs : List Char) :
    expression (before ++ cs) = expression cs := by
  simp only [expression, skipBlanks, List.dropWhile_append_of_pos hbefore]

theorem expression_of_bare {cs rest : List Char} {s : Segment} (h : NameOrWildcard cs s)
    (hr : ∀ c ∈ rest.head?, isNameChar c = false) :
    expression (cs ++ rest) = (steps rest).map (s :: ·) := by
  obtain ⟨c, cs, rfl, hc, hread⟩ := nameOrWildcard_of_derives h hr
  refine expression_of_name (isWhitespace_of_start hc) ?_ ?_ hread
  · rintro rfl
    revert hc
    decide
  · rintro rfl
    revert hc
    decide

theorem expression_complete {cs : List Char} {p : Path} (h : Expression cs p) :
    expression cs = .ok p := by
  obtain @⟨before, cs, ds, after, _, p, hbefore, hstart, hrests, hafter⟩ := h
  have hsteps := steps_of_rests hrests hafter
  rw [List.append_assoc, List.append_assoc, expression_append hbefore]
  cases hstart with
  | root =>
    rw [List.singleton_append, expression, skipBlanks_cons (by decide)]
    exact hsteps
  | bare hbare =>
    rw [expression_of_bare hbare (rests_head hrests hafter), hsteps]
    rfl
  | @bracket _ s hbracket =>
    -- read as the first of the segments after an empty start
    have hfirst : Rests (cs ++ ds) (s :: p) :=
      @Rests.cons [] cs ds s p (List.forall_mem_nil _) (.bracket hbracket) hrests
    have hread := steps_of_rests hfirst hafter
    obtain ⟨cs, rfl, -⟩ := bracket_of_derives hbracket []
    rw [List.append_assoc, List.cons_append] at hread
    rw [List.cons_append, expression, skipBlanks_cons (by decide)]
    exact hread

end PathGrammar

/-! ## Whole texts -/

/-- Exactly the texts of the grammar are read, each as the only path that it denotes. -/
theorem parse_eq_ok_iff_expression (text : String) :
    (∀ p, Path.parse text = .ok p ↔ PathGrammar.Expression text.toList p) ∧
      ∀ p, Path.parse text = .ok p → ∃! q, PathGrammar.Expression text.toList q := by
  have hread : ∀ p, Path.parse text = .ok p ↔ PathGrammar.Expression text.toList p := by
    intro p
    have hparse : Path.parse text = .ok p ↔ expression text.toList = .ok p := by
      rw [Path.parse]
      cases expression text.toList <;> simp [Except.mapError]
    rw [hparse]
    exact ⟨PathGrammar.expression_sound, PathGrammar.expression_complete⟩
  refine ⟨hread, fun p hp => ⟨p, (hread p).mp hp, fun q hq => ?_⟩⟩
  have hpq := (hread q).mpr hq
  rw [hp] at hpq
  cases hpq
  rfl

/-- White space between tokens, leading zeros, an escape and a wildcard after a dot. -/
theorem parse_eq_ok_iff_expression_spread :
    let text := " $ . a [ -007 ]['it\\'s'].* "
    let p : Path := [.key "a", .index (-7), .key "it's", .wildcard]
    Path.parse text = .ok p ∧ PathGrammar.Expression text.toList p ∧
      ∃! q, PathGrammar.Expression text.toList q := by
  intro text p
  have hp : Path.parse text = .ok p := by cbv
  obtain ⟨hread, hunique⟩ := parse_eq_ok_iff_expression text
  exact ⟨hp, (hread p).mp hp, hunique p hp⟩

end TypedYaml
