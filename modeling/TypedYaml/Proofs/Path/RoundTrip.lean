import TypedYaml.Path.Parser
import TypedYaml.Proofs.Text.Integer
import TypedYaml.Proofs.Text.Whitespace
import Mathlib.Data.Set.Operations

/-!
# Written paths read back

Every path but the root is read back from its written form, whatever characters its keys hold and
whatever indices it has. The root is written as the empty text, which is no expression.

The written form is read piece by piece. A piece ends where the next one starts or the text ends:
the pieces after the first start with a dot or a bracket (`charsAfter_head`), neither of which
belongs to a name, and the closing bracket ends the other pieces. So one step of the reader takes
exactly one piece (`step_chars`), and the whole text is read by induction on the path.

* `quoted_escape`: an escaped key reads as the key.
* `step_chars`, `steps_charsAfter`: one segment after the first, and all of them.
* `parse_display`: the round trip, and that no two paths look the same.
-/

namespace TypedYaml

open Text PathParser

/-! ## Name characters -/

/-- The code points of the white space. -/
def whitespaceCodes : List Nat :=
  [0x9, 0xA, 0xB, 0xC, 0xD, 0x20, 0x85, 0xA0, 0x1680, 0x2000, 0x2001, 0x2002, 0x2003, 0x2004,
    0x2005, 0x2006, 0x2007, 0x2008, 0x2009, 0x200A, 0x2028, 0x2029, 0x202F, 0x205F, 0x3000]

theorem toNat_mem_of_isWhitespace {c : Char} (h : isWhitespace c) :
    c.toNat ∈ whitespaceCodes := by
  simp only [isWhitespace, Bool.or_eq_true, Bool.and_eq_true, beq_iff_eq, decide_eq_true_eq] at h
  simp only [whitespaceCodes, List.mem_cons, List.not_mem_nil, or_false]
  omega

theorem isNameChar_whitespaceCodes :
    ∀ n ∈ whitespaceCodes, isNameChar (Char.ofNat n) = false := by
  decide +kernel

theorem isWhitespace_of_isNameChar {c : Char} (h : isNameChar c) : isWhitespace c = false := by
  by_contra hw
  have hn := isNameChar_whitespaceCodes _ (toNat_mem_of_isWhitespace (Bool.of_not_eq_false hw))
  rw [Char.ofNat_toNat, h] at hn
  cases hn

/-! ## Where the pieces of a written path end -/

namespace PathParser

/-- A name cannot go on at the end of the text, at a dot or at an opening bracket. -/
def EndsName (cs : List Char) : Prop := cs = [] ∨ ∃ c rest, cs = c :: rest ∧ (c = '.' ∨ c = '[')

theorem EndsName.head {cs : List Char} (h : EndsName cs) :
    ∀ c ∈ cs.head?, isNameChar c = false := by
  rcases h with rfl | ⟨c, rest, rfl, hc⟩
  · nofun
  · rintro _ ⟨⟩
    rcases hc with rfl | rfl <;> decide

/-- The longest run ends where the first character does not belong to it. -/
theorem takeWhile_append_head {α : Type} {p : α → Bool} {as rest : List α} (h : ∀ a ∈ as, p a)
    (hr : ∀ a ∈ rest.head?, p a = false) :
    (as ++ rest).takeWhile p = as ∧ (as ++ rest).dropWhile p = rest := by
  rw [List.takeWhile_append_of_pos h, List.dropWhile_append_of_pos h]
  cases rest with
  | nil => simp
  | cons a rest => simp [hr a rfl]

theorem identifier_name {name rest : List Char} (hn : isName name)
    (hr : ∀ c ∈ rest.head?, isNameChar c = false) :
    identifier (name ++ rest) = .ok (String.ofList name, rest) := by
  simp only [isName, Bool.and_eq_true, Bool.not_eq_true', List.isEmpty_eq_false_iff] at hn
  obtain ⟨htake, hdrop⟩ := takeWhile_append_head (List.all_eq_true.mp hn.2) hr
  rw [identifier, htake, hdrop]
  cases name with
  | nil => exact absurd rfl hn.1
  | cons c name => rfl

end PathParser

theorem charsAfter_head (p : Path) : EndsName p.charsAfter := by
  cases p with
  | nil => exact Or.inl rfl
  | cons s p =>
    refine Or.inr ?_
    cases s with
    | key name =>
      by_cases hn : isName name.toList
      · exact ⟨'.', _, by simp [Path.charsAfter, Segment.isBare, hn]; rfl, Or.inl rfl⟩
      · exact ⟨'[', _, by simp [Path.charsAfter, Segment.isBare, Segment.chars, hn]; rfl,
          Or.inr rfl⟩
    | index i => exact ⟨'[', _, rfl, Or.inr rfl⟩
    | wildcard => exact ⟨'[', _, rfl, Or.inr rfl⟩

/-! ## The pieces -/

namespace PathParser

theorem quoted_close (q : Char) (cs : List Char) : quoted q (q :: cs) = .ok ([], cs) := by
  rw [quoted.eq_def]
  simp

theorem quoted_raw {q c : Char} (hq : c ≠ q) (hb : c ≠ '\\') (cs : List Char) :
    quoted q (c :: cs) = (quoted q cs).map fun (key, rest) => (c :: key, rest) := by
  rw [quoted.eq_def]
  simp only [if_neg hq, if_neg hb]

theorem quoted_escaped {q e c : Char} (hq : '\\' ≠ q) (he : unescape? e = some c)
    (cs : List Char) :
    quoted q ('\\' :: e :: cs) = (quoted q cs).map fun (key, rest) => (c :: key, rest) := by
  rw [quoted.eq_def]
  simp only [if_neg hq, if_true, he]

/-- Backslashes and the closing quote are escaped, all else is read as it stands. -/
theorem quoted_escape (key rest : List Char) :
    quoted '\'' (key.flatMap escapeChar ++ '\'' :: rest) = .ok (key, rest) := by
  induction key with
  | nil => exact quoted_close '\'' rest
  | cons c key ih =>
    rw [List.flatMap_cons, List.append_assoc, escapeChar]
    split
    · next hc =>
      have he : unescape? c = some c := by rcases hc with rfl | rfl <;> rfl
      rw [List.cons_append, List.cons_append, List.nil_append, quoted_escaped (by decide) he, ih]
      rfl
    · next hc =>
      rw [not_or] at hc
      rw [List.cons_append, List.nil_append, quoted_raw hc.2 hc.1, ih]
      rfl

/-- The sign and the digits of an index end at the first character that is no digit. -/
theorem splitNumber_digits {ds rest : List Char} (h : ∀ d ∈ ds, d.isDigit)
    (hr : ∀ c ∈ rest.head?, PathParser.isDigit c = false) (hne : ds ≠ []) :
    splitNumber (ds ++ rest) = (ds, rest) ∧
      splitNumber ('-' :: ds ++ rest) = ('-' :: ds, rest) := by
  have hall : ∀ d ∈ ds, PathParser.isDigit d := h
  obtain ⟨htake, hdrop⟩ := takeWhile_append_head hall hr
  constructor
  · unfold splitNumber
    split
    · next heq =>
      obtain ⟨d, ds, rfl⟩ := List.exists_cons_of_ne_nil hne
      cases heq
      exact absurd (h '-' List.mem_cons_self) (by decide)
    · rw [htake, hdrop]
  · rw [List.cons_append, splitNumber, htake, hdrop]

theorem splitNumber_ofInt (i : Int) (rest : List Char) :
    splitNumber (ofInt i ++ ']' :: rest) = (ofInt i, ']' :: rest) := by
  have hbracket : ∀ c ∈ (']' :: rest).head?, PathParser.isDigit c = false := by
    rintro c ⟨⟩
    decide
  obtain ⟨hplain, hminus⟩ := splitNumber_digits (isDigit_toDigits _) hbracket Nat.toDigits_ne_nil
  rcases ofInt_eq i with ⟨-, hi⟩ | ⟨-, hi⟩
  · rw [hi, hplain]
  · rw [hi, hminus]

theorem index_ofInt (i : Int64) (rest : List Char) :
    index (ofInt i.toInt ++ ']' :: rest) = .ok (i, ']' :: rest) := by
  rw [index, splitNumber_ofInt, int64?_ofInt]

/-- The written form of an integer starts like one. -/
theorem exists_ofInt_cons (i : Int) :
    ∃ c cs, ofInt i = c :: cs ∧ (c = '-' ∨ PathParser.isDigit c) := by
  rcases ofInt_eq i with ⟨-, hi⟩ | ⟨-, hi⟩
  · cases hcs : Nat.toDigits 10 i.natAbs with
    | nil => exact absurd hcs Nat.toDigits_ne_nil
    | cons c cs =>
      refine ⟨c, cs, hi.trans hcs, Or.inr ?_⟩
      exact isDigit_toDigits _ c (hcs ▸ List.mem_cons_self)
  · exact ⟨'-', _, hi, Or.inl rfl⟩

theorem skipBlanks_cons {c : Char} {cs : List Char} (h : isWhitespace c = false) :
    skipBlanks (c :: cs) = c :: cs := by
  rw [skipBlanks, List.dropWhile_cons, h]
  rfl

theorem char_bracket (rest : List Char) : char ']' (']' :: rest) = .ok rest := by
  rw [char, skipBlanks_cons (by decide)]
  rfl

/-- Inside brackets nothing precedes the segment, and the closing bracket follows it. -/
theorem bracket_of_body {c : Char} {cs rest : List Char} {s : Segment}
    (hc : isWhitespace c = false) (hb : bracketBody (c :: cs) = .ok (s, ']' :: rest)) :
    bracket (c :: cs) = .ok (s, rest) := by
  rw [bracket, skipBlanks_cons hc, hb]
  simp [char_bracket, Except.map]

/-- A sign or a digit starts an index and nothing else that stands in brackets. -/
theorem bracketBody_index {c : Char} (cs : List Char) (hc : c = '-' ∨ PathParser.isDigit c) :
    isWhitespace c = false ∧
      bracketBody (c :: cs) = (index (c :: cs)).map fun (i, rest) => (.index i, rest) := by
  have hcode : c.toNat = 45 ∨ 48 ≤ c.toNat ∧ c.toNat ≤ 57 := by
    rcases hc with rfl | hc
    · exact Or.inl rfl
    · exact Or.inr (Char.isDigit_iff_toNat.mp hc)
  have hne : ∀ d : Char, d.toNat = 42 ∨ d.toNat = 39 ∨ d.toNat = 34 → c ≠ d := by
    rintro d hd rfl
    omega
  constructor
  · rcases hc with rfl | hc
    · rfl
    · exact isWhitespace_of_isDigit hc
  · have hquote : ¬ (c = '\'' ∨ c = '"') :=
      not_or.mpr ⟨hne _ (by decide), hne _ (by decide)⟩
    simp only [bracketBody, if_neg (hne '*' (by decide)), if_neg hquote, if_pos hc]

/-- A segment in brackets is read up to its closing bracket. -/
theorem bracket_chars {s : Segment} (hs : s.isBare = false) (rest : List Char) :
    ∃ cs, s.chars = '[' :: cs ∧ bracket (cs ++ rest) = .ok (s, rest) := by
  cases s with
  | key name =>
    have hname : isName name.toList = false := hs
    refine ⟨'\'' :: name.toList.flatMap escapeChar ++ ['\'', ']'],
      by simp [Segment.chars, hname], ?_⟩
    refine bracket_of_body (by decide) ?_
    simp [bracketBody, quoted_escape, Except.map]
  | index i =>
    obtain ⟨c, cs, hi, hc⟩ := exists_ofInt_cons i.toInt
    have hindex := index_ofInt i rest
    refine ⟨ofInt i.toInt ++ [']'], rfl, ?_⟩
    rw [List.append_assoc, List.singleton_append]
    rw [hi, List.cons_append] at hindex ⊢
    obtain ⟨hw, hbody⟩ := bracketBody_index (cs ++ ']' :: rest) hc
    refine bracket_of_body hw ?_
    rw [hbody, hindex]
    rfl
  | wildcard => exact ⟨['*', ']'], rfl, bracket_of_body (by decide) rfl⟩

theorem nameOrWildcard_of_ne {c : Char} {cs : List Char} (hc : c ≠ '*') :
    nameOrWildcard (c :: cs) =
      (identifier (c :: cs)).map fun (name, rest) => (.key name, rest) := by
  unfold nameOrWildcard
  split
  · next heq =>
    cases heq
    exact absurd rfl hc
  · rfl

theorem exists_name_cons {name : List Char} (hn : isName name) :
    ∃ c cs, name = c :: cs ∧ isNameChar c := by
  cases name with
  | nil => cases hn
  | cons c cs =>
    simp only [isName, List.all_cons, Bool.and_eq_true] at hn
    exact ⟨c, cs, rfl, hn.2.1⟩

/-- A bare key is read up to where its name ends. -/
theorem nameOrWildcard_name {name : String} {rest : List Char} (hn : isName name.toList)
    (hr : ∀ c ∈ rest.head?, isNameChar c = false) :
    nameOrWildcard (name.toList ++ rest) = .ok (.key name, rest) := by
  have hid := identifier_name hn hr
  obtain ⟨c, cs, hcs, hc⟩ := exists_name_cons hn
  have hstar : c ≠ '*' := by
    rintro rfl
    exact absurd hc (by decide)
  rw [String.ofList_toList, hcs, List.cons_append] at hid
  rw [hcs, List.cons_append, nameOrWildcard_of_ne hstar, hid]
  rfl

/-- One step of the reader takes one segment. -/
theorem step_chars (s : Segment) {rest : List Char} (hr : EndsName rest) :
    ∃ c cs, (if s.isBare then '.' :: s.chars else s.chars) ++ rest = c :: cs ∧
      isWhitespace c = false ∧ step (c :: cs) = .ok (s, rest) := by
  by_cases hs : s.isBare
  · cases s with
    | key name =>
      have hn : isName name.toList := hs
      obtain ⟨c, cs, hcs, hc⟩ := exists_name_cons hn
      have hread := nameOrWildcard_name hn hr.head
      refine ⟨'.', name.toList ++ rest, by simp [hs, Segment.chars, hn], by decide, ?_⟩
      rw [hcs, List.cons_append] at hread ⊢
      rw [step, skipBlanks_cons (isWhitespace_of_isNameChar hc), hread]
    | index i => cases hs
    | wildcard => cases hs
  · obtain ⟨cs, hcs, hread⟩ := bracket_chars (Bool.of_not_eq_true hs) rest
    exact ⟨'[', cs ++ rest, by simp [hs, hcs], by decide, hread⟩

/-! ## Whole paths -/

theorem steps_of_blank {cs : List Char} (h : skipBlanks cs = []) : steps cs = .ok [] := by
  rw [steps]
  split
  · rfl
  · next heq =>
    rw [h] at heq
    cases heq

theorem steps_of_step {cs cs' rest : List Char} {c : Char} {s : Segment}
    (hb : skipBlanks cs = c :: cs') (hs : step (c :: cs') = .ok (s, rest)) :
    steps cs = (steps rest).map (s :: ·) := by
  rw [steps]
  split
  · next heq =>
    rw [hb] at heq
    cases heq
  · next heq =>
    rw [hb] at heq
    cases heq
    split
    · next hstop =>
      rw [hs] at hstop
      cases hstop
    · next hok =>
      rw [hs] at hok
      cases hok
      rfl

theorem steps_charsAfter (p : Path) : steps p.charsAfter = .ok p := by
  induction p with
  | nil => exact steps_of_blank rfl
  | cons s p ih =>
    obtain ⟨c, cs, hcs, hw, hstep⟩ := step_chars s (charsAfter_head p)
    rw [Path.charsAfter, hcs, steps_of_step (skipBlanks_cons hw) hstep, ih]
    rfl

/-- The property form starts with a segment without a dot. -/
theorem expression_of_name {c : Char} {cs rest : List Char} {s : Segment}
    (hw : isWhitespace c = false) (hdollar : c ≠ '$') (hbracket : c ≠ '[')
    (hs : nameOrWildcard (c :: cs) = .ok (s, rest)) :
    expression (c :: cs) = (steps rest).map (s :: ·) := by
  rw [expression, skipBlanks_cons hw]
  split
  · next heq => cases heq
  · next heq =>
    cases heq
    exact absurd rfl hdollar
  · next heq =>
    cases heq
    exact absurd rfl hbracket
  · rw [hs]

theorem expression_chars (s : Segment) (p : Path) :
    expression (Path.chars (s :: p)) = .ok (s :: p) := by
  by_cases hs : s.isBare
  · cases s with
    | key name =>
      have hn : isName name.toList := hs
      obtain ⟨c, cs, hcs, hc⟩ := exists_name_cons hn
      have hread := nameOrWildcard_name hn (charsAfter_head p).head
      have hdollar : c ≠ '$' := by
        rintro rfl
        exact absurd hc (by decide)
      have hbracket : c ≠ '[' := by
        rintro rfl
        exact absurd hc (by decide)
      have hchars : Path.chars (.key name :: p) = name.toList ++ p.charsAfter := by
        simp [Path.chars, Segment.chars, hn]
      rw [hcs, List.cons_append] at hread
      rw [hchars, hcs, List.cons_append,
        expression_of_name (isWhitespace_of_isNameChar hc) hdollar hbracket hread,
        steps_charsAfter]
      rfl
    | index i => cases hs
    | wildcard => cases hs
  · have hfirst : Path.chars (s :: p) = Path.charsAfter (s :: p) := by
      simp [Path.chars, Path.charsAfter, hs]
    obtain ⟨cs, hcs, -⟩ := bracket_chars (Bool.of_not_eq_true hs) p.charsAfter
    have hread := steps_charsAfter (s :: p)
    rw [← hfirst, Path.chars, hcs, List.cons_append] at hread
    rw [Path.chars, hcs, List.cons_append, expression, skipBlanks_cons (by decide)]
    exact hread

end PathParser

/-- Each path but the root is read back from its written form. So two of them that look the same
are the same. -/
theorem parse_display :
    (∀ p : Path, p ≠ [] → Path.parse p.display = .ok p) ∧ Set.InjOn Path.display {p | p ≠ []} := by
  have hread : ∀ p : Path, p ≠ [] → Path.parse p.display = .ok p := by
    intro p hp
    obtain ⟨s, p, rfl⟩ := List.exists_cons_of_ne_nil hp
    rw [Path.parse, Path.display, String.toList_ofList, expression_chars]
    rfl
  refine ⟨hread, ?_⟩
  intro p hp q hq heq
  have hpq := hread p hp
  rw [heq, hread q hq] at hpq
  cases hpq
  rfl

/-- An empty key, a key of special characters, the least index and a letter beyond ASCII. -/
theorem parse_display_awkward :
    let p : Path := [.key "", .key "it's \\ a.b[*]$\n", .index Int64.minValue, .wildcard, .key "ö"]
    let q : Path := [.key "it's \\ a", .key "b", .wildcard]
    p ≠ [] ∧ Path.parse p.display = .ok p ∧ q ≠ [] ∧ p ≠ q ∧ p.display ≠ q.display := by
  intro p q
  have hp : p ≠ [] := List.cons_ne_nil _ _
  have hq : q ≠ [] := List.cons_ne_nil _ _
  have hpq : p ≠ q := by decide
  exact ⟨hp, parse_display.1 p hp, hq, hpq, fun heq => hpq (parse_display.2 hp hq heq)⟩

example : Path.parse (Path.display []) = .error (.unexpectedEnd .pathExpression) := rfl

end TypedYaml
