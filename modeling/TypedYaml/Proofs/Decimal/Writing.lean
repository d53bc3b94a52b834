import TypedYaml.Decimal.Reading
import TypedYaml.Node
import TypedYaml.Proofs.Text.Integer
import TypedYaml.Proofs.Text.Whitespace

/-!
# Written numbers

After an optional sign a number is written as digits, as digits around a point, or as a word for
infinity or for what is no number. The first is an integer and the others are floats, so the
written form tells which of the two a number is: read as an integer a float fails at the point or
at a letter. Read as a float, all of them are numbers.

No white space is part of a written number, so nothing is trimmed off, and no comma either.

* `Magnitude`, `Written`: the forms of numbers, and what comes before them.
* `Number.written`: every number is written so.
* `Number.isSome_int64?`, `Number.isSome_read?`: reading a written number.
* `Number.plain_chars`: what is not part of it.
-/

namespace TypedYaml

/-! ## The forms of numbers -/

/-- The ways to write a number without its sign. The flag says that it is an integer. -/
inductive Magnitude : Bool → List Char → Prop
  | integer {cs : List Char} (hne : cs ≠ []) (hcs : ∀ c ∈ cs, c.isDigit) : Magnitude true cs
  | fraction {cs ds : List Char} (hne : cs ≠ []) (hcs : ∀ c ∈ cs, c.isDigit)
      (hds : ∀ d ∈ ds, d.isDigit) : Magnitude false (cs ++ '.' :: ds)
  | infinity : Magnitude false "inf".toList
  | nan : Magnitude false "NaN".toList

/-- A magnitude after at most a minus sign. -/
inductive Written : Bool → List Char → Prop
  | unsigned {integer : Bool} {cs : List Char} (h : Magnitude integer cs) : Written integer cs
  | minus {integer : Bool} {cs : List Char} (h : Magnitude integer cs) :
      Written integer ('-' :: cs)

theorem isDigit_append {cs ds : List Char} (hcs : ∀ c ∈ cs, c.isDigit) (hds : ∀ d ∈ ds, d.isDigit) :
    ∀ c ∈ cs ++ ds, c.isDigit :=
  fun c hc => (List.mem_append.mp hc).elim (hcs c) (hds c)

theorem isDigit_replicate_zero (n : Nat) : ∀ c ∈ List.replicate n '0', c.isDigit := by
  intro c hc
  rw [List.eq_of_mem_replicate hc]
  rfl

theorem isDigit_zero : ∀ c ∈ ['0'], c.isDigit := isDigit_replicate_zero 1

theorem Decimal.magnitude_chars (d : Decimal) : Magnitude false d.chars := by
  have hdigits := Text.isDigit_toDigits d.digits
  have hne : Nat.toDigits 10 d.digits ≠ [] := Nat.toDigits_ne_nil
  unfold Decimal.chars
  extract_lets ds places
  split
  · have hzeros := isDigit_append hdigits (isDigit_replicate_zero d.exponent.toNat)
    exact .fraction (List.append_ne_nil_of_left_ne_nil hne _) hzeros isDigit_zero
  · split
    · next hplaces =>
      have hwhole : ds.take (ds.length - places) ≠ [] := by
        rw [← List.length_pos_iff, List.length_take]
        omega
      exact .fraction hwhole (fun c hc => hdigits c (List.mem_of_mem_take hc))
        fun c hc => hdigits c (List.mem_of_mem_drop hc)
    · exact .fraction (List.cons_ne_nil '0' []) isDigit_zero
        (isDigit_append (isDigit_replicate_zero _) hdigits)

theorem Binary.magnitude_chars (b : Binary) : Magnitude false b.magnitudeChars := by
  unfold Binary.magnitudeChars
  split
  · exact .fraction Nat.toDigits_ne_nil (Text.isDigit_toDigits _) isDigit_zero
  · exact (b.shortest .up).magnitude_chars

theorem Number.written (n : Number) : Written n.isInt n.chars := by
  cases n with
  | int i =>
    have hdigits : Magnitude true (Nat.toDigits 10 i.toInt.natAbs) :=
      .integer Nat.toDigits_ne_nil (Text.isDigit_toDigits _)
    show Written true (Text.ofInt i.toInt)
    rcases Text.ofInt_eq i.toInt with ⟨-, hi⟩ | ⟨-, hi⟩
    · rw [hi]
      exact .unsigned hdigits
    · rw [hi]
      exact .minus hdigits
  | float f =>
    show Written false (floatChars f)
    unfold floatChars
    split
    · exact .unsigned .nan
    · split
      · exact .minus .infinity
      · exact .unsigned .infinity
    · next b _ =>
      split
      · exact .minus b.magnitude_chars
      · exact .unsigned b.magnitude_chars

/-! ## The characters of numbers -/

theorem plain_of_isDigit {c : Char} (h : c.isDigit) :
    Text.isWhitespace c = false ∧ c ≠ ',' ∧ c ≠ '-' ∧ c ≠ '+' := by
  refine ⟨Text.isWhitespace_of_isDigit h, ?_, ?_, ?_⟩
  all_goals rintro rfl; cases h

/-- None of the characters separates texts, and none is a sign. -/
theorem Magnitude.plain {integer : Bool} {cs : List Char} (h : Magnitude integer cs) :
    ∀ c ∈ cs, Text.isWhitespace c = false ∧ c ≠ ',' ∧ c ≠ '-' ∧ c ≠ '+' := by
  cases h with
  | integer _ hcs => exact fun c hc => plain_of_isDigit (hcs c hc)
  | fraction _ hcs hds =>
    intro c hc
    rcases List.mem_append.mp hc with hc | hc
    · exact plain_of_isDigit (hcs c hc)
    · rcases List.mem_cons.mp hc with rfl | hc
      · decide
      · exact plain_of_isDigit (hds c hc)
  | infinity | nan => simp [Text.isWhitespace]

theorem Written.plain {integer : Bool} {cs : List Char} (h : Written integer cs) :
    ∀ c ∈ cs, Text.isWhitespace c = false ∧ c ≠ ',' := by
  have hbody : ∀ {body}, Magnitude integer body →
      ∀ c ∈ body, Text.isWhitespace c = false ∧ c ≠ ',' :=
    fun h c hc => ⟨(h.plain c hc).1, (h.plain c hc).2.1⟩
  cases h with
  | unsigned h => exact hbody h
  | minus h => exact List.forall_mem_cons.mpr ⟨by decide, hbody h⟩

/-- At the point or at a letter it is seen that a float is no integer. -/
theorem Magnitude.exists_not_digit {cs : List Char} (h : Magnitude false cs) :
    ∃ c ∈ cs, Text.digitValue? 10 c = none ∧ c ≠ '+' ∧ c ≠ '-' := by
  cases h with
  | fraction => exact ⟨'.', by simp, rfl, by decide, by decide⟩
  | infinity => exact ⟨'i', by simp, rfl, by decide, by decide⟩
  | nan => exact ⟨'N', by simp, rfl, by decide, by decide⟩

theorem Written.int64?_eq_none {cs : List Char} (h : Written false cs) : Text.int64? cs = none := by
  cases h with
  | unsigned h =>
    obtain ⟨c, hc, hdigit, hplus, hminus⟩ := h.exists_not_digit
    exact Text.int64?_eq_none hc hdigit hplus hminus
  | minus h =>
    obtain ⟨c, hc, hdigit, hplus, hminus⟩ := h.exists_not_digit
    exact Text.int64?_eq_none (List.mem_cons_of_mem _ hc) hdigit hplus hminus

/-! ## Numbers that are read as floats -/

namespace FloatText

/-- Digits, with or without a point after them, and nothing else. -/
theorem isSome_decimal? {cs : List Char} (hwhole : cs.takeWhile isDigit ≠ [])
    (hrest : (fraction (cs.dropWhile isDigit)).2 = []) : (decimal? cs).isSome := by
  simp [decimal?, hwhole, hrest, exponent?]

theorem isSome_read? {cs rest : List Char} {negative : Bool}
    (hsign : splitSign cs = (negative, rest)) (h : (decimal? rest).isSome) : (read? cs).isSome := by
  unfold read?
  rw [hsign]
  dsimp only
  split
  · rfl
  · split
    · rfl
    · rwa [Option.isSome_map]

theorem splitSign_of_magnitude {integer : Bool} {cs : List Char} (h : Magnitude integer cs) :
    splitSign cs = (false, cs) := by
  unfold splitSign
  split
  · exact absurd rfl (h.plain '-' List.mem_cons_self).2.2.1
  · exact absurd rfl (h.plain '+' List.mem_cons_self).2.2.2
  · rfl

theorem isSome_decimal?_digits {cs : List Char} (hne : cs ≠ []) (hcs : ∀ c ∈ cs, c.isDigit) :
    (decimal? cs).isSome := by
  have hwhole : cs.takeWhile isDigit = cs := List.takeWhile_eq_self_iff.mpr hcs
  have hrest : cs.dropWhile isDigit = [] := List.dropWhile_eq_nil_iff.mpr hcs
  refine isSome_decimal? (by rwa [hwhole]) ?_
  rw [hrest, fraction]
  nofun

theorem isSome_decimal?_fraction {cs ds : List Char} (hne : cs ≠ []) (hcs : ∀ c ∈ cs, c.isDigit)
    (hds : ∀ d ∈ ds, d.isDigit) : (decimal? (cs ++ '.' :: ds)).isSome := by
  have hall : ∀ c ∈ cs, isDigit c := hcs
  have hwhole : (cs ++ '.' :: ds).takeWhile isDigit = cs := by
    rw [List.takeWhile_append_of_pos hall]
    exact List.append_nil cs
  have hrest : (cs ++ '.' :: ds).dropWhile isDigit = '.' :: ds :=
    List.dropWhile_append_of_pos hall
  refine isSome_decimal? (by rwa [hwhole]) ?_
  rw [hrest]
  exact List.dropWhile_eq_nil_iff.mpr hds

theorem isSome_read?_of_magnitude {integer : Bool} {cs body : List Char} {negative : Bool}
    (hsign : splitSign cs = (negative, body)) (h : Magnitude integer body) :
    (read? cs).isSome := by
  cases h with
  | integer hne hcs => exact isSome_read? hsign (isSome_decimal?_digits hne hcs)
  | fraction hne hcs hds => exact isSome_read? hsign (isSome_decimal?_fraction hne hcs hds)
  | infinity | nan => rw [read?, hsign]; rfl

end FloatText

theorem Written.isSome_read? {integer : Bool} {cs : List Char} (h : Written integer cs) :
    (FloatText.read? cs).isSome := by
  cases h with
  | unsigned h =>
    exact FloatText.isSome_read?_of_magnitude (FloatText.splitSign_of_magnitude h) h
  | minus h => exact FloatText.isSome_read?_of_magnitude rfl h

/-! ## Written numbers -/

namespace Number

theorem toList_text (n : Number) : n.text.toList = n.chars := String.toList_ofList

theorem isSome_read? (n : Number) : (FloatText.read? n.chars).isSome := n.written.isSome_read?

theorem isSome_int64? (n : Number) : (Text.int64? n.chars).isSome = n.isInt := by
  cases n with
  | int i => rw [chars, Text.int64?_ofInt]; rfl
  | float f => rw [(Number.float f).written.int64?_eq_none]; rfl

theorem plain_chars (n : Number) : ∀ c ∈ n.chars, Text.isWhitespace c = false ∧ c ≠ ',' :=
  n.written.plain

theorem trim_chars (n : Number) : Text.trim n.chars = n.chars :=
  Text.trim_eq_self fun c hc => (n.plain_chars c hc).1

end Number

end TypedYaml
