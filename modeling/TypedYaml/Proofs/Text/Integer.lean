import TypedYaml.Basic

/-!
# Written integers read back

The decimal form of a 64-bit integer, the least one included, is read as that integer. The sign is
not part of the digits, so both signs are reduced to the digits of a natural number, which
`Nat.toDigits` writes and `natOfDigits?` reads.

* `ofInt_eq`: the decimal form is an optional sign before digits.
* `int64?_ofInt`: reading is the inverse of writing.
* `int64?_eq_none`: no other characters are read.
* `exists_int64?_of_append`: a number has no more digits than fit.
-/

namespace TypedYaml.Text

theorem digitValue?_of_isDigit {c : Char} (h : c.isDigit) :
    digitValue? 10 c = some (c.toNat - '0'.toNat) := by
  obtain ⟨h0, h9⟩ := Char.isDigit_iff_toNat.mp h
  have hc : '0' ≤ c ∧ c ≤ '9' := ⟨h0, h9⟩
  have hlt : c.toNat - '0'.toNat < 10 := by
    simp only [Char.reduceToNat] at h9 ⊢
    omega
  simp only [digitValue?, hc, and_self, if_true, Option.filter_some, hlt, decide_true]

theorem foldlM_digitValue? {cs : List Char} (h : ∀ c ∈ cs, c.isDigit) (n : Nat) :
    cs.foldlM (fun n d => (digitValue? 10 d).map (10 * n + ·)) n =
      some (Nat.ofDigitChars 10 cs n) := by
  induction cs generalizing n with
  | nil => rfl
  | cons c cs ih =>
    rw [List.foldlM_cons, digitValue?_of_isDigit (h c List.mem_cons_self), Nat.ofDigitChars_cons]
    exact ih (fun d hd => h d (List.mem_cons_of_mem _ hd)) _

theorem natOfDigits?_of_isDigit {cs : List Char} (hne : cs ≠ []) (h : ∀ c ∈ cs, c.isDigit) :
    natOfDigits? 10 cs = some (Nat.ofDigitChars 10 cs 0) := by
  obtain ⟨c, cs, rfl⟩ := List.exists_cons_of_ne_nil hne
  exact foldlM_digitValue? h 0

theorem isDigit_toDigits (n : Nat) : ∀ c ∈ Nat.toDigits 10 n, c.isDigit :=
  fun _ hc => Nat.isDigit_of_mem_toDigits (by decide) (by decide) hc

theorem natOfDigits?_toDigits (n : Nat) : natOfDigits? 10 (Nat.toDigits 10 n) = some n := by
  rw [natOfDigits?_of_isDigit Nat.toDigits_ne_nil (isDigit_toDigits n),
    Nat.ofDigitChars_ten_toDigits]

theorem toInt64?_toInt (i : Int64) : toInt64? i.toInt = some i := by
  rw [toInt64?, if_pos ⟨Int64.minValue_le_toInt i, Int64.toInt_le i⟩, Int64.ofInt_toInt]

theorem toInt64?_eq_some {n : Int} {i : Int64} : toInt64? n = some i ↔ i.toInt = n := by
  constructor
  · intro h
    unfold toInt64? at h
    split at h
    · next hn =>
      cases h
      exact Int64.toInt_ofInt_of_le hn.1 (Int.lt_add_one_of_le hn.2)
    · cases h
  · rintro rfl
    exact toInt64?_toInt i

/-- The decimal form is that of the absolute value, after a minus sign if the number is
negative. -/
theorem ofInt_eq (i : Int) :
    (0 ≤ i ∧ ofInt i = Nat.toDigits 10 i.natAbs) ∨
      (i < 0 ∧ ofInt i = '-' :: Nat.toDigits 10 i.natAbs) := by
  cases i with
  | ofNat n => exact Or.inl ⟨Int.natCast_nonneg n, rfl⟩
  | negSucc n => exact Or.inr ⟨Int.negSucc_lt_zero n, rfl⟩

theorem ofInt_eq_cons {i : Int} {c : Char} {cs : List Char} (h : ofInt i = c :: cs) :
    (c.isDigit ∨ c = '-') ∧ ∀ d ∈ cs, d.isDigit := by
  have hdigits := isDigit_toDigits i.natAbs
  rcases ofInt_eq i with ⟨-, hi⟩ | ⟨-, hi⟩
  · rw [← hi, h, List.forall_mem_cons] at hdigits
    exact ⟨.inl hdigits.1, hdigits.2⟩
  · obtain ⟨rfl, rfl⟩ := List.cons.inj (h.symm.trans hi)
    exact ⟨.inr rfl, hdigits⟩

/-- Digits without a sign are read as they stand. -/
theorem int64OfDigits?_of_isDigit {cs : List Char} (h : ∀ c ∈ cs, c.isDigit) :
    int64OfDigits? 10 cs = (natOfDigits? 10 cs).bind fun n => toInt64? n := by
  cases cs with
  | nil => rfl
  | cons c cs =>
    have hc := h c List.mem_cons_self
    unfold int64OfDigits?
    split
    · next heq => cases heq; simp at hc
    · next heq => cases heq; simp at hc
    · rfl

/-- The digits are there and denote a number that fits. -/
theorem bind_toInt64?_eq_some {cs : List Char} (h : ∀ c ∈ cs, c.isDigit) (f : Nat → Int)
    {i : Int64} : ((natOfDigits? 10 cs).bind fun n => toInt64? (f n)) = some i ↔
      cs ≠ [] ∧ i.toInt = f (Nat.ofDigitChars 10 cs 0) := by
  by_cases hne : cs = []
  · subst hne
    simp [natOfDigits?]
  · rw [natOfDigits?_of_isDigit hne h, Option.bind_some, toInt64?_eq_some]
    simp [hne]

theorem int64?_digits {cs : List Char} (h : ∀ c ∈ cs, c.isDigit) {i : Int64} :
    int64? cs = some i ↔ cs ≠ [] ∧ i.toInt = Nat.ofDigitChars 10 cs 0 := by
  rw [int64?, int64OfDigits?_of_isDigit h]
  exact bind_toInt64?_eq_some h _

theorem int64?_minus_digits {cs : List Char} (h : ∀ c ∈ cs, c.isDigit) {i : Int64} :
    int64? ('-' :: cs) = some i ↔ cs ≠ [] ∧ i.toInt = -(Nat.ofDigitChars 10 cs 0 : Int) :=
  bind_toInt64?_eq_some h _

theorem int64?_ofInt (i : Int64) : int64? (ofInt i.toInt) = some i := by
  rcases ofInt_eq i.toInt with ⟨hsign, hi⟩ | ⟨hsign, hi⟩
  · rw [int64?, hi, int64OfDigits?_of_isDigit (isDigit_toDigits _), natOfDigits?_toDigits,
      Option.bind_some, Int.natAbs_of_nonneg hsign, toInt64?_toInt]
  · have habs : -(i.toInt.natAbs : Int) = i.toInt := by omega
    rw [int64?, hi, int64OfDigits?, natOfDigits?_toDigits, Option.bind_some, habs, toInt64?_toInt]

/-- A text with a character that is neither a digit nor a sign is no number. -/
theorem natOfDigits?_eq_none {cs : List Char} {c : Char} (hc : c ∈ cs)
    (hdigit : digitValue? 10 c = none) : natOfDigits? 10 cs = none := by
  have hfold : ∀ n, cs.foldlM (fun n d => (digitValue? 10 d).map (10 * n + ·)) n = none := by
    induction cs with
    | nil => cases hc
    | cons d cs ih =>
      intro n
      rw [List.foldlM_cons]
      rcases List.mem_cons.mp hc with rfl | hc
      · rw [hdigit]
        rfl
      · cases digitValue? 10 d with
        | none => rfl
        | some v => exact ih hc _
  cases cs with
  | nil => rfl
  | cons d cs => exact hfold 0

theorem int64?_eq_none {cs : List Char} {c : Char} (hc : c ∈ cs) (hdigit : digitValue? 10 c = none)
    (hplus : c ≠ '+') (hminus : c ≠ '-') : int64? cs = none := by
  unfold int64? int64OfDigits?
  split
  · rw [natOfDigits?_eq_none (List.mem_of_ne_of_mem hplus hc) hdigit]
    rfl
  · rw [natOfDigits?_eq_none (List.mem_of_ne_of_mem hminus hc) hdigit]
    rfl
  · rw [natOfDigits?_eq_none hc hdigit]
    rfl

/-! ## Digits that are added -/

/-- A number that fits into 64 bits leaves room for those between it and zero. -/
theorem exists_toInt_eq {n : Int} {i : Int64} (h : i.toInt ≤ n ∧ n ≤ 0 ∨ 0 ≤ n ∧ n ≤ i.toInt) :
    ∃ j : Int64, j.toInt = n := by
  have hlow := Int64.le_toInt i
  have hhigh := Int64.toInt_lt i
  exact ⟨Int64.ofInt n, Int64.toInt_ofInt_of_le (by omega) (by omega)⟩

/-- Digits that are added make the number larger. -/
theorem ofDigitChars_le_append (cs ds : List Char) :
    Nat.ofDigitChars 10 cs 0 ≤ Nat.ofDigitChars 10 (cs ++ ds) 0 := by
  rw [Nat.ofDigitChars_append, Nat.ofDigitChars_eq_ofDigitChars_zero (l := ds)]
  have hpos : 0 < 10 ^ ds.length := Nat.pow_pos (by decide)
  exact Nat.le_add_right_of_le (Nat.le_mul_of_pos_left _ hpos)

/-- The digits of a number, taken from the front, are a number. -/
theorem exists_int64?_of_append {sign cs ds : List Char} {i : Int64}
    (hsign : sign = [] ∨ sign = ['-']) (hne : cs ≠ []) (hdigits : ∀ d ∈ cs ++ ds, d.isDigit)
    (h : int64? (sign ++ (cs ++ ds)) = some i) : ∃ j, int64? (sign ++ cs) = some j := by
  have hcs : ∀ d ∈ cs, d.isDigit := fun d hd => hdigits d (List.mem_append_left ds hd)
  have hle := ofDigitChars_le_append cs ds
  rcases hsign with rfl | rfl
  · obtain ⟨-, hi⟩ := (int64?_digits hdigits).mp h
    obtain ⟨j, hj⟩ := exists_toInt_eq (i := i) (n := Nat.ofDigitChars 10 cs 0) (by omega)
    exact ⟨j, (int64?_digits hcs).mpr ⟨hne, hj⟩⟩
  · obtain ⟨-, hi⟩ := (int64?_minus_digits hdigits).mp h
    obtain ⟨j, hj⟩ := exists_toInt_eq (i := i) (n := -(Nat.ofDigitChars 10 cs 0 : Int)) (by omega)
    exact ⟨j, (int64?_minus_digits hcs).mpr ⟨hne, hj⟩⟩

end TypedYaml.Text
