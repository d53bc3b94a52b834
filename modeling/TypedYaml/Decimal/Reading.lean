import TypedYaml.Decimal.Shortest

/-!
# Reading decimal fractions

A decimal fraction has an optional sign, digits with at most one point among or beside them, and
an optional exponent. The words for infinity and for what is no number are read in either case.

* `FloatText`: what such a text says.
* `FloatText.read?`: reading it.
* `FloatText.toFloat`: the nearest float.
-/

namespace TypedYaml

/-- What a text says, before it is rounded. -/
inductive FloatText where
  | nan
  | infinite (negative : Bool)
  | decimal (negative : Bool) (value : Decimal)

namespace FloatText

/-- Whether a character is a decimal digit. -/
def isDigit (c : Char) : Bool := '0' ≤ c && c ≤ '9'

/-- The sign of a text, and the text after it. -/
def splitSign : List Char → Bool × List Char
  | '-' :: cs => (true, cs)
  | '+' :: cs => (false, cs)
  | cs => (false, cs)

/-- The digits after the point, if there is one, and what follows. -/
def fraction : List Char → List Char × List Char
  | '.' :: cs => (cs.takeWhile isDigit, cs.dropWhile isDigit)
  | cs => ([], cs)

/-- An exponent that takes up the rest of the text; none stands for zero. -/
def exponent? : List Char → Option Int
  | [] => some 0
  | e :: cs =>
    let (negative, digits) := splitSign cs
    if (e = 'e' ∨ e = 'E') ∧ !digits.isEmpty ∧ digits.all isDigit then
      let n := Nat.ofDigitChars 10 digits 0
      some (if negative then -n else n)
    else none

/-- Digits with at most one point and an exponent. There has to be a digit before or after the
point. -/
def decimal? (cs : List Char) : Option Decimal := do
  let whole := cs.takeWhile isDigit
  let (part, rest) := fraction (cs.dropWhile isDigit)
  if whole.isEmpty ∧ part.isEmpty then none
  else
    let e ← exponent? rest
    some ⟨Nat.ofDigitChars 10 (whole ++ part) 0, e - part.length⟩

/-- What a text says as a number. There may be no white space around it. -/
def read? (cs : List Char) : Option FloatText :=
  let (negative, rest) := splitSign cs
  let word := rest.map Char.toLower
  if word = "nan".toList then some .nan
  else if word = "inf".toList ∨ word = "infinity".toList then some (.infinite negative)
  else (decimal? rest).map (.decimal negative)

/-- Beyond four hundred places a decimal is infinite or zero as a float. -/
def ofDecimal (d : Decimal) : Float :=
  let places := d.exponent + (Nat.toDigits 10 d.digits).length
  if d.digits = 0 ∨ places < -400 then 0
  else if 400 < places then 1 / 0
  else Float.ofScientific d.digits (d.exponent < 0) d.exponent.natAbs

/-- The nearest float. -/
def toFloat : FloatText → Float
  | .nan => 0 / 0
  | .infinite negative => if negative then -1 / 0 else 1 / 0
  | .decimal negative d => if negative then -ofDecimal d else ofDecimal d

end FloatText

/-- The float that a text stands for. -/
def float? (cs : List Char) : Option Float := (FloatText.read? cs).map FloatText.toFloat

end TypedYaml
