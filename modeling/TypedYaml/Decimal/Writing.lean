import TypedYaml.Decimal.Shortest

/-!
# Written floats

Numbers of documents are written without an exponent: a whole number with all its digits and one
zero after the point, another finite number as the shortest decimal that reads back. Of two such
decimals that are equally near, the greater one is written.

The printer of documents saves characters. It writes the shortest decimal without an exponent if it
has at most sixteen places before the point and at most four zeros after it; a whole number then
ends with one zero after the point. Other floats have one digit before the point and an exponent.
Of two decimals that are equally near it writes the even one.

* `Decimal.chars`, `floatChars`: a decimal and a float without an exponent.
* `Decimal.compactChars`, `compactFloatChars`: a decimal and a float in few characters.
-/

namespace TypedYaml

/-! ## Without an exponent -/

/-- Digits around a point; a zero stands for an empty side. -/
def Decimal.chars (d : Decimal) : List Char :=
  let ds := Nat.toDigits 10 d.digits
  let places := (-d.exponent).toNat
  if d.exponent ≥ 0 then ds ++ List.replicate d.exponent.toNat '0' ++ ['.', '0']
  else if places < ds.length then
    ds.take (ds.length - places) ++ '.' :: ds.drop (ds.length - places)
  else '0' :: '.' :: List.replicate (places - ds.length) '0' ++ ds

/-- A finite number without its sign. -/
def Binary.magnitudeChars (b : Binary) : List Char :=
  match b.whole? with
  | some n => Nat.toDigits 10 n ++ ['.', '0']
  | none => (b.shortest .up).chars

/-- A float as the text of a number in a document. -/
def floatChars (f : Float) : List Char :=
  match FloatForm.ofFloat f with
  | .nan => "NaN".toList
  | .infinite negative => if negative then "-inf".toList else "inf".toList
  | .finite b => if b.negative then '-' :: b.magnitudeChars else b.magnitudeChars

/-! ## In few characters -/

namespace Decimal

/-- One digit before the point, and no point after a single digit. -/
def scientificChars (digits : List Char) (magnitude : Int) : List Char :=
  let e := 'e' :: (toString (magnitude - 1)).toList
  match digits with
  | d :: d' :: ds => d :: '.' :: d' :: ds ++ e
  | ds => ds ++ e

/-- A decimal with an exponent only if it would be long without one. -/
def compactChars (d : Decimal) : List Char :=
  let ds := Nat.toDigits 10 d.digits
  let magnitude := ds.length + d.exponent
  if 0 ≤ d.exponent ∧ magnitude ≤ 16 then
    ds ++ List.replicate d.exponent.toNat '0' ++ ['.', '0']
  else if 0 < magnitude ∧ magnitude ≤ 16 then
    ds.take magnitude.toNat ++ '.' :: ds.drop magnitude.toNat
  else if -5 < magnitude ∧ magnitude ≤ 0 then
    '0' :: '.' :: List.replicate (-magnitude).toNat '0' ++ ds
  else scientificChars ds magnitude

end Decimal

/-- Infinity and what is no number are words that start with a point. -/
def compactFloatChars (f : Float) : List Char :=
  match FloatForm.ofFloat f with
  | .nan => ".nan".toList
  | .infinite negative => if negative then "-.inf".toList else ".inf".toList
  | .finite b =>
    let cs := if b.mantissa = 0 then "0.0".toList else (b.shortest .toEven).compactChars
    if b.negative then '-' :: cs else cs

end TypedYaml
