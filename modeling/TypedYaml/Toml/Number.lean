import TypedYaml.Basic
import TypedYaml.Decimal.Reading

/-!
# Numbers, dates and times

Digits may be grouped by underscores. A decimal number has no needless zero in front; only it may
have a sign. Of what is neither a string nor an integer only the form is told.

* `integer?`: integers of 64 bits.
* `isFloat`: whether a text is a number with a fraction or an exponent, or the word for infinity or
  for what is no number.
* `isDate`, `isTime`, `isMoment`: a day; hours, minutes and seconds; the same with or without a
  difference from universal time.
-/

namespace TypedYaml.Toml

/-! ## Integers -/

/-- The sign of a text, and the text after it. -/
def splitSign : List Char → List Char × List Char
  | '-' :: cs => (['-'], cs)
  | '+' :: cs => (['+'], cs)
  | cs => ([], cs)

/-- The digits of a text in which there may be underscores, each of them between two digits. -/
def ungroup? (isDigit : Char → Bool) (cs : List Char) : Option (List Char) :=
  let groups := cs.splitOn '_'
  if groups.all fun g => !g.isEmpty && g.all isDigit then some groups.flatten else none

/-- Digits of a decimal number before its point. -/
def whole? (cs : List Char) : Option (List Char) :=
  (ungroup? FloatText.isDigit cs).filter fun ds => ds.length = 1 || ds.head? ≠ some '0'

/-- Grouped digits in a base other than ten, without a sign. -/
def digitsIn? (base : Nat) (cs : List Char) : Option Int64 :=
  (ungroup? (fun c => (Text.digitValue? base c).isSome) cs).bind (Text.int64OfDigits? base)

/-- An integer that fits into 64 bits. The base is told by what stands in front. -/
def integer? : List Char → Option Int64
  | '0' :: 'x' :: ds => digitsIn? 16 ds
  | '0' :: 'o' :: ds => digitsIn? 8 ds
  | '0' :: 'b' :: ds => digitsIn? 2 ds
  | cs =>
    let (sign, ds) := splitSign cs
    (whole? ds).bind fun ds => Text.int64? (sign ++ ds)

/-! ## Floats -/

/-- The digits of an exponent, which takes up the rest of a text. -/
def exponent? : List Char → Option (List Char)
  | [] => some []
  | e :: cs =>
    let (sign, ds) := splitSign cs
    if e = 'e' ∨ e = 'E' then
      (ungroup? FloatText.isDigit ds).map fun ds => 'e' :: sign ++ ds
    else none

/-- A fraction and an exponent, at least one of them. -/
def fraction? : List Char → Option (List Char)
  | [] => none
  | '.' :: cs => do
    let isPart (c : Char) : Bool := FloatText.isDigit c || c == '_'
    let part ← ungroup? FloatText.isDigit (cs.takeWhile isPart)
    let e ← exponent? (cs.dropWhile isPart)
    some ('.' :: part ++ e)
  | cs => exponent? cs

/-- A number without underscores. -/
def plainFloat? (cs : List Char) : Option (List Char) := do
  let (sign, rest) := splitSign cs
  let isPart (c : Char) : Bool := FloatText.isDigit c || c == '_'
  let whole ← whole? (rest.takeWhile isPart)
  let part ← fraction? (rest.dropWhile isPart)
  some (sign ++ whole ++ part)

/-- A number that is too large is refused, but not if it is too far below zero. -/
def isFloat (cs : List Char) : Bool :=
  let (_, rest) := splitSign cs
  rest = "inf".toList || rest = "nan".toList ||
    ((plainFloat? cs).bind float?).any fun f => f < 1 / 0

/-! ## Dates and times -/

/-- The number that a text of so many digits denotes, if it is in a range. -/
def field? (width low high : Nat) (cs : List Char) : Option Nat :=
  if cs.length = width ∧ cs.all FloatText.isDigit then
    (some (Nat.ofDigitChars 10 cs 0)).filter fun n => low ≤ n && n ≤ high
  else none

/-- Years that can be divided by four, but of full centuries only every fourth. -/
def isLeapYear (year : Nat) : Bool := year % 4 == 0 && (year % 100 ≠ 0 || year % 400 == 0)

/-- The number of days of a month. -/
def daysOf (year month : Nat) : Nat :=
  if month = 2 then if isLeapYear year then 29 else 28
  else if [4, 6, 9, 11].contains month then 30
  else 31

/-- A year, a month and a day of that month, joined by minus signs. -/
def isDate (cs : List Char) : Bool :=
  match cs.splitOn '-' with
  | [y, m, d] =>
    ((field? 4 0 9999 y).bind fun year =>
      (field? 2 1 12 m).bind fun month => field? 2 1 (daysOf year month) d).isSome
  | _ => false

/-- Seconds with or without a fraction. A minute may have a leap second. -/
def isSeconds (cs : List Char) : Bool :=
  match cs.splitOn '.' with
  | [s] => (field? 2 0 60 s).isSome
  | [s, part] => (field? 2 0 60 s).isSome && !part.isEmpty && part.all FloatText.isDigit
  | _ => false

/-- Hours, minutes and seconds, joined by colons. -/
def isTime (cs : List Char) : Bool :=
  match cs.splitOn ':' with
  | [h, m, s] => (field? 2 0 23 h).isSome && (field? 2 0 59 m).isSome && isSeconds s
  | _ => false

/-- Hours and minutes after a sign. -/
def isOffset (cs : List Char) : Bool :=
  match cs.splitOn ':' with
  | [h, m] => (field? 2 0 23 h).isSome && (field? 2 0 59 m).isSome
  | _ => false

/-- A time, with or without its difference from universal time. -/
def isMoment (cs : List Char) : Bool :=
  match cs.getLast? with
  | some 'Z' | some 'z' => isTime cs.dropLast
  | _ =>
    let isPart (c : Char) : Bool := c ≠ '+' && c ≠ '-'
    match cs.dropWhile isPart with
    | [] => isTime cs
    | _ :: offset => isTime (cs.takeWhile isPart) && isOffset offset

/-- A date, a time without difference, or a date and a time with a letter between them. -/
def isDateOrTime (cs : List Char) : Bool :=
  isDate cs || isTime cs ||
    match cs.drop 10 with
    | t :: moment => (t == 'T' || t == 't') && isDate (cs.take 10) && isMoment moment
    | [] => false

end TypedYaml.Toml
