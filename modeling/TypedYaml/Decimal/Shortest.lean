/-!
# The shortest decimal that reads back

A finite 64-bit number is a natural number times a power of two, with a sign. Among the decimals
that are nearer to it than to its neighbours, the one with the fewest digits stands for it, and of
those the nearest. It is found on decimal grids of decreasing width: the first grid with a point in
the interval has the fewest digits, and if it has one then so does one of the two points around the
number itself. Two points may be equally near; then writers differ in the one that they take.

* `Binary`: such a number, exactly.
* `FloatForm`: what a float stands for; `FloatForm.ofFloat` reads it off its bits.
* `Decimal`: `digits * 10 ^ exponent`.
* `Interval`: a number and the bounds of the decimals that read back as it.
* `Ties`: what to do with two decimals that are equally near.
* `Binary.shortest`: the decimal.
-/

namespace TypedYaml

/-! ## Floats as exact numbers -/

/-- The number `mantissa * 2 ^ exponent`, below zero if `negative`. -/
structure Binary where
  negative : Bool
  mantissa : Nat
  exponent : Int

/-- What a 64-bit float stands for. -/
inductive FloatForm where
  | nan
  | infinite (negative : Bool)
  | finite (value : Binary)

/-- The highest bit is the sign, the next eleven are the exponent. Small numbers have the least
exponent and no leading one; the greatest exponent stands for what is not finite. -/
def FloatForm.ofFloat (f : Float) : FloatForm :=
  let bits := f.toBits.toNat
  let negative := 1 <<< 63 ≤ bits
  let mantissa := bits % 1 <<< 52
  match bits >>> 52 % 1 <<< 11 with
  | 0 => .finite ⟨negative, mantissa, -1074⟩
  | 2047 => if mantissa = 0 then .infinite negative else .nan
  | e => .finite ⟨negative, mantissa + 1 <<< 52, e - 1075⟩

namespace Binary

/-- The whole number that the magnitude is, if it is whole. -/
def whole? (b : Binary) : Option Nat :=
  if 0 ≤ b.exponent then some (b.mantissa <<< b.exponent.toNat)
  else
    let d := 1 <<< (-b.exponent).toNat
    if b.mantissa % d = 0 then some (b.mantissa / d) else none

end Binary

/-! ## Intervals on decimal grids -/

/-- The number `digits * 10 ^ exponent`. -/
structure Decimal where
  digits : Nat
  exponent : Int

/-- A positive number and the interval around it, as numerators over one denominator. The ends
belong to the interval if `closed`. -/
structure Interval where
  low : Nat
  value : Nat
  high : Nat
  denominator : Nat
  closed : Bool

/-- Which of two decimals is taken that are equally near: the greater one, or the one whose last
digit is even. -/
inductive Ties where
  | up
  | toEven
deriving DecidableEq

namespace Interval

/-- A quarter of the unit in the last place is taken as the unit here, for a power of two is only
half as far from the number below it as from the one above. -/
def ofBinary (b : Binary) : Interval :=
  let below := if b.mantissa = 1 <<< 52 ∧ -1074 < b.exponent then 1 else 2
  let scale := 1 <<< (b.exponent - 2).toNat
  { low := (4 * b.mantissa - below) * scale
    value := 4 * b.mantissa * scale
    high := (4 * b.mantissa + 2) * scale
    denominator := 1 <<< (2 - b.exponent).toNat
    closed := b.mantissa % 2 == 0 }

/-- The interval measured in units of `10 ^ k`. -/
def inUnits (i : Interval) (k : Int) : Interval :=
  let shrink := Nat.pow 10 k.toNat
  let grow := Nat.pow 10 (-k).toNat
  { i with
    low := i.low * grow
    value := i.value * grow
    high := i.high * grow
    denominator := i.denominator * shrink }

/-- Whether a whole number lies in the interval. -/
def contains (i : Interval) (n : Nat) : Bool :=
  let m := n * i.denominator
  if i.closed then i.low ≤ m && m ≤ i.high else i.low < m && m < i.high

/-- The whole number in the interval that is nearest to the value, sought on both sides of it. -/
def nearest? (ties : Ties) (i : Interval) : Option Nat :=
  let n := i.value / i.denominator
  let middle := (2 * n + 1) * i.denominator
  match i.contains n, i.contains (n + 1) with
  | true, true =>
    if 2 * i.value < middle then some n
    else if 2 * i.value = middle ∧ ties = .toEven ∧ n % 2 = 0 then some n
    else some (n + 1)
  | true, false => some n
  | false, true => some (n + 1)
  | false, false => none

/-- The nearest point of the first grid, from `10 ^ k` down, with a point in the interval. -/
def search (ties : Ties) (i : Interval) : Nat → Int → Decimal
  | 0, k => ⟨i.value * Nat.pow 10 (-k).toNat / (i.denominator * Nat.pow 10 k.toNat), k⟩
  | tries + 1, k =>
    match (i.inUnits k).nearest? ties with
    | some n => ⟨n, k⟩
    | none => search ties i tries (k - 1)

/-- A power of ten above the value. -/
def magnitude (i : Interval) : Int :=
  if i.denominator ≤ i.value then (Nat.toDigits 10 (i.value / i.denominator)).length
  else 2 - (Nat.toDigits 10 (i.denominator / i.value)).length

end Interval

/-- The shortest decimal for a number other than zero; seventeen digits suffice. -/
def Binary.shortest (ties : Ties) (b : Binary) : Decimal :=
  let i := Interval.ofBinary b
  i.search ties 20 i.magnitude

end TypedYaml
