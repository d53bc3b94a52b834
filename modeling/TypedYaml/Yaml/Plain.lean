import TypedYaml.Decimal.Reading
import TypedYaml.Basic

/-!
# Plain scalars that are no strings

What a plain scalar stands for in a schema definition, and so which strings have to be quoted
wherever they are written. A number with needless zeros in front is a string.

* `Plain`: what is meant.
* `Plain.ofText`: reading.
-/

namespace TypedYaml.Yaml

/-- Minus zero is an integer below zero. -/
inductive Plain where
  | null
  | bool (value : Bool)
  | int (negative : Bool) (magnitude : Nat)
  | float
  | string
deriving DecidableEq

namespace Plain

/-- The words for null. -/
def isNull (text : String) : Bool := ["null", "Null", "NULL", "~"].contains text

/-- The words for truth values. -/
def bool? (text : String) : Option Bool :=
  if ["true", "True", "TRUE"].contains text then some true
  else if ["false", "False", "FALSE"].contains text then some false
  else none

/-- Digits after a zero that is not needed, with a sign or without. -/
def hasLeadingZero (cs : List Char) : Bool :=
  match (FloatText.splitSign cs).2 with
  | '0' :: d :: ds => (d :: ds).all FloatText.isDigit
  | _ => false

/-- Digits in base ten, or after `0x`, `0o` or `0b` in the base meant by that. -/
def magnitude? : List Char → Option Nat
  | '0' :: 'x' :: ds => Text.natOfDigits? 16 ds
  | '0' :: 'o' :: ds => Text.natOfDigits? 8 ds
  | '0' :: 'b' :: ds => Text.natOfDigits? 2 ds
  | ds => Text.natOfDigits? 10 ds

/-- Integers have at most 128 bits, one of them for the sign if it is a minus. -/
def int? (cs : List Char) : Option (Bool × Nat) :=
  if hasLeadingZero cs then none
  else
    match cs with
    | '-' :: ds => ((magnitude? ds).filter (· ≤ 1 <<< 127)).map (true, ·)
    | '+' :: ds => ((magnitude? ds).filter (· < 1 <<< 128)).map (false, ·)
    | ds => ((magnitude? ds).filter (· < 1 <<< 128)).map (false, ·)

/-- The text without a plus sign, if no other sign follows it. -/
def unsigned? : List Char → Option (List Char)
  | '+' :: '+' :: _ | '+' :: '-' :: _ => none
  | '+' :: cs => some cs
  | cs => some cs

/-- Finite numbers, and words that start with a point for the others. -/
def isFloat (text : String) : Bool :=
  match unsigned? text.toList with
  | none => false
  | some cs =>
    [".inf", ".Inf", ".INF"].contains (String.ofList cs) ||
      ["-.inf", "-.Inf", "-.INF", ".nan", ".NaN", ".NAN"].contains text ||
      ((float? cs).map Float.isFinite).getD false

/-- What a plain scalar stands for. Only a text that is nothing else is a string. -/
def ofText (text : String) : Plain :=
  if text = "" ∨ isNull text then .null
  else
    match bool? text, int? text.toList with
    | some b, _ => .bool b
    | none, some (negative, n) => .int negative n
    | none, none =>
      if !hasLeadingZero text.toList && isFloat text then .float else .string

end Plain

end TypedYaml.Yaml
