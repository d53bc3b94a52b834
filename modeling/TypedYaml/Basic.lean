/-!
# Texts and entries

What all parts of the library use.

* `Bytes`, `Text.ofUtf8?`: the contents of a file, and the text that they encode.
* `Text.CodePoints`: sets of characters, given by ranges.
* `Text.isWhitespace`, `Text.trim`: white space, and a text without it at its ends.
* `Text.ofInt`, `Text.int64?`: written integers.
* `Entries`: keys with values, in order.
-/

namespace TypedYaml

/-- The contents of a file. -/
abbrev Bytes := List UInt8

namespace Text

/-- Bytes that are not the UTF-8 form of a text have no text. -/
def ofUtf8? (bytes : Bytes) : Option String := String.fromUTF8? ⟨bytes.toArray⟩

/-! ## Sets of characters -/

/-- A property of characters, as the list of the ranges that have it, both ends included. -/
abbrev CodePoints := List (Nat × Nat)

/-- Whether a character lies in one of the ranges. -/
def CodePoints.contains (ranges : CodePoints) (c : Char) : Bool :=
  ranges.any fun (first, last) => first ≤ c.toNat && c.toNat ≤ last

/-! ## White space -/

/-- The 25 characters with the property White_Space. Core's `Char.isWhitespace` knows the ASCII
ones only, and leaves out the vertical tab and the form feed. -/
def isWhitespace (c : Char) : Bool :=
  let n := c.toNat
  n == 0x20 || (0x9 ≤ n && n ≤ 0xD) || n == 0x85 || n == 0xA0 || n == 0x1680 ||
    (0x2000 ≤ n && n ≤ 0x200A) || n == 0x2028 || n == 0x2029 || n == 0x202F || n == 0x205F ||
    n == 0x3000

/-- A text without the white space that it starts with. -/
def trimStart (cs : List Char) : List Char := cs.dropWhile isWhitespace

/-- A text without the white space that it ends with. -/
def trimEnd (cs : List Char) : List Char := (trimStart cs.reverse).reverse

/-- A text without white space at its ends; that inside it stays. -/
def trim (cs : List Char) : List Char := trimEnd (trimStart cs)

/-- A text that is empty or holds white space only. -/
def isBlank (cs : List Char) : Bool := cs.all isWhitespace

theorem trimStart_length_le (cs : List Char) : (trimStart cs).length ≤ cs.length :=
  (List.dropWhile_sublist _).length_le

theorem trimEnd_length_le (cs : List Char) : (trimEnd cs).length ≤ cs.length := by
  simpa [trimEnd] using trimStart_length_le cs.reverse

theorem trim_length_le (cs : List Char) : (trim cs).length ≤ cs.length :=
  Nat.le_trans (trimEnd_length_le _) (trimStart_length_le _)

/-! ## Integers -/

/-- The decimal form, without a plus sign. -/
def ofInt : Int → List Char
  | .ofNat n => Nat.toDigits 10 n
  | .negSucc n => '-' :: Nat.toDigits 10 (n + 1)

/-- The value of a digit. Letters of either case stand for the digits from ten on. -/
def digitValue? (base : Nat) (c : Char) : Option Nat :=
  let value :=
    if '0' ≤ c ∧ c ≤ '9' then some (c.toNat - '0'.toNat)
    else if 'a' ≤ c ∧ c ≤ 'z' then some (c.toNat - 'a'.toNat + 10)
    else if 'A' ≤ c ∧ c ≤ 'Z' then some (c.toNat - 'A'.toNat + 10)
    else none
  value.filter (· < base)

/-- The number that at least one digit denotes. -/
def natOfDigits? (base : Nat) : List Char → Option Nat
  | [] => none
  | c :: cs => (c :: cs).foldlM (fun n d => (digitValue? base d).map (base * n + ·)) 0

/-- An integer that fits into 64 bits. -/
def toInt64? (i : Int) : Option Int64 :=
  if Int64.minValue.toInt ≤ i ∧ i ≤ Int64.maxValue.toInt then some (Int64.ofInt i) else none

/-- An optional sign and digits, read as a number of 64 bits. -/
def int64OfDigits? (base : Nat) : List Char → Option Int64
  | '+' :: cs => (natOfDigits? base cs).bind fun n => toInt64? n
  | '-' :: cs => (natOfDigits? base cs).bind fun n => toInt64? (-n)
  | cs => (natOfDigits? base cs).bind fun n => toInt64? n

/-- An optional sign and decimal digits. -/
def int64? (cs : List Char) : Option Int64 := int64OfDigits? 10 cs

end Text

/-! ## Entries -/

/-- A mapping, kept as the list of its entries. -/
abbrev Entries (α : Type) := List (String × α)

namespace Entries

variable {α : Type}

/-- Writing to a key that is there already replaces its value and keeps its place. -/
def insert (key : String) (value : α) : Entries α → Entries α
  | [] => [(key, value)]
  | (k, v) :: rest => if k = key then (k, value) :: rest else (k, v) :: insert key value rest

/-- The writes of a list, made from left to right. -/
def ofList (writes : List (String × α)) : Entries α :=
  writes.foldl (fun entries (key, value) => insert key value entries) []

end Entries

end TypedYaml
