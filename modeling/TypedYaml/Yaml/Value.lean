import TypedYaml.Decimal.Reading
import TypedYaml.Basic
import TypedYaml.Yaml.Token
import TypedYaml.Yaml.Tree

/-!
# YAML values

A plain scalar stands for null, a boolean or a number if it looks like one; a tag can force a
reading. Aliases stand for the values of their anchors.

* `Value`: what a document says.
* `Value.ofPlain`, `Value.ofTagged`: the values of scalars.
* `Value.ofTree`: the value of a document.
-/

namespace TypedYaml.Yaml

/-- A real number keeps its text. A scalar whose tag does not fit, and an alias inside its own
anchor, have no value. Keys of mappings can be any values. -/
inductive Value where
  | null
  | bool (value : Bool)
  | int (value : Int64)
  | real (text : String)
  | string (text : String)
  | sequence (items : List Value)
  | mapping (entries : List (Value × Value))
  | none
deriving Inhabited

namespace Value

/-! ## Equality -/

mutual

/-- Two values are the same if they are written alike, up to the spelling of an integer. -/
def same : Value → Value → Bool
  | .null, .null | .none, .none => true
  | .bool a, .bool b => a == b
  | .int a, .int b => a == b
  | .real a, .real b => a == b
  | .string a, .string b => a == b
  | .sequence as, .sequence bs => sameItems as bs
  | .mapping as, .mapping bs => sameEntries as bs
  | _, _ => false

/-- Whether two lists of values are the same. -/
def sameItems : List Value → List Value → Bool
  | [], [] => true
  | a :: as, b :: bs => same a b && sameItems as bs
  | _, _ => false

/-- Whether two lists of entries are the same, in order. -/
def sameEntries : List (Value × Value) → List (Value × Value) → Bool
  | [], [] => true
  | (k, v) :: as, (l, w) :: bs => same k l && same v w && sameEntries as bs
  | _, _ => false

end

/-! ## Scalars -/

/-- Each of the two words in lower case, in upper case, or with a capital. -/
def boolOf? (text : String) : Option Bool :=
  if text = "true" ∨ text = "True" ∨ text = "TRUE" then some true
  else if text = "false" ∨ text = "False" ∨ text = "FALSE" then some false
  else Option.none

/-- Infinity and what is no number are written with a point; other numbers hold a digit. -/
def floatOf? (text : String) : Option Float :=
  if [".inf", ".Inf", ".INF", "+.inf", "+.Inf", "+.INF"].contains text then some (1 / 0)
  else if ["-.inf", "-.Inf", "-.INF"].contains text then some (-1 / 0)
  else if [".nan", ".NaN", ".NAN"].contains text then some (0 / 0)
  else if text.toList.any FloatText.isDigit then float? text.toList
  else Option.none

/-- Integers are decimal, hexadecimal after `0x` or octal after `0o`. A plus sign may stand before
a decimal one, even if another sign follows. -/
def intOf? (text : String) : Option Int64 :=
  match text.toList with
  | '0' :: 'x' :: digits => Text.int64OfDigits? 16 digits
  | '0' :: 'o' :: digits => Text.int64OfDigits? 8 digits
  | '+' :: digits => Text.int64? digits
  | digits => Text.int64? digits

/-- The value of a plain scalar without a tag. -/
def ofPlain (text : String) : Value :=
  if text = "" ∨ text = "~" ∨ text = "null" then .null
  else
    match intOf? text, boolOf? text, floatOf? text with
    | some i, _, _ => .int i
    | Option.none, some b, _ => .bool b
    | Option.none, Option.none, some _ => .real text
    | Option.none, Option.none, Option.none => .string text

/-- The value of a plain scalar with a tag. A tag that YAML does not define makes a string. -/
def ofTagged (t : Tag) (text : String) : Value :=
  if t.start ≠ coreTagStart then .string text
  else
    match t.suffix with
    | "bool" => ((boolOf? text).map .bool).getD .none
    | "int" => ((Text.int64? text.toList).map .int).getD .none
    | "float" => if (floatOf? text).isSome then .real text else .none
    | "null" => if text = "~" ∨ text = "null" then .null else .none
    | _ => .string text

/-- The value of a scalar. One that is not plain is a string, whatever its tag. -/
def ofScalar (style : ScalarStyle) (tag : Option Tag) (text : String) : Value :=
  match style, tag with
  | .plain, Option.none => ofPlain text
  | .plain, some t => ofTagged t text
  | _, _ => .string text

/-! ## Anchors -/

/-- The anchors met so far by number, the last use of a name, and the values that are complete. -/
structure Anchors where
  count : Nat
  names : List (String × Nat)
  values : List (Nat × Value)

namespace Anchors

/-- No anchor was met. -/
def empty : Anchors := ⟨0, [], []⟩

/-- The anchors after a node has begun that may have one. -/
def open' (name : Option String) (a : Anchors) : Anchors :=
  match name with
  | some n => { a with count := a.count + 1, names := (n, a.count) :: a.names }
  | Option.none => a

/-- The anchor number `i`, if there is an anchor at all, has a value now. -/
def close (name : Option String) (i : Nat) (v : Value) (a : Anchors) : Anchors :=
  if name.isSome then { a with values := (i, v) :: a.values } else a

end Anchors

/-! ## Documents -/

/-- Makes entries of keys and values that take turns. A key without value is passed over, and the
next value stands in its place. -/
def pair : List Value → List (Value × Value)
  | .none :: rest => pair rest
  | k :: v :: rest => (k, v) :: pair rest
  | _ => []

/-- Whether two entries have the same key. -/
def hasDuplicate : List (Value × Value) → Bool
  | [] => false
  | (k, _) :: rest => rest.any (fun e => same k e.1) || hasDuplicate rest

/-- The mapping of keys and values in turn. No key may occur twice. -/
def mappingOf? (content : List Value) : Except Fault Value :=
  let entries := pair content
  if hasDuplicate entries then .error .duplicateKey else .ok (.mapping entries)

mutual

/-- The value of a node and the anchors after it. An alias inside its own anchor finds no value. -/
def ofTree (a : Anchors) : Tree → Except Fault (Value × Anchors)
  | .alias name =>
    match a.names.lookup name with
    | some i => .ok ((a.values.lookup i).getD .none, a)
    | Option.none => .error .unknownAnchor
  | .scalar style text p =>
    let v := ofScalar style p.tag text
    .ok (v, (a.open' p.anchor).close p.anchor a.count v)
  | .sequence items p => do
    let (vs, b) ← ofItems (a.open' p.anchor) items
    .ok (.sequence vs, b.close p.anchor a.count (.sequence vs))
  | .mapping entries p => do
    let (vs, b) ← ofEntries (a.open' p.anchor) entries
    let v ← mappingOf? vs
    .ok (v, b.close p.anchor a.count v)

/-- The values of the items of a sequence. -/
def ofItems (a : Anchors) : List Tree → Except Fault (List Value × Anchors)
  | [] => .ok ([], a)
  | t :: rest => do
    let (v, a) ← ofTree a t
    let (vs, a) ← ofItems a rest
    .ok (v :: vs, a)

/-- Keys and values in turn. -/
def ofEntries (a : Anchors) : List (Tree × Tree) → Except Fault (List Value × Anchors)
  | [] => .ok ([], a)
  | (key, value) :: rest => do
    let (k, a) ← ofTree a key
    let (v, a) ← ofTree a value
    let (vs, a) ← ofEntries a rest
    .ok (k :: v :: vs, a)

end

end Value

end TypedYaml.Yaml
