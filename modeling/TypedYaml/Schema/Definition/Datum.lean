import TypedYaml.Basic
import TypedYaml.Schema.Error
import TypedYaml.Yaml.Plain
import TypedYaml.Yaml.Tree

/-!
# Properties as data

What is written for a property may have one of two forms, and which one is told by its value and
not by its place. So it is first read as a value: plain scalars are strings only if they do not
look like anything else.

* `Datum`: such a value.
* `Datum.ofTree`: reading it.
-/

namespace TypedYaml

/-- A scalar that is neither null nor a boolean, a natural number or a string has no further use. -/
inductive Datum where
  | null
  | bool (value : Bool)
  | natural (value : Nat)
  | string (text : String)
  | otherScalar
  | sequence
  | mapping (entries : List (Datum × Datum))
deriving Inhabited

namespace Datum

open Yaml (Tree Tag ScalarStyle Plain)

/-- An integer of 64 bits, one of which is for the sign if it is below zero. -/
def ofInt (negative : Bool) (magnitude : Nat) : Except DefinitionFault Datum :=
  if negative then
    if magnitude ≤ 1 <<< 63 then .ok .otherScalar else .error .propertyExpected
  else if magnitude < 1 <<< 64 then .ok (.natural magnitude)
  else .error .propertyExpected

/-- The value of a plain scalar without a tag. -/
def ofPlain (text : String) : Except DefinitionFault Datum :=
  match Plain.ofText text with
  | .null => .ok .null
  | .bool b => .ok (.bool b)
  | .int negative magnitude => ofInt negative magnitude
  | .float => .ok .otherScalar
  | .string => .ok (.string text)

/-- A tag of YAML itself has to fit the text; all others make strings. -/
def ofTagged (tag : Tag) (text : String) : Except DefinitionFault Datum :=
  let suffix := if tag.start = Yaml.coreTagStart then tag.suffix else ""
  match suffix with
  | "bool" =>
    match Plain.bool? text with
    | some b => .ok (.bool b)
    | none => .error .misfitTag
  | "int" =>
    match Plain.int? text.toList with
    | some (negative, magnitude) => ofInt negative magnitude
    | none => .error .misfitTag
  | "float" => if Plain.isFloat text then .ok .otherScalar else .error .misfitTag
  | "null" => if Plain.isNull text then .ok .null else .error .misfitTag
  | _ => .ok (.string text)

/-- Whether a tag is one of an application. They start with an exclamation mark. -/
def isCustom (tag : Option Tag) : Bool :=
  match tag with
  | some t => t.full.startsWith "!"
  | none => false

/-- The tag that consists of an exclamation mark says nothing about a scalar. -/
def ofScalar (style : ScalarStyle) (tag : Option Tag) (text : String) :
    Except DefinitionFault Datum :=
  match tag.filter (·.full ≠ "!") with
  | some t => if isCustom (some t) then .error .customTag else ofTagged t text
  | none => if style = .plain then ofPlain text else .ok (.string text)

mutual

/-- The value of a node without aliases. -/
def ofTree : Tree → Except DefinitionFault Datum
  | .alias _ => .error (.yaml .unknownAnchor)
  | .scalar style text p => ofScalar style p.tag text
  | .sequence items p =>
    if isCustom p.tag then .error .customTag
    else (checkItems items).map fun _ => .sequence
  | .mapping entries p =>
    if isCustom p.tag then .error .customTag
    else (ofEntries entries).map .mapping

/-- The items are of no further use, but they are read. -/
def checkItems : List Tree → Except DefinitionFault Unit
  | [] => .ok ()
  | t :: rest => do
    let _ ← ofTree t
    checkItems rest

/-- The entries of a mapping. Keys may be any values here. -/
def ofEntries : List (Tree × Tree) → Except DefinitionFault (List (Datum × Datum))
  | [] => .ok []
  | (key, value) :: rest => do
    let k ← ofTree key
    let v ← ofTree value
    let es ← ofEntries rest
    .ok ((k, v) :: es)

end

/-! ## Members -/

/-- The name of a member. Members may also be named by their numbers; what is neither text nor a
natural number names nothing. -/
def memberName? (names : List String) : Datum → Except DefinitionFault (Option String)
  | .string s => .ok (if names.contains s then some s else none)
  | .natural n => .ok names[n]?
  | _ => .error .propertyExpected

/-- The members with the given names, none of which may be repeated. Others are passed over. -/
def members (names : List String) : List (Datum × Datum) → Except DefinitionFault (Entries Datum)
  | [] => .ok []
  | (key, value) :: rest => do
    let found ← members names rest
    match ← memberName? names key with
    | none => .ok found
    | some name =>
      if (found.lookup name).isSome then .error (.repeatedMember name)
      else .ok ((name, value) :: found)

/-- An optional text. -/
def text? : Option Datum → Except DefinitionFault (Option String)
  | none | some .null => .ok none
  | some (.string s) => .ok (some s)
  | _ => .error .textExpected

end Datum

end TypedYaml
