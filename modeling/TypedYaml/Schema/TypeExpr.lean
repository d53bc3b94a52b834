import TypedYaml.Schema.Error
import TypedYaml.Basic

/-!
# Type expressions

A type is written as a name, as a list `List<T>` or `T[]`, or as a map `Map<String, T>`.

* `TypeExpr`: what an expression says.
* `TypeExpr.parse`: reading one. An expression is opened from the outside, so an error concerns
  the part that is left when it is met.
-/

namespace TypedYaml

/-- What an expression says. The keys of a map are always texts. -/
inductive TypeExpr where
  | name (name : String)
  | list (element : TypeExpr)
  | map (value : TypeExpr)
deriving DecidableEq

namespace TypeExpr

open Text (trim trimStart)

/-- What follows a given start. -/
def after? : List Char → List Char → Option (List Char)
  | [], cs => some cs
  | _ :: _, [] => none
  | p :: ps, c :: cs => if p = c then after? ps cs else none

/-- What comes before a given end. -/
def before? (ending cs : List Char) : Option (List Char) :=
  (after? ending.reverse cs.reverse).map List.reverse

/-- The text between the angle brackets that follow a name and take up the rest. -/
def arguments? (name cs : List Char) : Option (List Char) := do
  let rest ← after? name cs
  let rest ← after? ['<'] (trimStart rest)
  before? ['>'] rest

/-- The parts around the first comma outside angle brackets, of which `depth` are open. -/
def splitComma? (depth : Nat) : List Char → Option (List Char × List Char)
  | [] => none
  | c :: cs =>
    if c = ',' ∧ depth = 0 then some ([], cs)
    else if c = '>' ∧ depth = 0 then none
    else
      let depth := if c = '<' then depth + 1 else if c = '>' then depth - 1 else depth
      (splitComma? depth cs).map fun (key, value) => (c :: key, value)

/-- The characters that no type name holds. -/
def isReserved (c : Char) : Bool :=
  c == '<' || c == '>' || c == ',' || c == '[' || c == ']'

/-! ## The parts of an expression are shorter -/

theorem after?_length {ps cs rest : List Char} (h : after? ps cs = some rest) :
    rest.length + ps.length = cs.length := by
  fun_induction after? ps cs with
  | case1 => cases h; rfl
  | case2 => cases h
  | case3 ps c cs ih => simp [← ih h, Nat.add_assoc]
  | case4 => cases h

theorem before?_length {ending cs rest : List Char} (h : before? ending cs = some rest) :
    rest.length + ending.length = cs.length := by
  obtain ⟨r, hr, rfl⟩ := Option.map_eq_some_iff.1 h
  simpa using after?_length hr

theorem arguments?_length {name cs rest : List Char} (h : arguments? name cs = some rest) :
    rest.length < cs.length := by
  simp only [arguments?, Option.bind_eq_bind, Option.bind_eq_some_iff] at h
  obtain ⟨r1, h1, r2, h2, h3⟩ := h
  have := after?_length h1
  have := after?_length h2
  have := before?_length h3
  have := Text.trimStart_length_le r1
  simp only [List.length_cons, List.length_nil] at *
  omega

theorem splitComma?_length {depth : Nat} {cs key value : List Char}
    (h : splitComma? depth cs = some (key, value)) : value.length < cs.length := by
  induction cs generalizing depth key value with
  | nil => cases h
  | cons c cs ih =>
    simp only [splitComma?] at h
    split at h
    · cases h
      exact Nat.lt_succ_self _
    · split at h
      · cases h
      · obtain ⟨p, hp, heq⟩ := Option.map_eq_some_iff.1 h
        cases heq
        exact Nat.lt_succ_of_lt (ih hp)

/-! ## Reading -/

/-- The error of the part of an expression that is left. -/
def invalid (cs : List Char) (fault : TypeExprFault) : Except SchemaError TypeExpr :=
  .error (.invalidTypeExpression (String.ofList cs) fault)

/-- Reads an expression. Brackets at the end belong to the whole of what is before them, so they are
looked for first. -/
def parseChars (cs : List Char) : Except SchemaError TypeExpr :=
  let core := trim cs
  if core.isEmpty then invalid cs .empty
  else
    match h : before? ['[', ']'] core with
    | some element =>
      have : element.length < cs.length :=
        Nat.lt_of_lt_of_le (before?_length h ▸ Nat.lt_add_of_pos_right (by decide))
          (Text.trim_length_le cs)
      (parseChars element).map .list
    | none =>
      match h : arguments? "List".toList core with
      | some element =>
        have : element.length < cs.length :=
          Nat.lt_of_lt_of_le (arguments?_length h) (Text.trim_length_le cs)
        (parseChars element).map .list
      | none =>
        match h : arguments? "Map".toList core with
        | some args =>
          match hs : splitComma? 0 args with
          | none => invalid cs .mapArguments
          | some (key, value) =>
            have : value.length < cs.length :=
              Nat.lt_of_lt_of_le
                (Nat.lt_trans (splitComma?_length hs) (arguments?_length h))
                (Text.trim_length_le cs)
            if trim key = "String".toList then (parseChars value).map .map
            else invalid cs .mapKeys
        | none =>
          if core.any isReserved then invalid cs .malformed
          else .ok (.name (String.ofList core))
termination_by cs.length

/-- The expression that a text writes. -/
def parse (expr : String) : Except SchemaError TypeExpr := parseChars expr.toList

end TypeExpr

end TypedYaml
