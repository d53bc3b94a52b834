import TypedYaml.Proofs.Schema.Effect
import TypedYaml.Proofs.Schema.TypeGrammar

/-!
# Type expressions in a single pass

A builder reads the whole of a type expression before it looks for the name in it and makes the
lists and maps around that name. All of this can be done at once: the expression is opened from the
outside, and a list or a map is made on the way back, after its content was found.

The two ways have the same result and leave the same builder behind, also where they fail. For what
is opened first is made last, and an error ends the single pass before it has made anything: the
innermost name is the only thing that can be missing once the expression is open.

* `Builder.scan`: a single pass.
* `Builder.typeOf_eq_scan`: it does what reading and then denoting does.
* `Builder.scan_of_error`: an error leaves no list and no map behind.
-/

namespace TypedYaml.Builder

open Text (trim)
open TypeExpr

/-- Makes a container of what was found, if anything was. -/
def wrap (make : TypeId → Builder → TypeId × Builder) :
    Except SchemaError TypeId × Builder → Except SchemaError TypeId × Builder
  | (.error e, b) => (.error e, b)
  | (.ok t, b) => (.ok (make t b).1, (make t b).2)

/-- The type that a written expression denotes, found and made while it is read. -/
def scan (referencedBy : String) (cs : List Char) (b : Builder) :
    Except SchemaError TypeId × Builder :=
  let core := trim cs
  let refuse (fault : TypeExprFault) : Except SchemaError TypeId × Builder :=
    (.error (.invalidTypeExpression (String.ofList cs) fault), b)
  if core.isEmpty then refuse .empty
  else
    match h : before? ['[', ']'] core with
    | some element =>
      have : element.length < cs.length :=
        Nat.lt_of_lt_of_le (before?_length h ▸ Nat.lt_add_of_pos_right (by decide))
          (Text.trim_length_le cs)
      wrap listOf (scan referencedBy element b)
    | none =>
      match h : arguments? "List".toList core with
      | some element =>
        have : element.length < cs.length :=
          Nat.lt_of_lt_of_le (arguments?_length h) (Text.trim_length_le cs)
        wrap listOf (scan referencedBy element b)
      | none =>
        match h : arguments? "Map".toList core with
        | some args =>
          match hs : splitComma? 0 args with
          | none => refuse .mapArguments
          | some (key, value) =>
            have : value.length < cs.length :=
              Nat.lt_of_lt_of_le
                (Nat.lt_trans (splitComma?_length hs) (arguments?_length h))
                (Text.trim_length_le cs)
            if trim key = "String".toList then wrap mapOf (scan referencedBy value b)
            else refuse .mapKeys
        | none =>
          if core.any isReserved then refuse .malformed
          else
            match b.lookup (String.ofList core) with
            | some t => (.ok t, b)
            | none => (.error (.unknownType (String.ofList core) referencedBy), b)
termination_by cs.length

/-! ## Reading first -/

/-- What an expression denotes that was read before, or the error of reading it. -/
def denoteRead (referencedBy : String) (b : Builder) :
    Except SchemaError TypeExpr → Except SchemaError TypeId × Builder
  | .error e => (.error e, b)
  | .ok e => b.denote referencedBy e

variable {referencedBy : String} {b : Builder}

theorem denote_list (e : TypeExpr) :
    b.denote referencedBy (.list e) = wrap listOf (b.denote referencedBy e) := by
  rw [denote]
  split <;> next h => rw [h]; rfl

theorem denote_map (e : TypeExpr) :
    b.denote referencedBy (.map e) = wrap mapOf (b.denote referencedBy e) := by
  rw [denote]
  split <;> next h => rw [h]; rfl

/-- An error of reading stays what it is in any container. -/
theorem denoteRead_container {container : TypeExpr → TypeExpr}
    {make : TypeId → Builder → TypeId × Builder}
    (h : ∀ e, b.denote referencedBy (container e) = wrap make (b.denote referencedBy e))
    (found : Except SchemaError TypeExpr) :
    b.denoteRead referencedBy (found.map container) =
      wrap make (b.denoteRead referencedBy found) := by
  cases found with
  | error => rfl
  | ok e => exact h e

/-! ## The single pass -/

/-- The induction follows the single pass, whose cases are those of reading. -/
theorem scan_eq_denoteRead (referencedBy : String) (cs : List Char) (b : Builder) :
    b.scan referencedBy cs = b.denoteRead referencedBy (parseChars cs) := by
  fun_induction scan referencedBy cs b with
  | case1 cs core refuse hempty =>
    rw [parseChars_eq, if_pos hempty]
    rfl
  | case2 cs core hne element hbefore _ ih =>
    rw [ih, ← denoteRead_container denote_list, parseChars_eq cs, if_neg hne, hbefore]
  | case3 cs core hne hbefore element hlist _ ih =>
    rw [ih, ← denoteRead_container denote_list, parseChars_eq cs, if_neg hne, hbefore, hlist]
  | case4 cs core refuse hne hbefore hlist args hmap hsplit =>
    rw [parseChars_eq, if_neg hne, hbefore, hlist, hmap]
    simp only [hsplit]
    rfl
  | case5 cs core hne hbefore hlist args hmap key value hsplit _ hkey ih =>
    rw [ih, ← denoteRead_container denote_map, parseChars_eq cs, if_neg hne, hbefore, hlist, hmap]
    simp only [hsplit, if_pos hkey]
  | case6 cs core refuse hne hbefore hlist args hmap key value hsplit _ hkey =>
    rw [parseChars_eq, if_neg hne, hbefore, hlist, hmap]
    simp only [hsplit, if_neg hkey]
    rfl
  | case7 cs core refuse hne hbefore hlist hmap hreserved =>
    rw [parseChars_eq, if_neg hne, hbefore, hlist, hmap]
    dsimp only
    rw [if_pos hreserved]
    rfl
  | case8 cs core hne hbefore hlist hmap hreserved t ht =>
    rw [parseChars_eq, if_neg hne, hbefore, hlist, hmap]
    dsimp only
    rw [if_neg hreserved, denoteRead, denote, ht]
  | case9 cs core hne hbefore hlist hmap hreserved ht =>
    rw [parseChars_eq, if_neg hne, hbefore, hlist, hmap]
    dsimp only
    rw [if_neg hreserved, denoteRead, denote, ht]

/-- Whether an expression is read first or not makes no difference, neither to the type or the error
nor to the builder after it. -/
theorem typeOf_eq_scan (b : Builder) (expr referencedBy : String) :
    b.typeOf expr referencedBy = b.scan referencedBy expr.toList := by
  rw [scan_eq_denoteRead]
  rfl

/-- No list and no map is made before the last thing that can fail. -/
theorem scan_of_error {cs : List Char} {x : SchemaError}
    (h : (b.scan referencedBy cs).1 = .error x) : (b.scan referencedBy cs).2 = b := by
  have htext : b.scan referencedBy cs = b.typeOf (String.ofList cs) referencedBy := by
    rw [typeOf_eq_scan, String.toList_ofList]
  rw [htext] at h ⊢
  exact typeOf_of_error h

end TypedYaml.Builder
