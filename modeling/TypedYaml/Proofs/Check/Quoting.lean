import TypedYaml.Proofs.Check.Locality
import TypedYaml.Proofs.Decimal.Writing

/-!
# Quoted scalars

A number or a truth value may as well be written as a text. The check then reads the text where it
looked at the value before, and comes to the same result: a number that is written is an integer if
it was one before, and in any case a float (`accepts_quoted`). Where a list is expected, the text
could be one of several elements, but it has no commas and is a list of one element
(`checkShorthand_quoted`). So the same is reported about a document in which all scalars are quoted.
Only the messages that say what was found in the place of a mapping or a list name a string then.

* `Node.quoted`: a document with texts in the place of its numbers and truth values.
* `Diagnostic.withoutFound`: a diagnostic up to what was found.
* `validate_quoted`: the reports about both documents.
-/

namespace TypedYaml

namespace Node

mutual

/-- The node with texts in the place of its numbers and truth values. -/
def quoted : Node → Node
  | .bool b => .string (boolText b)
  | .number n => .string n.text
  | .sequence items => .sequence (quotedItems items)
  | .mapping entries => .mapping (quotedEntries entries)
  | .stream documents => .stream (quotedItems documents)
  | node => node

/-- The items of a sequence or the documents of a stream. -/
def quotedItems : List Node → List Node
  | [] => []
  | node :: rest => node.quoted :: quotedItems rest

/-- The entries of a mapping, whose keys are texts anyway. -/
def quotedEntries : List (String × Node) → List (String × Node)
  | [] => []
  | (key, node) :: rest => (key, node.quoted) :: quotedEntries rest

end

theorem scalarText?_quoted (n : Node) : n.quoted.scalarText? = n.scalarText? := by
  cases n <;> simp [quoted, scalarText?]

theorem isScalar_quoted (n : Node) : n.quoted.isScalar = n.isScalar := by
  cases n <;> simp [quoted, isScalar, isMapping, isSequence]

theorem kindName_quoted {n : Node} (h : n.scalarText? = none) :
    n.quoted.kindName = n.kindName := by
  cases n with
  | null | bool | number | string => cases h
  | sequence | mapping | stream => rfl

end Node

/-- What was found in the place of a mapping or a list is left out. -/
def Problem.withoutFound : Problem → Problem
  | .expectedMap typeName _ => .expectedMap typeName ""
  | .expectedSequence typeName _ => .expectedSequence typeName ""
  | problem => problem

/-- A diagnostic that does not say what was found in the place of a mapping or a list. -/
def Diagnostic.withoutFound (d : Diagnostic) : Diagnostic :=
  { d with problem := d.problem.withoutFound }

open Diagnostic

theorem map_withoutFound_under (ds : List Diagnostic) (s : Segment) :
    (ds.map (.under s)).map withoutFound = (ds.map withoutFound).map (.under s) := by
  rw [List.map_map, List.map_map]
  rfl

namespace Registry

variable {r : Registry} {o : CheckOptions}

/-! ## Scalars -/

theorem isInteger_quoted (n : Node) : isInteger n.quoted = isInteger n := by
  cases n with
  | number n =>
    simp only [Node.quoted, isInteger, Node.scalarText?, Option.bind_some, n.toList_text,
      n.trim_chars, n.isSome_int64?]
  | _ => simp [Node.quoted, isInteger, Node.scalarText?]

theorem isFloat_quoted (n : Node) : isFloat n.quoted = isFloat n := by
  cases n with
  | number n =>
    simp only [Node.quoted, isFloat, Node.scalarText?, Option.bind_some, n.toList_text,
      n.trim_chars, n.isSome_read?]
  | _ => simp [Node.quoted, isFloat, Node.scalarText?]

theorem accepts_quoted (t : TypeId) (n : Node) (text : String) :
    r.accepts t n.quoted text = r.accepts t n text := by
  simp only [accepts, isInteger_quoted, isFloat_quoted]

theorem checkScalar_quoted (t : TypeId) (n : Node) :
    r.checkScalar t n.quoted = r.checkScalar t n := by
  unfold checkScalar
  rw [n.scalarText?_quoted]
  cases h : n.scalarText? with
  | some text => simp only [accepts_quoted]
  | none => simp only [Node.kindName_quoted h]

/-! ## Lists written as one scalar -/

theorem splitList_of_plain {text : String}
    (h : ∀ c ∈ text.toList, Text.isWhitespace c = false ∧ c ≠ ',') : splitList text = [text] := by
  have hcommas : text.toList.splitOn ',' = [text.toList] := by
    rw [List.splitOn_eq_splitOnP]
    exact List.splitOnP_eq_singleton fun c hc => by simp [(h c hc).2]
  rw [splitList, hcommas, List.map_singleton, Text.trim_eq_self fun c hc => (h c hc).1,
    String.ofList_toList]

theorem splitList_boolText (b : Bool) : splitList (Node.boolText b) = [Node.boolText b] := by
  cases b <;> rfl

theorem splitList_number (n : Number) : splitList n.text = [n.text] :=
  splitList_of_plain (n.toList_text ▸ n.plain_chars)

/-- A list of one element may be written like the element. -/
theorem checkParts_quoted (element : TypeId) {n : Node} {text : String}
    (hn : n.quoted = .string text) (htext : splitList text = [text]) :
    r.checkParts element (splitList text) =
      (r.checkScalar element n).map (.under (indexSegment 0)) := by
  rw [htext, ← checkScalar_quoted, hn]
  exact List.append_nil _

theorem checkShorthand_quoted (t element : TypeId) (n : Node) :
    (r.checkShorthand t element n.quoted).map withoutFound =
      (r.checkShorthand t element n).map withoutFound := by
  unfold checkShorthand
  rw [n.isScalar_quoted]
  by_cases h : (r.isAtomic element && n.isScalar) = true
  · rw [if_pos h, if_pos h]
    cases n with
    | null | string => rfl
    | bool b => exact congrArg _ (checkParts_quoted element rfl (splitList_boolText b))
    | number n => exact congrArg _ (checkParts_quoted element rfl (splitList_number n))
    | sequence | mapping | stream => cases (Bool.and_eq_true_iff.mp h).2
  · rw [if_neg h, if_neg h]
    rfl

/-! ## Documents -/

/-- The diagnostics of a node that has no children to go on to. -/
def checkLeaf (r : Registry) (t : TypeId) (n : Node) : List Diagnostic :=
  match r.kind t with
  | .unknown => []
  | .atomic => r.checkScalar t n
  | .sequence element => r.checkShorthand t element n
  | .bean | .map _ => [⟨[], .expectedMap (r.typeName t) n.kindName⟩]

theorem checkLeaf_quoted (t : TypeId) (n : Node) :
    (r.checkLeaf t n.quoted).map withoutFound = (r.checkLeaf t n).map withoutFound := by
  unfold checkLeaf
  cases r.kind t with
  | unknown => rfl
  | atomic => exact congrArg _ (checkScalar_quoted t n)
  | sequence element => exact checkShorthand_quoted t element n
  | bean | map value => rfl

mutual

theorem check_quoted (t : TypeId) : ∀ n : Node,
    (r.check o t n.quoted).map withoutFound = (r.check o t n).map withoutFound
  | .null => rfl
  | .bool b => checkLeaf_quoted t (.bool b)
  | .number n => checkLeaf_quoted t (.number n)
  | .string text => checkLeaf_quoted t (.string text)
  | .stream documents => checkLeaf_quoted t (.stream documents)
  | .sequence items => by
    simp only [Node.quoted, check]
    cases r.kind t with
    | sequence element => exact checkItems_quoted element 0 items
    | unknown | atomic | bean | map value => rfl
  | .mapping entries => by
    simp only [Node.quoted, check]
    cases r.kind t with
    | bean | map value => exact checkEntries_quoted t entries
    | unknown | atomic | sequence element => rfl

theorem checkItems_quoted (element : TypeId) (i : Nat) : ∀ items : List Node,
    (r.checkItems o element i (Node.quotedItems items)).map withoutFound =
      (r.checkItems o element i items).map withoutFound
  | [] => rfl
  | node :: rest => by
    have hnode := check_quoted element node
    have hrest := checkItems_quoted element (i + 1) rest
    simp only [Node.quotedItems, checkItems, List.map_append, map_withoutFound_under, hnode, hrest]

theorem checkEntries_quoted (t : TypeId) : ∀ entries : List (String × Node),
    (r.checkEntries o t (Node.quotedEntries entries)).map withoutFound =
      (r.checkEntries o t entries).map withoutFound
  | [] => rfl
  | (key, node) :: rest => by
    have hnode := fun u => check_quoted u node
    have hentry := checkEntry_congr (fun _ _ => List.map_append) hnode t key
    have hrest := checkEntries_quoted t rest
    simp only [Node.quotedEntries, checkEntries_cons, List.map_append, map_withoutFound_under,
      hentry, hrest]

end

end Registry

/-- The same is reported about a document and about that in which all numbers and truth values are
quoted, up to what is said to be found in the place of a mapping or a list. -/
theorem validate_quoted (r : Registry) (o : CheckOptions) (root : TypeId) (doc : Node) :
    (r.validate o root doc.quoted).map withoutFound =
      (r.validate o root doc).map withoutFound := by
  cases doc with
  | stream documents => exact Registry.checkItems_quoted root 0 documents
  | _ => exact Registry.check_quoted root _

/-- The messages differ where a mapping is expected. -/
example :
    let r := (Builder.new.bean "Config").2.build
    let port : Node := .number (.int 80)
    r.validate ⟨true⟩ ⟨5⟩ port = [⟨[], .expectedMap "Config" "number"⟩] ∧
      r.validate ⟨true⟩ ⟨5⟩ port.quoted = [⟨[], .expectedMap "Config" "string"⟩] := by
  decide

end TypedYaml
