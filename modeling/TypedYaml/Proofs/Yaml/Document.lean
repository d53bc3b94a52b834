import TypedYaml.Proofs.Entries
import TypedYaml.Proofs.Node.Concrete
import TypedYaml.Proofs.Text.Integer
import TypedYaml.Yaml.Document

/-!
# Converted documents

A value can have keys of several kinds, and its document tree has texts. So an entry whose key is a
scalar has a place in the tree under the text of its key. Two different keys can have one text, as
the integer and the string `1`, and then they share a place. At least one of them is a string or a
real, since other scalars are what their texts stand for.

* `Value.scalarEntries`: the entries of a mapping under the texts of their keys.
* `Value.ofPlain_of_keyText?`: keys that are known from their texts.
* `Value.nodup_keyTexts_of_kind`: mappings whose keys have different texts.
* `Value.Holds`: what stands at a path of a value.
* `Value.toNode_mapping`: mappings at any path of a converted value.
-/

namespace TypedYaml.Yaml.Value

/-! ## Keys -/

/-- The values that are known by a text of their own. -/
def isText : Value → Bool
  | .string _ | .real _ => true
  | _ => false

/-- No other form of an integer is a decimal form that is written. -/
theorem intOf?_ofInt (i : Int64) : intOf? (String.ofList (Text.ofInt i.toInt)) = some i := by
  have hread := Text.int64?_ofInt i
  rw [intOf?, String.toList_ofList]
  split
  · next digits h => exact absurd ((Text.ofInt_eq_cons h).2 'x' List.mem_cons_self) (by decide)
  · next digits h => exact absurd ((Text.ofInt_eq_cons h).2 'o' List.mem_cons_self) (by decide)
  · next digits h => exact absurd (Text.ofInt_eq_cons h).1 (by decide)
  · exact hread

theorem ofPlain_of_intOf? {text : String} {i : Int64} (h : intOf? text = some i) :
    ofPlain text = .int i := by
  have hnull : ¬(text = "" ∨ text = "~" ∨ text = "null") := by
    rintro (rfl | rfl | rfl) <;> cases h
  rw [ofPlain, if_neg hnull, h]

/-- A key that is neither a string nor a real is what its text stands for. -/
theorem ofPlain_of_keyText? {k : Value} {text : String} (hk : k.isText = false)
    (h : k.keyText? = some text) : ofPlain text = k := by
  cases k with
  | null =>
    cases h
    rfl
  | bool b =>
    cases h
    cases b <;> rfl
  | int i =>
    cases h
    exact ofPlain_of_intOf? (intOf?_ofInt i)
  | string s | real s => cases hk
  | sequence items | mapping entries | none => cases h

/-- Of different keys with one text, at least one is a string or a real. -/
theorem same_of_keyText?_eq {k l : Value} {text : String} (hk : k.isText = false)
    (hl : l.isText = false) (hktext : k.keyText? = some text) (hltext : l.keyText? = some text) :
    same k l := by
  rw [← ofPlain_of_keyText? hk hktext, ofPlain_of_keyText? hl hltext]
  cases l with
  | null => rfl
  | bool b | int i => exact BEq.rfl
  | string s | real s => cases hl
  | sequence items | mapping entries | none => cases hltext

/-! ## Entries -/

/-- The entries whose keys are scalars, under the texts of their keys. -/
def scalarEntries (entries : List (Value × Value)) : List (String × Value) :=
  entries.filterMap fun e => e.1.keyText?.map fun key => (key, e.2)

/-- The texts of the keys that are scalars. -/
def keyTexts (entries : List (Value × Value)) : List String := (scalarEntries entries).map Prod.fst

theorem toNodes_eq (items : List Value) : toNodes items = items.map toNode := by
  induction items with
  | nil => rfl
  | cons v items ih => rw [toNodes, ih, List.map_cons]

theorem toEntries_eq (entries : List (Value × Value)) :
    toEntries entries = (scalarEntries entries).map fun e => (e.1, e.2.toNode) := by
  induction entries with
  | nil => rfl
  | cons e entries ih =>
    rw [toEntries, ih, scalarEntries, scalarEntries, List.filterMap_cons]
    cases e.1.keyText? <;> rfl

theorem map_fst_toEntries (entries : List (Value × Value)) :
    (toEntries entries).map Prod.fst = keyTexts entries := by
  rw [toEntries_eq, List.map_map]
  rfl

/-- Of the entries with one text the last is kept. -/
theorem lookup_ofList_toEntries (entries : List (Value × Value)) (key : String) :
    (Entries.ofList (toEntries entries)).lookup key =
      ((scalarEntries entries).reverse.lookup key).map toNode := by
  rw [Entries.lookup_ofList, toEntries_eq, ← List.map_reverse, Entries.lookup_map]

theorem keyTexts_eq (entries : List (Value × Value)) :
    keyTexts entries = entries.filterMap fun e => e.1.keyText? := by
  rw [keyTexts, scalarEntries, List.map_filterMap]
  simp only [Option.map_map, Function.comp_def, Option.map_id']

/-- No text comes twice if keys with one text are the same, since no key comes twice. -/
theorem nodup_keyTexts {entries : List (Value × Value)} (hkeys : hasDuplicate entries = false)
    (hsame : ∀ e ∈ entries, ∀ f ∈ entries, ∀ text, e.1.keyText? = some text →
      f.1.keyText? = some text → same e.1 f.1) : (keyTexts entries).Nodup := by
  induction entries with
  | nil => exact List.nodup_nil
  | cons e entries ih =>
    rw [hasDuplicate, Bool.or_eq_false_iff, List.any_eq_false] at hkeys
    have hrest := ih hkeys.2 fun f hf g hg =>
      hsame f (List.mem_cons_of_mem e hf) g (List.mem_cons_of_mem e hg)
    rw [keyTexts_eq] at hrest ⊢
    cases htext : e.1.keyText? with
    | none => simpa only [List.filterMap_cons, htext] using hrest
    | some text =>
      simp only [List.filterMap_cons, htext, List.nodup_cons]
      refine ⟨fun hmem => ?_, hrest⟩
      obtain ⟨f, hf, hftext⟩ := List.mem_filterMap.mp hmem
      exact hkeys.1 f hf
        (hsame e List.mem_cons_self f (List.mem_cons_of_mem e hf) text htext hftext)

/-- No text comes twice if all keys are strings, or if none of them is a string or a real. -/
theorem nodup_keyTexts_of_kind {entries : List (Value × Value)}
    (hkeys : hasDuplicate entries = false)
    (hkind : (∀ e ∈ entries, ∃ s, e.1 = .string s) ∨ ∀ e ∈ entries, e.1.isText = false) :
    (keyTexts entries).Nodup := by
  refine nodup_keyTexts hkeys fun e he f hf text hetext hftext => ?_
  rcases hkind with hstring | hplain
  · obtain ⟨s, hs⟩ := hstring e he
    obtain ⟨s', hs'⟩ := hstring f hf
    rw [hs] at hetext ⊢
    rw [hs'] at hftext ⊢
    cases hetext
    cases hftext
    exact BEq.rfl
  · exact same_of_keyText?_eq (hplain e he) (hplain f hf) hetext hftext

/-! ## Paths -/

/-- What stands at a path of a value. A key leads to the last entry with its text. -/
inductive Holds : Value → Path → Value → Prop
  | here (v : Value) : Holds v [] v
  | item {items : List Value} {i : Nat} {v w : Value} {p : Path}
      (hlength : items.length < 2 ^ 63) (hi : items[i]? = some v) (h : Holds v p w) :
      Holds (.sequence items) (.index (Int64.ofNat i) :: p) w
  | entry {entries : List (Value × Value)} {key : String} {v w : Value} {p : Path}
      (hkey : (scalarEntries entries).reverse.lookup key = some v) (h : Holds v p w) :
      Holds (.mapping entries) (.key key :: p) w

/-- At a path of the tree stands the conversion of what stands at this path of the value. -/
theorem Holds.traverse {tree v : Value} {p : Path} (h : tree.Holds p v) :
    Node.descent.traverse [tree.toNode] p = .ok [v.toNode] := by
  induction h with
  | here v => rfl
  | @item items i v w p hlength hi h ih =>
    have hstep : Node.descent (toNode (.sequence items)) (.index (Int64.ofNat i)) =
        .ok [v.toNode] := by
      have hi' : (items.map toNode)[i]? = some v.toNode := by
        rw [List.getElem?_map, hi]
        rfl
      have helement := Node.element?_ofNat (by rwa [List.length_map]) hi'
      rw [toNode, toNodes_eq, Node.descent, Node.descendItems, helement]
    rw [Node.traverse_cons_of_descent p hstep, ih]
    rfl
  | @entry entries key v w p hkey h ih =>
    have hstep : Node.descent (toNode (.mapping entries)) (.key key) = .ok [v.toNode] := by
      rw [toNode, Node.descent, Node.descendEntries, lookup_ofList_toEntries, hkey]
      rfl
    rw [Node.traverse_cons_of_descent p hstep, ih]
    rfl

/-! ## Mappings -/

/-- Where a mapping stands in a value, its conversion stands in the tree. It has one entry for every
text of a scalar key, in the order in which the texts come, with the conversion of the last value
under that text. So no entry with a scalar key is lost if these keys have different texts. -/
theorem toNode_mapping {tree : Value} {p : Path} {entries : List (Value × Value)}
    (h : tree.Holds p (.mapping entries)) :
    ∃ converted : List (String × Node),
      Node.descent.traverse [tree.toNode] p = .ok [.mapping converted] ∧
      converted.map Prod.fst = (keyTexts entries).eraseDups ∧
      (∀ key, (Node.mapping converted).get? key =
        ((scalarEntries entries).reverse.lookup key).map toNode) ∧
      (Node.mapping converted).children.length = (keyTexts entries).eraseDups.length ∧
      ((keyTexts entries).Nodup →
        converted = (scalarEntries entries).map (fun e => (e.1, e.2.toNode)) ∧
        (∀ e ∈ scalarEntries entries, (Node.mapping converted).get? e.1 = some e.2.toNode) ∧
        (Node.mapping converted).children.length = (scalarEntries entries).length) := by
  have hkeys : (Entries.ofList (toEntries entries)).map Prod.fst = (keyTexts entries).eraseDups := by
    rw [Entries.keys_ofList, map_fst_toEntries]
  refine ⟨Entries.ofList (toEntries entries), h.traverse, hkeys,
    lookup_ofList_toEntries entries, ?_, fun hnodup => ?_⟩
  · rw [← hkeys, Node.children, List.length_map, List.length_map]
  · have hall : Entries.ofList (toEntries entries) =
        (scalarEntries entries).map fun e => (e.1, e.2.toNode) := by
      rw [Entries.ofList_of_nodup ((map_fst_toEntries entries).symm ▸ hnodup), toEntries_eq]
    refine ⟨hall, fun e he => ?_, ?_⟩
    · rw [hall, Node.get?, Entries.lookup_map, lookup_of_mem hnodup he]
      rfl
    · rw [hall, Node.children, List.length_map, List.length_map]

theorem toNode_mapping_ports :
    let ports : List (Value × Value) :=
      [(.int 80, .string "http"), (.sequence [], .null), (.bool true, .null),
        (.string "80", .string "again")]
    let server : List (Value × Value) := [(.null, .null), (.string "ports", .mapping ports)]
    let tree : Value := .sequence [.mapping server]
    let first : Segment := .index 0
    (tree.Holds [first] (.mapping server) ∧ (keyTexts server).Nodup ∧
      ∃ converted, Node.descent.traverse [tree.toNode] [first] = .ok [.mapping converted] ∧
        (Node.mapping converted).get? "null" = some .null ∧
        (Node.mapping converted).children.length = 2) ∧
    tree.Holds [first, .key "ports"] (.mapping ports) ∧
      ∃ converted,
        Node.descent.traverse [tree.toNode] [first, .key "ports"] = .ok [.mapping converted] ∧
        converted.map Prod.fst = ["80", "true"] ∧
        (Node.mapping converted).get? "80" = some (.string "again") := by
  intro ports server tree first
  have hserver : tree.Holds [first] (.mapping server) := .item (by decide) rfl (.here _)
  have hports : tree.Holds [first, .key "ports"] (.mapping ports) :=
    .item (by decide) rfl (.entry rfl (.here _))
  have htexts : keyTexts server = ["null", "ports"] := rfl
  have hnodup : (keyTexts server).Nodup := by
    rw [htexts]
    decide
  refine ⟨⟨hserver, hnodup, ?_⟩, hports, ?_⟩
  · obtain ⟨converted, htraverse, -, -, -, hall⟩ := toNode_mapping hserver
    obtain ⟨-, hget, hcount⟩ := hall hnodup
    exact ⟨converted, htraverse, hget ("null", .null) List.mem_cons_self, hcount⟩
  · obtain ⟨converted, htraverse, hkeys, hget, -⟩ := toNode_mapping hports
    exact ⟨converted, htraverse, hkeys, hget "80"⟩

/-- The integer and the string `1` are different keys with one text. -/
theorem toNode_mapping_shared :
    let entries : List (Value × Value) := [(.int 1, .string "a"), (.string "1", .string "b")]
    let n := (mapping entries).toNode
    hasDuplicate entries = false ∧
      scalarEntries entries = [("1", .string "a"), ("1", .string "b")] ∧
      n.get? "1" ≠ some (toNode (.string "a")) ∧
      n.children.length ≠ (scalarEntries entries).length := by
  intro entries n
  have hget : n.get? "1" = some (.string "b") := rfl
  refine ⟨rfl, rfl, ?_, by decide⟩
  rw [hget]
  simp [toNode]

end TypedYaml.Yaml.Value
