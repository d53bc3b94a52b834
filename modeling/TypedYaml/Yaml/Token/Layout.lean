import TypedYaml.Yaml.Token.Cursor

/-!
# Indentation and implicit keys

Indentation opens and closes blocks. That a mapping key was read shows only at the colon after
it, so the places where a key may have started are remembered until then.

* `Lexer.push`, `insertAt`: new tokens, at the end or before a remembered one.
* `Lexer.indentTo`, `dedentTo`: opening and closing blocks.
* `Lexer.saveKey`, `dropKey`, `expireKeys`: remembering places.
-/

namespace TypedYaml.Yaml.Lexer

/-- Adds a token at the end. -/
def push (t : Token) (column : Nat) : Lexer Unit :=
  modify fun s => { s with tokens := s.tokens.push (t, column) }

/-- Adds a token before the one with the given number. -/
def insertAt (i : Nat) (t : Token) (column : Nat) : Lexer Unit :=
  modify fun s => { s with tokens := s.tokens.insertIdxIfInBounds i (t, column) }

/-- From here on a key may start, or may not. -/
def allowKey (allowed : Bool) : Lexer Unit := modify fun s => { s with keyAllowed := allowed }

/-! ## Indentation -/

/-- Opens a block at a column further in, its token standing before the given one if there is
one. A temporary indentation gives way to it. -/
def indentTo (column : Nat) (before : Option Nat) (t : Token) : Lexer Unit := do
  let s ← get
  if s.flowLevel > 0 then return
  let s :=
    match s.outerIndents with
    | outer :: more =>
      if s.indent ≤ (column : Int) ∧ !outer.endsBlock then
        { s with indent := outer.indent, outerIndents := more }
      else s
    | [] => s
  if s.indent < (column : Int) then
    set { s with indent := (column : Int), outerIndents := ⟨s.indent, true⟩ :: s.outerIndents }
    match before with
    | some i => insertAt i t column
    | none => push t column
  else set s

/-- Leaves the indentations that are further in than a column. The tokens that end blocks stand in
the column `at'`. -/
def closeIndents (column : Int) (at' : Nat) : Int → List OuterIndent → Array (Token × Nat) →
    Int × List OuterIndent × Array (Token × Nat)
  | indent, [], tokens => (indent, [], tokens)
  | indent, outer :: more, tokens =>
    if column < indent then
      closeIndents column at' outer.indent more
        (if outer.endsBlock then tokens.push (.blockEnd, at') else tokens)
    else (indent, outer :: more, tokens)

/-- Closes the blocks that are further in than a column. -/
def dedentTo (column : Int) : Lexer Unit :=
  modify fun s =>
    if s.flowLevel > 0 then s
    else
      let (indent, outer, tokens) :=
        closeIndents column s.cursor.column s.indent s.outerIndents s.tokens
      { s with indent := indent, outerIndents := outer, tokens := tokens }

/-- What follows must be further in than the block, by one column at least. -/
def indentTemporarily : Lexer Unit :=
  modify fun s =>
    if s.flowLevel = 0 ∧ s.outerIndents.head?.any (·.endsBlock) then
      { s with indent := s.indent + 1, outerIndents := ⟨s.indent, false⟩ :: s.outerIndents }
    else s

/-- The indentation without the temporary ones. -/
def blockIndent (indent : Int) : List OuterIndent → Int × List OuterIndent
  | [] => (indent, [])
  | outer :: more =>
    if outer.endsBlock then (indent, outer :: more) else blockIndent outer.indent more

/-- Leaves the temporary indentations only. -/
def dropTemporaryIndents : Lexer Unit :=
  modify fun s =>
    let (indent, outer) := blockIndent s.indent s.outerIndents
    { s with indent := indent, outerIndents := outer }

/-! ## Keys -/

/-- Replaces the pending key of the innermost collection. -/
def setKey (k : PendingKey) : Lexer Unit := modify fun s => { s with keys := k :: s.keys.drop 1 }

/-- The pending key of the innermost collection. -/
def currentKey : Lexer PendingKey := do return (← get).keys.headD .none

/-- The current place is no key. -/
def dropKey : Lexer Unit := do
  let k ← currentKey
  failIf (k.possible && k.required) .keyWithoutValue
  setKey { k with possible := false }

/-- A key may start here. -/
def saveKey : Lexer Unit := do
  let s ← get
  if s.keyAllowed then
    let atIndent := s.flowLevel == 0 && s.indent == (s.cursor.column : Int)
    let required :=
      match s.edition with
      | .v11 => atIndent
      | .v12 => atIndent && s.outerIndents.head?.any (·.endsBlock)
    if s.edition = .v11 then dropKey
    setKey ⟨true, required, s.tokens.size, s.cursor.index, s.cursor.line, s.cursor.column⟩

/-- A key stands on one line and is not too long; by YAML 1.2 this holds of blocks only. -/
def expireKeys : Lexer Unit := do
  let s ← get
  let applies := s.edition = .v11 ∨ s.flowLevel = 0
  let expired (k : PendingKey) : Bool :=
    applies && k.possible && (k.line < s.cursor.line || k.index + 1024 < s.cursor.index)
  failIf (s.keys.any fun k => expired k && k.required) .keyWithoutValue
  set { s with keys := s.keys.map fun k => if expired k then { k with possible := false } else k }

end TypedYaml.Yaml.Lexer
