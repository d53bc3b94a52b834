import TypedYaml.Yaml.Token.Property
import TypedYaml.Yaml.Token.Scalar

/-!
# From text to tokens

* `Lexer.skipBetween`: blanks, breaks and comments between tokens.
* `Lexer.next`: the next token, with the tokens that indentation and implicit keys add.
* `Token.ofText`: all tokens of a text.
-/

namespace TypedYaml.Yaml

namespace Lexer

/-! ## Between tokens -/

/-- A new line, on which a key may start unless a flow collection is open. -/
def skipBreak : Lexer Unit := do
  let _ ← takeBreak
  if (← flowLevel) = 0 then allowKey true

/-- Tabs are no indentation. By YAML 1.1 they may not stand where a key may start; by YAML 1.2
not left of the indentation of a block, unless the line is empty. -/
def skipBetween : Nat → Lexer Unit
  | 0 => return
  | fuel + 1 => do
    let s ← get
    match s.cursor.rest with
    | [] => return
    | c :: _ =>
      if c = ' ' then
        advance 1
        skipBetween fuel
      else if c = '\t' then
        match s.edition with
        | .v11 =>
          if s.flowLevel = 0 ∧ s.keyAllowed then return
          advance 1
          skipBetween fuel
        | .v12 =>
          if !s.outerIndents.isEmpty && s.atLineStart && s.cursor.column < s.indent then
            let _ ← skipToLineEnd true
            failIf (!atBreakOrEnd s.edition (← peek)) .tab
          else advance 1
          skipBetween fuel
      else if c = '#' then
        skipComment
        skipBetween fuel
      else if isBreak s.edition c then
        skipBreak
        skipBetween fuel
      else if c = '\uFEFF' ∧ s.edition = .v11 ∧ s.cursor.index = 0 then
        advance 1
        skipBetween fuel
      else return

/-- Blanks after the question mark of a key, at least one by YAML 1.2, and none of them a tab. -/
def skipAfterKeyMark : Nat → Bool → Lexer Unit
  | 0, _ => return
  | fuel + 1, found => do
    let s ← get
    match s.cursor.rest with
    | ' ' :: _ =>
      advance 1
      skipAfterKeyMark fuel true
    | '#' :: _ =>
      skipComment
      skipAfterKeyMark fuel found
    | c :: _ =>
      if isBreak s.edition c then
        skipBreak
        skipAfterKeyMark fuel true
      else failIf (!found || c == '\t') .tab
    | [] => failIf (!found) .tab

/-- What YAML 1.2 demands after most tokens: a comment is separated by a blank. -/
def skipAfterToken : Lexer Unit := do
  if (← get).edition = .v12 then
    let _ ← skipToLineEnd true

/-! ## Documents -/

/-- Three equal characters, which end all blocks. -/
def documentMarker (t : Token) : Lexer Unit := do
  dedentTo (-1)
  dropKey
  allowKey false
  let column ← column
  take 3
  push t column

/-- The end mark of a document. By YAML 1.2 nothing but a comment follows on its line. -/
def documentEnd : Lexer Unit := do
  documentMarker .documentEnd
  if (← get).edition = .v12 then
    let _ ← skipToLineEnd true
    failIf (!atBreakOrEnd .v12 (← peek)) .trailingContent

/-- A directive with its line. -/
def directiveLine : Lexer Unit := do
  dedentTo (-1)
  dropKey
  allowKey false
  push (← directive) 0

/-- The end of the text. -/
def streamEnd : Lexer Unit := do
  dedentTo (-1)
  failIf ((← get).keys.any fun k => k.possible && k.required) .keyWithoutValue
  push .streamEnd (← column)

/-! ## Flow collections -/

/-- An opening bracket or brace. A flow collection can be a key. -/
def flowStart (t : Token) : Lexer Unit := do
  saveKey
  let s ← get
  if s.edition = .v12 then
    indentTemporarily
    failIf (s.flowLevel ≥ 255) .nesting
  modify fun s => { s with keys := .none :: s.keys }
  allowKey true
  take 1
  if t = .flowMappingStart then modify fun s => { s with flowMappingStarted := true }
  else modify fun s => { s with bareMappings := false :: s.bareMappings }
  skipAfterToken
  push t s.cursor.column

/-- Ends a mapping without braces, which a flow sequence may hold. -/
def endBareMapping : Lexer Unit := do
  let s ← get
  match s.bareMappings with
  | true :: more =>
    set { s with flowMappingStarted := false, bareMappings := false :: more }
    push .flowMappingEnd s.cursor.column
  | _ => return

/-- A closing bracket or brace. -/
def flowEnd (t : Token) : Lexer Unit := do
  dropKey
  modify fun s => if s.flowLevel > 0 then { s with keys := s.keys.drop 1 } else s
  allowKey false
  if t = .flowSequenceEnd then
    endBareMapping
    modify fun s => { s with bareMappings := s.bareMappings.drop 1 }
  let column ← column
  take 1
  skipAfterToken
  modify fun s => if s.flowLevel > 0 then { s with adjacentValue := s.cursor.index } else s
  push t column

/-- A comma. -/
def flowEntry : Lexer Unit := do
  dropKey
  allowKey true
  endBareMapping
  let column ← column
  take 1
  skipAfterToken
  push .flowEntry column

/-! ## Entries, keys and values -/

/-- An anchor or tag in the first column is not followed by an entry in the first column. -/
def propertyBefore : Lexer Bool := do
  let s ← get
  return s.tokens.back?.any fun (t, column) =>
    t.isProperty && column == 0 && s.cursor.column == 0 && s.indent > -1

/-- A hyphen, which may open a sequence. -/
def blockEntry : Lexer Unit := do
  let s ← get
  match s.edition with
  | .v11 =>
    if s.flowLevel = 0 then
      failIf (!s.keyAllowed) .misplacedEntry
      indentTo s.cursor.column none .blockSequenceStart
    dropKey
    allowKey true
    take 1
  | .v12 =>
    failIf (s.flowLevel > 0 || !s.keyAllowed) .misplacedEntry
    failIf (← propertyBefore) .indentation
    take 1
    indentTo s.cursor.column none .blockSequenceStart
    let (tabs, _) ← skipToLineEnd true
    failIf (tabs && (← peek) == some '-' && atBlankOrEnd .v12 (← ahead 1)) .tab
    let _ ← skipToLineEnd false
    if (← peek).any fun c => isBreak .v12 c || isFlow c then indentTemporarily
    dropKey
    allowKey true
  push .blockEntry s.cursor.column

/-- A question mark, which may open a mapping. -/
def keyMark : Lexer Unit := do
  let s ← get
  if s.flowLevel = 0 then
    failIf (!s.keyAllowed) .misplacedKey
    indentTo s.cursor.column none .blockMappingStart
  else modify fun s => { s with flowMappingStarted := true }
  dropKey
  allowKey (s.flowLevel = 0)
  take 1
  if s.edition = .v12 then skipAfterKeyMark ((← left) + 1) false
  push .key s.cursor.column

/-- A tab may follow the colon, but then no word and no hyphen. -/
def checkAfterColon : Lexer Unit := do
  if (← peek) == some '\t' then
    let (_, spaces) ← skipToLineEnd true
    failIf (!spaces && (← peek).any isWordChar) .tab

/-- The colon shows that a key was read: after the remembered place, or else after a mark. -/
def valueMark : Lexer Unit := do
  let s ← get
  let column := s.cursor.column
  let k ← currentKey
  let bare := s.edition == .v12 && !s.bareMappings.isEmpty && !s.flowMappingStarted
  if bare then modify fun s => { s with bareMappings := true :: s.bareMappings.drop 1 }
  take 1
  if s.edition = .v12 then checkAfterColon
  if k.possible then
    insertAt k.token .key k.column
    if bare then
      failIf (k.line < s.cursor.line) .misplacedValue
      insertAt k.token .flowMappingStart k.column
    indentTo k.column (some k.token) .blockMappingStart
    if s.edition = .v12 then indentTemporarily
    setKey { k with possible := false }
    allowKey false
  else
    if bare then push .flowMappingStart column
    if s.flowLevel = 0 then
      failIf (!s.keyAllowed) .misplacedValue
      indentTo column none .blockMappingStart
    if s.edition = .v12 then indentTemporarily
    allowKey (s.flowLevel = 0)
  push .value column

/-! ## Node properties and scalars -/

/-- An anchor, an alias or a tag. A key can start with it. -/
def nodeProperty (read : Lexer Token) : Lexer Unit := do
  saveKey
  allowKey false
  let column ← column
  push (← read) column

/-- A plain scalar, which can be a key. -/
def plain : Lexer Unit := do
  saveKey
  allowKey false
  let column ← column
  let text ← plainScalar
  push (.scalar .plain (String.ofList text)) column

/-- In a flow mapping a value may follow a quoted key without a blank. -/
def quoted (single : Bool) : Lexer Unit := do
  saveKey
  allowKey false
  let column ← column
  let text ← quotedScalar single
  if (← get).edition = .v12 then
    skipBetween ((← left) + 1)
    modify fun s => { s with adjacentValue := s.cursor.index }
  push (.scalar .quoted (String.ofList text)) column

/-- A block scalar. It is no key by YAML 1.1, and a key may start after it. -/
def block (isLiteral : Bool) : Lexer Unit := do
  match (← get).edition with
  | .v11 => dropKey
  | .v12 => saveKey
  allowKey true
  let column ← column
  let text ← blockScalar isLiteral
  push (.scalar (if isLiteral then .literal else .folded) (String.ofList text)) column

/-! ## All tokens -/

/-- Whether a question mark before the given character marks a key. -/
def isKeyMark (s : LexState) (next : Option Char) : Bool :=
  atBlankOrEnd s.edition next || (s.edition == .v11 && s.flowLevel > 0)

/-- Whether a colon before the given character marks a value. -/
def isValueMark (s : LexState) (next : Option Char) : Bool :=
  atBlankOrEnd s.edition next ||
    (s.flowLevel > 0 &&
      (s.edition == .v11 || next.any isFlow || s.cursor.index == s.adjacentValue))

/-- The token that starts with a given character. -/
def tokenAt (s : LexState) (c : Char) (next : Option Char) : Lexer Unit :=
  let inBlock := s.flowLevel == 0
  match c with
  | '[' => flowStart .flowSequenceStart
  | '\x7b' => flowStart .flowMappingStart
  | ']' => flowEnd .flowSequenceEnd
  | '\x7d' => flowEnd .flowMappingEnd
  | ',' => flowEntry
  | '*' => nodeProperty (do return .alias (← anchorName))
  | '&' => nodeProperty (do return .anchor (← anchorName))
  | '!' => nodeProperty tagToken
  | '\'' => quoted true
  | '"' => quoted false
  | '-' => if atBlankOrEnd s.edition next then blockEntry else plain
  | '?' => if isKeyMark s next then keyMark else plain
  | ':' => if isValueMark s next then valueMark else plain
  | '|' => if inBlock then block true else flowBar
  | '>' => if inBlock then block false else flowBar
  | '%' | '@' | '\x60' | '\t' => fail .unexpectedCharacter
  | _ => plain
where
  /-- The marks of block scalars may start a plain scalar in a flow collection by YAML 1.2. -/
  flowBar : Lexer Unit := if s.edition = .v12 then plain else fail .unexpectedCharacter

/-- Reads one token, and says whether it was the last. -/
def next : Lexer Bool := do
  skipBetween ((← left) + 1)
  expireKeys
  dedentTo (← column)
  let s ← get
  match s.cursor.rest with
  | [] =>
    streamEnd
    return true
  | c :: cs =>
    if s.cursor.column = 0 && c = '%' then directiveLine
    else if s.cursor.column = 0 && (← atMarker '-') then documentMarker .documentStart
    else if s.cursor.column = 0 && (← atMarker '.') then documentEnd
    else
      failIf (s.edition == .v12 && s.cursor.column < s.indent) .indentation
      tokenAt s c cs.head?
    return false

/-- All tokens up to the end, at most `fuel` steps. -/
def all : Nat → Lexer Unit
  | 0 => fail .unexpectedCharacter
  | fuel + 1 => do if !(← next) then all fuel

end Lexer

/-- YAML 1.1 refuses control characters. -/
def isAllowed (c : Char) : Bool :=
  let n := c.toNat
  n == 0x9 || n == 0xA || n == 0xD || (0x20 ≤ n && n ≤ 0x7E) || n == 0x85 ||
    (0xA0 ≤ n && n ≤ 0xFFFD) || 0x10000 ≤ n

/-- All tokens of a text. By YAML 1.2 a text ends at the first null character. -/
def Token.ofText (edition : Edition) (text : String) : Except Fault (List Token) :=
  let cs :=
    match edition with
    | .v11 => text.toList
    | .v12 => text.toList.takeWhile (· != '\x00')
  if edition = .v11 ∧ !cs.all isAllowed then .error .controlCharacter
  else
    ((Lexer.all (cs.length + 2)).run (.start edition cs)).map fun (_, s) =>
      s.tokens.toList.map Prod.fst

end TypedYaml.Yaml
