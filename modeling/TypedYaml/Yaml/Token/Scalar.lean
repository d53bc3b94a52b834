import TypedYaml.Basic
import TypedYaml.Yaml.Token.Layout

/-!
# Scalars

A scalar may run over several lines. Except in a literal block a single break becomes a space,
and of several breaks the first is dropped.

* `Folding`: the text read so far, and the blanks and breaks after it.
* `Lexer.plainScalar`, `quotedScalar`, `blockScalar`: the three kinds.
-/

namespace TypedYaml.Yaml

/-- The parts of a scalar that is being read. The blanks at the end of a line and the breaks
count only once text follows. -/
structure Folding where
  text : List Char
  blanks : List Char
  first : List Char
  more : List Char
  broken : Bool

namespace Folding

/-- Nothing is read so far. -/
def empty : Folding := ⟨[], [], [], [], false⟩

/-- What the breaks between two lines of text amount to. -/
def joint (f : Folding) : List Char :=
  if f.first = ['\n'] then (if f.more.isEmpty then [' '] else f.more) else f.first ++ f.more

/-- The blanks and breaks become part of the text. -/
def settle (f : Folding) : Folding :=
  { empty with text := f.text ++ if f.broken then f.joint else f.blanks }

/-- Adds text to a line. -/
def add (f : Folding) (cs : List Char) : Folding := { f with text := f.text ++ cs }

/-- Adds a blank; those that start a line do not count. -/
def addBlank (f : Folding) (c : Char) : Folding :=
  if f.broken then f else { f with blanks := f.blanks ++ [c] }

/-- Adds a break. The blanks before the first one are lost. -/
def addBreak (f : Folding) (cs : List Char) : Folding :=
  if f.broken then { f with more := f.more ++ cs }
  else { f with blanks := [], first := cs, broken := true }

end Folding

namespace Lexer

/-! ## Plain scalars -/

/-- Whether a character ends a plain scalar. -/
def endsPlain (e : Edition) (inFlow : Bool) (c : Char) (next : Option Char) : Bool :=
  (c == ':' && (atBlankOrEnd e next || (inFlow && e == .v12 && next.any isFlow))) ||
    (inFlow && isFlow c)

/-- In a flow collection of YAML 1.1 a colon before these is an error. -/
def badColon (c : Char) (next : Option Char) : Bool :=
  c == ':' && next.any fun n => isFlow n || n == '?'

/-- The text of a plain scalar up to the first blank or break, or to where the scalar ends. -/
def plainRun (e : Edition) (inFlow : Bool) : List Char → List Char
  | [] => []
  | c :: cs =>
    if isBlankOrBreak e c || endsPlain e inFlow c cs.head? ||
        (inFlow && e == .v11 && badColon c cs.head?) then []
    else c :: plainRun e inFlow cs

/-- The blanks and breaks within a plain scalar. Left of the indentation there are no tabs, but
YAML 1.2 allows them on an empty line. -/
def plainBlanks (indent : Int) : Nat → Folding → Lexer Folding
  | 0, f => return f
  | fuel + 1, f => do
    let s ← get
    match s.cursor.rest with
    | c :: _ =>
      if isBlank c then
        if f.broken && s.cursor.column < indent && c == '\t' then
          failIf (s.edition == .v11) .tab
          let _ ← skipToLineEnd true
          failIf (!atBreakOrEnd s.edition (← peek)) .tab
        else advance 1
        plainBlanks indent fuel (f.addBlank c)
      else if isBreak s.edition c then
        let b ← takeBreak
        plainBlanks indent fuel (f.addBreak b)
      else return f
    | [] => return f

/-- Whether a document marker ends a plain scalar here. -/
def plainMarker : Lexer Bool := do
  let s ← get
  let possible :=
    match s.edition with
    | .v11 => s.cursor.column == 0
    | .v12 => s.atLineStart
  return possible && (← atDocumentMarker)

/-- The text of a plain scalar, run by run. It ends left of the given column. -/
def plainLines (indent : Int) : Nat → Folding → Lexer Folding
  | 0, f => return f
  | fuel + 1, f => do
    if (← plainMarker) || (← peek) == some '#' then return f
    let s ← get
    let inFlow := s.flowLevel > 0
    failIf (inFlow && s.edition == .v12 && (← peek) == some '-' && (← ahead 1).any isFlow)
      .unexpectedCharacter
    let run := plainRun s.edition inFlow s.cursor.rest
    let f := if run.isEmpty then f else f.settle.add run
    if !run.isEmpty then take run.length
    let next ← ahead 1
    failIf (inFlow && s.edition == .v11 && (← peek).any fun c => badColon c next)
      .unexpectedCharacter
    if !(← peek).any (isBlankOrBreak s.edition) then return f
    let f ← plainBlanks indent (← left) f
    if !inFlow && (← column) < indent then return f
    plainLines indent fuel f

/-- A plain scalar. If it ended at a line end, a key may follow. -/
def plainScalar : Lexer (List Char) := do
  if (← get).edition = .v12 then dropTemporaryIndents
  let s ← get
  let indent := s.indent + 1
  failIf (s.edition == .v12 && s.flowLevel > 0 && s.cursor.column < indent) .indentation
  let f ← plainLines indent ((← left) + 1) .empty
  if f.broken then allowKey true
  return f.text

/-! ## Quoted scalars -/

/-- What a character stands for after a backslash. -/
def escapeOf? : Char → Option Char
  | '0' => some '\x00'
  | 'a' => some '\x07'
  | 'b' => some '\x08'
  | 't' | '\t' => some '\t'
  | 'n' => some '\n'
  | 'v' => some '\x0b'
  | 'f' => some '\x0c'
  | 'r' => some '\r'
  | 'e' => some '\x1b'
  | ' ' => some ' '
  | '"' => some '"'
  | '/' => some '/'
  | '\\' => some '\\'
  | 'N' => some '\u0085'
  | '_' => some '\u00a0'
  | 'L' => some '\u2028'
  | 'P' => some '\u2029'
  | _ => none

/-- The number of digits after the letter of a numeric escape. -/
def escapeLength? : Char → Option Nat
  | 'x' => some 2
  | 'u' => some 4
  | 'U' => some 8
  | _ => none

/-- The character of a code point, unless it is half of a pair or too large. -/
def charOf? (n : Nat) : Option Char := if n.isValidChar then some (Char.ofNat n) else none

/-- The character for an escape sequence. -/
def escape : Lexer Char := do
  match ← ahead 1 with
  | none => fail .escape
  | some c =>
    match escapeOf? c, escapeLength? c with
    | some d, _ =>
      take 2
      return d
    | none, none => fail .escape
    | none, some n =>
      take 2
      let digits := (← get).cursor.rest.take n
      match (Text.natOfDigits? 16 digits).bind charOf? with
      | some d =>
        failIf (digits.length < n) .escape
        take n
        return d
      | none => fail .escape

/-- Text without blanks in a quoted scalar, and whether it ended at a break that an escape
removes. -/
def quotedRun (single : Bool) : Nat → Folding → Lexer Folding
  | 0, f => return f
  | fuel + 1, f => do
    let s ← get
    match s.cursor.rest with
    | [] => return f
    | c :: cs =>
      if isBlankOrBreak s.edition c then return f
      else if single && c == '\'' then
        if cs.head? == some '\'' then
          take 2
          quotedRun single fuel (f.add ['\''])
        else return f
      else if !single && c == '"' then return f
      else if !single && c == '\\' then
        if cs.head?.any (isBreak s.edition) then
          take 1
          let _ ← takeBreak
          return { f with broken := true }
        else
          let d ← escape
          quotedRun single fuel (f.add [d])
      else
        take 1
        quotedRun single fuel (f.add [c])

/-- The blanks and breaks within a quoted scalar. -/
def quotedBlanks : Nat → Folding → Lexer Folding
  | 0, f => return f
  | fuel + 1, f => do
    let s ← get
    match s.cursor.rest with
    | c :: _ =>
      if isBlank c then
        failIf (s.edition == .v12 && f.broken && c == '\t' && s.cursor.column < s.indent) .tab
        advance 1
        quotedBlanks fuel (f.addBlank c)
      else if isBreak s.edition c then
        let b ← takeBreak
        quotedBlanks fuel (f.addBreak b)
      else return f
    | [] => return f

/-- The text of a quoted scalar up to its closing quote, which is left. -/
def quotedLines (single : Bool) : Nat → Folding → Lexer (List Char)
  | 0, _ => fail .unclosedQuote
  | fuel + 1, f => do
    failIf ((← column) == 0 && (← atDocumentMarker)) .unclosedQuote
    failIf ((← peek).isNone) .unclosedQuote
    let s ← get
    failIf (s.edition == .v12 && s.cursor.column < s.indent) .indentation
    let f ← quotedRun single (← left) f
    if (← peek) == some (if single then '\'' else '"') then return f.text
    let f ← quotedBlanks (← left) f
    quotedLines single fuel f.settle

/-- By YAML 1.2 a quoted scalar is followed by the end of the line, by what continues a flow
collection, or by the colon after a key. -/
def checkAfterQuote (startLine : Nat) : Lexer Unit := do
  let s ← get
  let inFlow := s.flowLevel > 0
  match ← peek with
  | none => return
  | some c =>
    let fine :=
      isBreak s.edition c || (inFlow && (c == ',' || c == '}' || c == ']' || c == ':')) ||
        (c == ':' && startLine == s.cursor.line)
    failIf (!fine) .trailingContent

/-- A quoted scalar with both of its quotes. -/
def quotedScalar (single : Bool) : Lexer (List Char) := do
  let startLine := (← get).cursor.line
  take 1
  let text ← quotedLines single ((← left) + 1) .empty
  take 1
  if (← get).edition = .v12 then
    let _ ← skipToLineEnd true
    checkAfterQuote startLine
  return text

/-! ## Block scalars -/

/-- What becomes of the breaks at the end of a block scalar. -/
inductive Chomping where
  | strip
  | clip
  | keep
deriving DecidableEq

/-- The indentation that the header of a block scalar states, if it does. -/
def indentIndicator : Lexer Nat := do
  match ← peek with
  | some c =>
    if isDigit c then
      failIf (c == '0') .blockScalarHeader
      take 1
      return c.toNat - '0'.toNat
    else return 0
  | none => return 0

/-- The sign in the header of a block scalar that says what becomes of its last breaks. -/
def chompingIndicator : Lexer (Option Chomping) := do
  match ← peek with
  | some '+' =>
    take 1
    return some .keep
  | some '-' =>
    take 1
    return some .strip
  | _ => return none

/-- The two indicators may come in either order. -/
def blockHeader : Lexer (Chomping × Nat) := do
  match ← chompingIndicator with
  | some c => return (c, ← indentIndicator)
  | none =>
    let n ← indentIndicator
    if n = 0 then return (.clip, 0)
    else return ((← chompingIndicator).getD .clip, n)

/-- Spaces up to the given column, and empty lines. -/
def blockBreaks (limit : Option Nat) : Nat → Nat → List Char → Lexer (List Char × Nat)
  | 0, deepest, breaks => return (breaks, deepest)
  | fuel + 1, deepest, breaks => do
    let s ← get
    let room := limit.map fun n => n - s.cursor.column
    let spaces := (s.cursor.rest.takeWhile (· == ' ')).length
    advance (match room with | some n => min n spaces | none => spaces)
    let s ← get
    let deepest := max deepest s.cursor.column
    let next ← peek
    failIf (s.edition == .v11 && next == some '\t' && limit.all fun n => s.cursor.column < n) .tab
    if next.any (isBreak s.edition) then
      let b ← takeBreak
      blockBreaks limit fuel deepest (breaks ++ b)
    else return (breaks, deepest)

/-- The lines of a block scalar: the text, the break after it, and the empty lines after that. -/
def blockLines (isLiteral : Bool) (indent : Nat) :
    Nat → List Char → List Char → List Char → Bool → Lexer (List Char × List Char × List Char)
  | 0, text, first, more, _ => return (text, first, more)
  | fuel + 1, text, first, more, wasBlank => do
    let s ← get
    match s.cursor.rest with
    | [] => return (text, first, more)
    | c :: _ =>
      if s.cursor.column ≠ indent then return (text, first, more)
      if indent = 0 && (← atMarker '.') then return (text, first, more)
      let startsBlank := isBlank c
      let folds := !isLiteral && first == ['\n'] && !wasBlank && !startsBlank
      let joint :=
        if folds then (if more.isEmpty then [' '] else more) else first ++ more
      let line := s.cursor.rest.takeWhile fun c => !isBreak s.edition c
      take line.length
      let text := text ++ joint ++ line
      if (← peek).isNone then return (text, [], [])
      let first ← takeBreak
      let (more, _) ← blockBreaks (some indent) ((← left) + 1) 0 []
      blockLines isLiteral indent fuel text first more startsBlank

/-- A block scalar with its header. Its indentation is stated there, or it is that of the first line
with text. -/
def blockScalar (isLiteral : Bool) : Lexer (List Char) := do
  let startLine := (← get).cursor.line
  take 1
  if (← get).edition = .v12 then dropTemporaryIndents
  let (chomping, increment) ← blockHeader
  let s ← get
  match s.edition with
  | .v11 =>
    let _ ← takeWhile isBlank
    if (← peek) == some '#' then skipComment
  | .v12 =>
    let _ ← skipToLineEnd true
  failIf (!atBreakOrEnd s.edition (← peek)) .blockScalarHeader
  let headerBreak ← takeBreak
  failIf (s.edition == .v12 && (← peek) == some '\t') .tab
  let stated := if increment = 0 then none else some (s.indent.toNat + increment)
  let (breaks, deepest) ← blockBreaks stated ((← left) + 1) 0 []
  let least := (s.indent + 1).toNat
  let indent :=
    stated.getD
      (match s.edition with
        | .v11 => max (max deepest least) 1
        | .v12 => max deepest least)
  if s.edition = .v12 ∧ (← peek).isNone then
    let sameLine := (← get).cursor.line = startLine
    return match chomping with
      | .strip => []
      | .clip => if sameLine then [] else headerBreak
      | .keep => if sameLine then [] else if breaks.isEmpty then headerBreak else breaks
  let column ← column
  failIf (s.edition == .v12 && column < indent && s.indent < column) .blockScalarHeader
  let (text, first, more) ← blockLines isLiteral indent ((← left) + 1) [] [] breaks false
  let unbroken ← do
    let c := (← get).cursor
    pure (s.edition == .v12 && c.rest.isEmpty && max indent 1 ≤ c.column)
  return match chomping with
    | .strip => text
    | .clip => text ++ first ++ (if unbroken then ['\n'] else [])
    | .keep => text ++ first ++ (if unbroken then ['\n'] else []) ++ more

end Lexer

end TypedYaml.Yaml
