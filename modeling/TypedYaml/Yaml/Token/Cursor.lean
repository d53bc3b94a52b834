import TypedYaml.Yaml.Token

/-!
# A place in a text

* `Cursor`: what is left of a text, and how much of it was read.
* `LexState`: a cursor with all that decides how to read on.
* `Lexer`: a reading step.
-/

namespace TypedYaml.Yaml

/-- What is left of a text, and how much of it was read. Lines and columns are counted from zero. -/
structure Cursor where
  rest : List Char
  index : Nat
  line : Nat
  column : Nat

/-- A place where the key of a mapping may have started without any mark. It was the token number
`token` then. A required key is one that nothing else can stand for. -/
structure PendingKey where
  possible : Bool
  required : Bool
  token : Nat
  index : Nat
  line : Nat
  column : Nat

/-- No key can have started. -/
def PendingKey.none : PendingKey := ⟨false, false, 0, 0, 0, 0⟩

/-- An indentation to go back to, and whether a block ends then. -/
structure OuterIndent where
  indent : Int
  endsBlock : Bool

/-- All that decides how to read on. -/
structure LexState where
  edition : Edition
  cursor : Cursor
  /-- The tokens so far with the columns they start in. -/
  tokens : Array (Token × Nat)
  indent : Int
  outerIndents : List OuterIndent
  /-- One pending key for the block context, and one for each flow collection that is open. -/
  keys : List PendingKey
  keyAllowed : Bool
  /-- Nothing but blanks was read on the line. -/
  atLineStart : Bool
  /-- The place after a key in the style of JSON, where no blank is needed after a colon. -/
  adjacentValue : Nat
  flowMappingStarted : Bool
  /-- For each open flow sequence, whether a mapping without braces is open in it. -/
  bareMappings : List Bool

/-- The number of flow collections that are open. -/
def LexState.flowLevel (s : LexState) : Nat := s.keys.length - 1

/-- A reading step. -/
abbrev Lexer := StateT LexState (Except Fault)

/-- The state before anything is read. The indentation lies before the first column, and a key may
come first. -/
def LexState.start (edition : Edition) (text : List Char) : LexState where
  edition := edition
  cursor := ⟨text, 0, 0, 0⟩
  tokens := #[]
  indent := -1
  outerIndents := []
  keys := [.none]
  keyAllowed := true
  atLineStart := true
  adjacentValue := 0
  flowMappingStarted := false
  bareMappings := []

/-! ## Characters -/

/-- Whether a character sets tokens apart on a line. -/
def isBlank (c : Char) : Bool := c == ' ' || c == '\t'

/-- Whether a character ends a line. By YAML 1.1 three more characters do than by YAML 1.2. -/
def isBreak (e : Edition) (c : Char) : Bool :=
  c == '\n' || c == '\r' || (e == .v11 && (c == '\u0085' || c == '\u2028' || c == '\u2029'))

/-- Whether a character sets tokens apart. -/
def isBlankOrBreak (e : Edition) (c : Char) : Bool := isBlank c || isBreak e c

/-- The characters that structure flow collections. -/
def isFlow (c : Char) : Bool := c == ',' || c == '[' || c == ']' || c == '{' || c == '}'

/-- Whether a character is a decimal digit. -/
def isDigit (c : Char) : Bool := '0' ≤ c && c ≤ '9'

/-- The characters of which the handles of tags consist, and by YAML 1.1 the names of anchors. -/
def isWordChar (c : Char) : Bool :=
  isDigit c || ('a' ≤ c && c ≤ 'z') || ('A' ≤ c && c ≤ 'Z') || c == '_' || c == '-'

/-! ## Looking ahead -/

/-- Whether the line ends here. -/
def atBreakOrEnd (e : Edition) (c : Option Char) : Bool := c.all (isBreak e)

/-- Whether a token that ends here is set apart from what follows. -/
def atBlankOrEnd (e : Edition) (c : Option Char) : Bool := c.all (isBlankOrBreak e)

namespace Lexer

/-- A step that fails. -/
def fail {α : Type} (f : Fault) : Lexer α := throw f

/-- Fails under a condition, and does nothing else. -/
def failIf (condition : Bool) (f : Fault) : Lexer Unit := if condition then throw f else pure ()

/-- The character that is so many places ahead, if the text is that long. -/
def ahead (n : Nat) : Lexer (Option Char) := do return (← get).cursor.rest[n]?

/-- The next character. -/
def peek : Lexer (Option Char) := ahead 0

/-- The present column. -/
def column : Lexer Nat := do return (← get).cursor.column

/-- The number of flow collections that are open. -/
def flowLevel : Lexer Nat := do return (← get).flowLevel

/-- The number of characters left, a bound on the steps that reading them takes. -/
def left : Lexer Nat := do return (← get).cursor.rest.length

/-! ## Reading on -/

/-- Passes over characters, none of which is a break. -/
def advance (n : Nat) : Lexer Unit :=
  modify fun s =>
    { s with
      cursor :=
        { s.cursor with
          rest := s.cursor.rest.drop n
          index := s.cursor.index + n
          column := s.cursor.column + n } }

/-- Reads characters that are not blank. -/
def take (n : Nat) : Lexer Unit := do
  advance n
  modify fun s => { s with atLineStart := false }

/-- Reads the characters of a class, which are not breaks. -/
def takeWhile (p : Char → Bool) : Lexer (List Char) := do
  let cs := (← get).cursor.rest.takeWhile p
  advance cs.length
  return cs

/-- Reads a break. Two characters may make up one; all but two kinds count as a line feed. -/
def takeBreak : Lexer (List Char) := do
  let s ← get
  let line (n : Nat) : LexState :=
    { s with
      cursor := ⟨s.cursor.rest.drop n, s.cursor.index + n, s.cursor.line + 1, 0⟩
      atLineStart := true }
  match s.cursor.rest with
  | '\r' :: '\n' :: _ =>
    set (line 2)
    return ['\n']
  | c :: _ =>
    if isBreak s.edition c then
      set (line 1)
      return [if c = '\u2028' ∨ c = '\u2029' then c else '\n']
    else return []
  | [] => return []

/-- Reads the rest of a line but not its break. -/
def skipComment : Lexer Unit := do
  let e := (← get).edition
  let _ ← takeWhile fun c => !isBreak e c

/-- Three equal characters and a blank mark the start or the end of a document. -/
def atMarker (c : Char) : Lexer Bool := do
  let s ← get
  return s.cursor.rest.take 3 == [c, c, c] && atBlankOrEnd s.edition s.cursor.rest[3]?

/-- Whether a document starts or ends here. -/
def atDocumentMarker : Lexer Bool := do return (← atMarker '-') || (← atMarker '.')

/-- Reads the blanks and the comment at the end of a line, and says whether there were tabs and
whether there were spaces. A comment needs a blank before it. -/
def skipToLineEnd (tabs : Bool) : Lexer (Bool × Bool) := do
  let blanks ← takeWhile fun c => c == ' ' || (tabs && c == '\t')
  if (← peek) == some '#' then
    failIf blanks.isEmpty .comment
    skipComment
  return (blanks.contains '\t', blanks.contains ' ')

end Lexer

end TypedYaml.Yaml
