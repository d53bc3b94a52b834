import TypedYaml.Yaml.Plain

/-!
# Writing strings

A string is written plain if it cannot be taken for anything else there, else in single quotes;
with several lines it is a literal block. What none of these forms can hold stands in double
quotes, where characters can be escaped.

* `Written`: the forms; `Written.ofString` is the one that a string takes.
* `Written.text`: a string in its form. What continues on a new line is indented, and a literal
  block ends with its last line break.
* `Written.lines`: the same with its line end.
-/

namespace TypedYaml.Yaml

/-- The blanks before what stands in a column. -/
def indentation (n : Nat) : List Char := List.replicate n ' '

/-- The forms of a string. -/
inductive Written where
  | plain
  | single
  | double
  | literal
deriving DecidableEq

namespace Written

/-! ## Characters -/

/-- Line ends of any kind, also those that only Unicode knows. -/
def isLineBreak (c : Char) : Bool :=
  c == '\n' || c == '\r' || c == '\u0085' || c == '\u2028' || c == '\u2029'

/-- Characters that need no escape; neither a tab nor a byte order mark is one. -/
def isPrintable (c : Char) : Bool :=
  let n := c.toNat
  n == 0xA || (0x20 ≤ n && n ≤ 0x7E) || (0xA0 ≤ n && n ≤ 0xD7FF) ||
    (0xE000 ≤ n && n ≤ 0xFFFD && n ≠ 0xFEFF) || 0x10000 ≤ n

/-- What ends a word: a blank, a line break or the end of the text. -/
def isGap (c : Option Char) : Bool :=
  match c with
  | none => true
  | some c => c == ' ' || c == '\t' || c == '\x00' || isLineBreak c

/-! ## Texts -/

/-- A character next to which another one stands. -/
def hasAdjacent (p q : Char → Bool) : List Char → Bool
  | c :: d :: cs => (p c && q d) || hasAdjacent p q (d :: cs)
  | _ => false

/-- Characters with a meaning of their own at the start of a scalar. -/
def indicators : List Char :=
  ['#', ',', '[', ']', '\x7b', '\x7d', '&', '*', '!', '|', '>', '\'', '"', '%', '@', '\x60']

/-- Whether a text starts like something other than a plain scalar. -/
def startsAsIndicator : List Char → Bool
  | '-' :: '-' :: '-' :: _ | '.' :: '.' :: '.' :: _ => true
  | c :: cs => indicators.contains c || (['-', '?', ':'].contains c && isGap cs.head?)
  | [] => false

/-- Whether a plain scalar would end inside a text, at a colon or a comment. -/
def breaksOff : List Char → Bool
  | c :: d :: cs =>
    (d == ':' && isGap cs.head?) || (d == '#' && isGap (some c)) || breaksOff (d :: cs)
  | _ => false

/-- What a plain scalar neither starts nor ends with. -/
def isSpaceOrBreak (c : Char) : Bool := c == ' ' || isLineBreak c

/-- Whether a text needs escapes: it has characters that cannot be shown, or spaces before a line
break, which would be lost. -/
def needsEscapes (cs : List Char) : Bool :=
  cs.any (fun c => !isPrintable c && !isLineBreak c) || hasAdjacent (· == ' ') isLineBreak cs

/-- Whether a text that looks like a string is read back when it is written as it is. -/
def allowsPlain (cs : List Char) : Bool :=
  !cs.any isLineBreak && !needsEscapes cs && !cs.head?.any isSpaceOrBreak &&
    !cs.getLast?.any isSpaceOrBreak && !startsAsIndicator cs && !breaksOff cs

/-- Whether a text is read back from between single quotes. -/
def allowsSingle (cs : List Char) : Bool :=
  !needsEscapes cs && !hasAdjacent isLineBreak (· == ' ') cs

/-- Whether a text is read back from a literal block. -/
def allowsLiteral (cs : List Char) : Bool :=
  !needsEscapes cs && cs.getLast? ≠ some ' '

/-- The form that a string takes. -/
def ofString (s : String) : Written :=
  let cs := s.toList
  if cs.contains '\n' then
    if allowsLiteral cs then .literal else .double
  else if Plain.ofText s = .string && !Plain.hasLeadingZero cs && allowsPlain cs then .plain
  else if allowsSingle cs then .single
  else .double

/-! ## Lines -/

/-- Lines are indented, empty ones are not. Whether the text starts a line is told. -/
def indented (indent : Nat) (atStart : Bool) : List Char → List Char
  | [] => []
  | c :: cs =>
    if isLineBreak c then c :: indented indent true cs
    else (if atStart then indentation indent else []) ++ c :: indented indent false cs

/-! ## Double quotes -/

/-- Upper-case hexadecimal digits, filled up with zeros. -/
def hex (width : Nat) (n : Nat) : List Char :=
  let ds := (Nat.toDigits 16 n).map Char.toUpper
  List.replicate (width - ds.length) '0' ++ ds

/-- Characters with an escape of their own, and the letters for it. -/
def escapes : List (Char × Char) :=
  [('\x00', '0'), ('\x07', 'a'), ('\x08', 'b'), ('\t', 't'), ('\n', 'n'), ('\x0b', 'v'),
    ('\x0c', 'f'), ('\r', 'r'), ('\x1b', 'e'), ('"', '"'), ('\\', '\\'), ('\u0085', 'N'),
    ('\u00a0', '_'), ('\u2028', 'L'), ('\u2029', 'P')]

/-- The escape of a character, by a letter or by its number. -/
def escape (c : Char) : List Char :=
  match escapes.lookup c with
  | some e => ['\\', e]
  | none =>
    let n := c.toNat
    if n ≤ 0xFF then '\\' :: 'x' :: hex 2 n
    else if n ≤ 0xFFFF then '\\' :: 'u' :: hex 4 n
    else '\\' :: 'U' :: hex 8 n

/-- A character between double quotes. -/
def doubleQuotedChar (c : Char) : List Char :=
  if !isPrintable c || isLineBreak c || c == '"' || c == '\\' then escape c else [c]

/-- A text in double quotes, on one line. -/
def doubleQuoted (cs : List Char) : List Char :=
  '"' :: cs.flatMap doubleQuotedChar ++ ['"']

/-! ## Single quotes -/

/-- A quote is written twice. -/
def repeatQuotes (cs : List Char) : List Char :=
  cs.flatMap fun c => if c == '\'' then ['\'', '\''] else [c]

/-- A closing quote on a line of its own is indented as well. -/
def singleQuoted (indent : Nat) (cs : List Char) : List Char :=
  '\'' :: indented indent false (repeatQuotes cs) ++
    (if cs.getLast?.any isLineBreak then indentation indent else []) ++ ['\'']

/-! ## Literal blocks -/

/-- The indentation has to be told if the text starts with a space or a line break. -/
def indentHint (cs : List Char) : List Char :=
  if cs.head?.any isSpaceOrBreak then ['2'] else []

/-- How many line breaks there are at the end: none, one, or more, and a text that is nothing but
one counts as having more. -/
def chompHint (cs : List Char) : List Char :=
  match cs.reverse with
  | [] => ['-']
  | [c] => if isLineBreak c then ['+'] else ['-']
  | c :: d :: _ =>
    if !isLineBreak c then ['-'] else if isLineBreak d then ['+'] else []

/-- The header of a block, and its lines. -/
def literalBlock (indent : Nat) (cs : List Char) : List Char :=
  '|' :: indentHint cs ++ chompHint cs ++ '\n' :: indented indent true cs ++
    if cs.getLast?.any isLineBreak then [] else ['\n']

/-! ## Strings -/

/-- A string in its form; further lines have the given indentation. A literal block ends its last
line, the other forms do not. -/
def text (indent : Nat) (s : String) : List Char :=
  let cs := s.toList
  match ofString s with
  | .plain => cs
  | .single => singleQuoted indent cs
  | .double => doubleQuoted cs
  | .literal => literalBlock indent cs

/-- A string with its line end. -/
def lines (indent : Nat) (s : String) : List Char :=
  text indent s ++ if ofString s = .literal then [] else ['\n']

end Written

end TypedYaml.Yaml
