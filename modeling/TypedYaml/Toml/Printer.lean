/-!
# Writing strings

A string is written in double quotes if it needs no escapes there, else in single quotes if it can
be, else between three quotes of either kind, and with escapes only if none of these will do.

* `StringForm`: the forms.
* `quote`: a string in its form.
-/

namespace TypedYaml.Toml

/-- The forms of a string. -/
inductive StringForm where
  | basic
  | literal
  | multilineBasic
  | multilineLiteral
deriving DecidableEq

namespace StringForm

/-- Control characters that are written as escapes only. -/
def isControl (c : Char) : Bool := (c < ' ' && c ≠ '\t' && c ≠ '\n') || c == '\x7f'

/-- The length of the longest run of a character, given the length of a run before the text. -/
def longestRun (c : Char) (before : Nat) : List Char → Nat
  | [] => before
  | d :: ds =>
    if d = c then longestRun c (before + 1) ds
    else max before (longestRun c 0 ds)

/-- The form that a string takes. -/
def ofChars (cs : List Char) : StringForm :=
  let hasControl := cs.any isControl
  let hasNewline := cs.contains '\n'
  let hasBackslash := cs.contains '\\'
  let doubles := longestRun '"' 0 cs
  let singles := longestRun '\'' 0 cs
  if !hasControl && !hasBackslash && doubles = 0 && !hasNewline then .basic
  else if !hasControl && singles = 0 && !hasNewline then .literal
  else if !hasControl && !hasBackslash && doubles ≤ 2 then .multilineBasic
  else if !hasControl && singles ≤ 2 then .multilineLiteral
  else if hasNewline then .multilineBasic
  else .basic

end StringForm

/-- Upper-case hexadecimal digits, filled up with zeros. -/
def hexDigits (width n : Nat) : List Char :=
  let ds := (Nat.toDigits 16 n).map Char.toUpper
  List.replicate (width - ds.length) '0' ++ ds

/-- A character in double quotes. -/
def escape (c : Char) : List Char :=
  match c with
  | '\x08' => ['\\', 'b']
  | '\t' => ['\\', 't']
  | '\n' => ['\\', 'n']
  | '\x0c' => ['\\', 'f']
  | '\r' => ['\\', 'r']
  | '"' => ['\\', '"']
  | '\\' => ['\\', '\\']
  | c => if StringForm.isControl c then '\\' :: 'u' :: hexDigits 4 c.toNat else [c]

/-- The text between three double quotes, given how many quotes stand directly before it. Two
quotes in a row are the most that need no escape. -/
def multilineBody (quotes : Nat) : List Char → List Char
  | [] => []
  | '\n' :: cs => '\n' :: multilineBody 0 cs
  | '"' :: cs =>
    if quotes < 2 then '"' :: multilineBody (quotes + 1) cs
    else '\\' :: '"' :: multilineBody 0 cs
  | c :: cs => escape c ++ multilineBody 0 cs

/-- Several lines start on a line of their own. -/
def firstLineEnd (cs : List Char) : List Char := if cs.contains '\n' then ['\n'] else []

/-- A string in its form. -/
def quote (s : String) : List Char :=
  let cs := s.toList
  match StringForm.ofChars cs with
  | .basic => '"' :: cs.flatMap escape ++ ['"']
  | .literal => '\'' :: cs ++ ['\'']
  | .multilineBasic =>
    ['"', '"', '"'] ++ firstLineEnd cs ++ multilineBody 0 cs ++ ['"', '"', '"']
  | .multilineLiteral =>
    ['\'', '\'', '\''] ++ firstLineEnd cs ++ cs ++ ['\'', '\'', '\'']

end TypedYaml.Toml
