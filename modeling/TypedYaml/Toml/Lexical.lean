import TypedYaml.Basic

/-!
# Blanks, comments and strings

A comment reaches to the end of its line. Lines end with a line feed, which may have a carriage
return before it; other control characters but the tab stand nowhere.

A string stands in double or single quotes; between single quotes there are no escapes. Three
quotes on each side make a string that may have several lines, of which the first is left out if
it is empty.

* `Step`: a reading step.
* `dropBlanks`, `endLine?`, `dropGap`: what carries no meaning.
* `basic?`, `literal?`: what follows an opening quote, up to the closing one.
* `multilineBasic?`, `multilineLiteral?`: the same for three quotes.
* `string?`: a string of any kind.
-/

namespace TypedYaml.Toml

/-! ## Blanks, comments and line ends -/

/-- What is read at the start of a text, and the rest of the text. -/
abbrev Step (α : Type) := List Char → Option (α × List Char)

/-- Line ends are no blanks. -/
def isBlank (c : Char) : Bool := c == ' ' || c == '\t'

/-- Characters that may stand in comments, and also in strings unless they mean something there. -/
def isText (c : Char) : Bool := c == '\t' || (' ' ≤ c && c ≠ '\x7f')

/-- What follows the blanks at the start of a text. -/
def dropBlanks (cs : List Char) : List Char := cs.dropWhile isBlank

/-- What follows a line end. -/
def newline? : List Char → Option (List Char)
  | '\n' :: cs | '\r' :: '\n' :: cs => some cs
  | _ => none

/-- What follows the comment at the start of a text, if there is one. -/
def dropComment : List Char → List Char
  | '#' :: cs => cs.dropWhile isText
  | cs => cs

/-- The rest of a line on which nothing of meaning is left. -/
def endLine? (cs : List Char) : Option (List Char) :=
  match dropComment (dropBlanks cs) with
  | [] => some []
  | rest => newline? rest

/-- Drops blanks, line ends and comments. -/
def dropGapFrom (inComment : Bool) : List Char → List Char
  | '\n' :: cs | '\r' :: '\n' :: cs => dropGapFrom false cs
  | c :: cs =>
    if inComment then if isText c then dropGapFrom true cs else c :: cs
    else if isBlank c then dropGapFrom false cs
    else if c == '#' then dropGapFrom true cs
    else c :: cs
  | [] => []

/-- What follows all blanks, line ends and comments. -/
def dropGap : List Char → List Char := dropGapFrom false

/-! ## Escapes -/

/-- What a character stands for after a backslash. -/
def simpleEscape? : Char → Option Char
  | 'b' => some '\x08'
  | 't' => some '\t'
  | 'n' => some '\n'
  | 'f' => some '\x0c'
  | 'r' => some '\r'
  | '"' => some '"'
  | '\\' => some '\\'
  | _ => none

/-- The character with the number that hexadecimal digits denote. -/
def codePoint? (digits : List Char) : Option Char := do
  let n ← Text.natOfDigits? 16 digits
  if n.isValidChar then some (Char.ofNat n) else none

/-- Puts a character, if there is one, before the string that is read after it. -/
def putBefore (c : Option Char) (rest : Option (List Char × List Char)) :
    Option (List Char × List Char) := do
  let c ← c
  let (s, rest) ← rest
  some (c :: s, rest)

/-! ## Strings on one line -/

/-- A string in double quotes, after the opening one. -/
def basic? : Step (List Char)
  | [] => none
  | '"' :: cs => some ([], cs)
  | '\\' :: 'u' :: a :: b :: c :: d :: cs => putBefore (codePoint? [a, b, c, d]) (basic? cs)
  | '\\' :: 'U' :: a :: b :: c :: d :: e :: f :: g :: h :: cs =>
    putBefore (codePoint? [a, b, c, d, e, f, g, h]) (basic? cs)
  | '\\' :: c :: cs => putBefore (simpleEscape? c) (basic? cs)
  | c :: cs => if isText c && c ≠ '\\' then putBefore (some c) (basic? cs) else none

/-- A string in single quotes, after the opening one. -/
def literal? : Step (List Char)
  | [] => none
  | '\'' :: cs => some ([], cs)
  | c :: cs => if isText c then putBefore (some c) (literal? cs) else none

/-! ## Strings on several lines -/

/-- A backslash before a line end, with blanks between them at most. -/
def startsFold : List Char → Bool
  | '\\' :: cs => (newline? (dropBlanks cs)).isSome
  | _ => false

/-- Up to two quotes may stand before the closing ones. Where a line is folded, its end is dropped
with all blanks and line ends after it. -/
def multilineBasicFrom (folding : Bool) : Step (List Char)
  | [] => none
  | '"' :: '"' :: '"' :: '"' :: '"' :: cs => some (['"', '"'], cs)
  | '"' :: '"' :: '"' :: '"' :: cs => some (['"'], cs)
  | '"' :: '"' :: '"' :: cs => some ([], cs)
  | '\\' :: 'u' :: a :: b :: c :: d :: cs =>
    putBefore (codePoint? [a, b, c, d]) (multilineBasicFrom false cs)
  | '\\' :: 'U' :: a :: b :: c :: d :: e :: f :: g :: h :: cs =>
    putBefore (codePoint? [a, b, c, d, e, f, g, h]) (multilineBasicFrom false cs)
  | '\r' :: '\n' :: cs | '\n' :: cs =>
    if folding then multilineBasicFrom true cs
    else putBefore (some '\n') (multilineBasicFrom false cs)
  | '\\' :: c :: cs =>
    if startsFold ('\\' :: c :: cs) then multilineBasicFrom true (c :: cs)
    else putBefore (simpleEscape? c) (multilineBasicFrom false cs)
  | c :: cs =>
    if folding && isBlank c then multilineBasicFrom true cs
    else if isText c && c ≠ '\\' then putBefore (some c) (multilineBasicFrom false cs)
    else none

/-- Up to two quotes may stand before the closing ones. Nothing is an escape. -/
def multilineLiteralFrom : Step (List Char)
  | [] => none
  | '\'' :: '\'' :: '\'' :: '\'' :: '\'' :: cs => some (['\'', '\''], cs)
  | '\'' :: '\'' :: '\'' :: '\'' :: cs => some (['\''], cs)
  | '\'' :: '\'' :: '\'' :: cs => some ([], cs)
  | '\r' :: '\n' :: cs | '\n' :: cs => putBefore (some '\n') (multilineLiteralFrom cs)
  | c :: cs => if isText c then putBefore (some c) (multilineLiteralFrom cs) else none

/-- The text without a line end at its start. -/
def dropFirstNewline (cs : List Char) : List Char := (newline? cs).getD cs

/-- A string in three double quotes, after the opening ones. -/
def multilineBasic? (cs : List Char) : Option (List Char × List Char) :=
  multilineBasicFrom false (dropFirstNewline cs)

/-- A string in three single quotes, after the opening ones. -/
def multilineLiteral? (cs : List Char) : Option (List Char × List Char) :=
  multilineLiteralFrom (dropFirstNewline cs)

/-! ## Strings of any kind -/

/-- A string of any kind. -/
def string? : Step (List Char)
  | '"' :: '"' :: '"' :: cs => multilineBasic? cs
  | '"' :: cs => basic? cs
  | '\'' :: '\'' :: '\'' :: cs => multilineLiteral? cs
  | '\'' :: cs => literal? cs
  | _ => none

end TypedYaml.Toml
