import TypedYaml.Toml.Number
import TypedYaml.Toml.Lexical
import TypedYaml.Toml.Table

/-!
# Settings files

A file is a list of lines. A line has a key and a value, or the header of a table, which holds the
keys of the lines after it.

* `key?`, `value?`: the parts of lines.
* `read?`: the table that a text describes.
-/

namespace TypedYaml.Toml

/-! ## Keys -/

/-- The characters of keys without quotes. -/
def isBare (c : Char) : Bool := c.isAlphanum || c == '_' || c == '-'

/-- A key with one part. -/
def keyPart? : Step String
  | '"' :: cs => (basic? cs).map fun (s, rest) => (String.ofList s, rest)
  | '\'' :: cs => (literal? cs).map fun (s, rest) => (String.ofList s, rest)
  | cs =>
    let name := cs.takeWhile isBare
    if name.isEmpty then none else some (String.ofList name, cs.dropWhile isBare)

/-- The parts of a key before its last one, the last one, and the text after the blanks that
follow; at most `fuel` parts. -/
def keyWithin? : Nat → Step (List String × String)
  | 0, _ => none
  | fuel + 1, cs => do
    let (first, rest) ← keyPart? (dropBlanks cs)
    match dropBlanks rest with
    | '.' :: rest => do
      let ((path, last), rest) ← keyWithin? fuel rest
      some ((first :: path, last), rest)
    | rest => some (([], first), rest)

/-- A key of any number of parts. -/
def key? (cs : List Char) : Option ((List String × String) × List Char) :=
  keyWithin? cs.length cs

/-! ## Values -/

/-- The characters of values without quotes or brackets. -/
def isWordChar (c : Char) : Bool :=
  c.isAlphanum || c == '_' || c == '-' || c == '+' || c == '.' || c == ':'

/-- The text of such a value. -/
def word (cs : List Char) : List Char := cs.takeWhile isWordChar

/-- What follows it. -/
def afterWord (cs : List Char) : List Char := cs.dropWhile isWordChar

/-- The text after a time that stands after a date and a space. -/
def afterTime? : List Char → Option (List Char)
  | ' ' :: cs => if isMoment (word cs) then some (afterWord cs) else none
  | _ => none

/-- A value without quotes or brackets. -/
def scalar? (cs : List Char) : Option (Item × List Char) :=
  let w := word cs
  let rest := afterWord cs
  if w = "true".toList then some (.bool true, rest)
  else if w = "false".toList then some (.bool false, rest)
  else if isDate w then some (.other, (afterTime? rest).getD rest)
  else if isDateOrTime w || isFloat w then some (.other, rest)
  else (integer? w).map fun i => (.int i, rest)

mutual

/-- A value in which lists and tables are nested no deeper than `depth`. -/
def valueWithin? : Nat → Nat → Step Item
  | 0, _, _ => none
  | fuel + 1, depth, cs =>
    match cs with
    | '[' :: rest =>
      if depth = 0 then none
      else (elements? fuel (depth - 1) rest).map fun rest => (.other, rest)
    | '\x7b' :: rest =>
      if depth = 0 then none
      else
        match dropBlanks rest with
        | '\x7d' :: rest => some (.other, rest)
        | rest => (members? fuel (depth - 1) [] rest).map fun rest => (.other, rest)
    | '"' :: _ | '\'' :: _ => (string? cs).map fun (s, rest) => (.string (String.ofList s), rest)
    | _ => scalar? cs

/-- The text after the elements of a list. A comma may stand after the last one. -/
def elements? : Nat → Nat → List Char → Option (List Char)
  | 0, _, _ => none
  | fuel + 1, depth, cs =>
    match dropGap cs with
    | ']' :: rest => some rest
    | cs => do
      let (_, rest) ← valueWithin? fuel depth cs
      match dropGap rest with
      | ']' :: rest => some rest
      | ',' :: rest => elements? fuel depth rest
      | _ => none

/-- The text after the members of a table in braces, given those read so far. -/
def members? : Nat → Nat → Entries → List Char → Option (List Char)
  | 0, _, _, _ => none
  | fuel + 1, depth, entries, cs => do
    let ((path, last), rest) ← key? cs
    match rest with
    | '=' :: rest => do
      let (item, rest) ← valueWithin? fuel depth (dropBlanks rest)
      let entries ← put? path last item entries
      match dropBlanks rest with
      | '\x7d' :: rest => some rest
      | ',' :: rest => members? fuel depth entries rest
      | _ => none
    | _ => none

end

/-- Values may be nested eighty deep. -/
def value? (cs : List Char) : Option (Item × List Char) :=
  valueWithin? (cs.length + 1) 79 cs

/-! ## Lines -/

/-- What has been read, and the path of the table that the next keys belong to. -/
structure State where
  root : Entries
  opened : List String

/-- A header, given what follows its opening brackets and the text that closes them. -/
def header? (closing : List Char) (openWith : List String → String → Entries → Option Entries)
    (s : State) (cs : List Char) : Option (State × List Char) := do
  let ((path, last), rest) ← key? cs
  if closing.isPrefixOf rest then
    let root ← openWith path last s.root
    let rest ← endLine? (rest.drop closing.length)
    some (⟨root, path ++ [last]⟩, rest)
  else none

/-- A key with its value, up to the end of the line. -/
def entry? (s : State) (cs : List Char) : Option (State × List Char) := do
  let ((path, last), rest) ← key? cs
  match rest with
  | '=' :: rest => do
    let (item, rest) ← value? (dropBlanks rest)
    let root ← putInto? s.opened path last item s.root
    let rest ← endLine? rest
    some (⟨root, s.opened⟩, rest)
  | _ => none

/-- One line, which may be empty but for a comment. -/
def line? (s : State) (cs : List Char) : Option (State × List Char) :=
  match endLine? cs with
  | some rest => some (s, rest)
  | none =>
    match dropBlanks cs with
    | '[' :: '[' :: rest => header? [']', ']'] openElement? s rest
    | '[' :: rest => header? [']'] openTable? s rest
    | rest => entry? s rest

/-- At most `fuel` lines. -/
def linesWithin? : Nat → State → List Char → Option Entries
  | _, s, [] => some s.root
  | 0, _, _ => none
  | fuel + 1, s, cs => do
    let (s, rest) ← line? s cs
    linesWithin? fuel s rest

/-- A byte order mark may stand at the start. -/
def read? (text : String) : Option Entries :=
  let cs :=
    match text.toList with
    | '\ufeff' :: cs => cs
    | cs => cs
  linesWithin? cs.length ⟨[], []⟩ cs

end TypedYaml.Toml
