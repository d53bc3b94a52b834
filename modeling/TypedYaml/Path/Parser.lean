import TypedYaml.Path.Basic

/-!
# Reading path expressions

Two forms are read alike: the query form, which starts with a dollar sign (`$.a['b c'][0]`), and
the property form, which starts with its first segment (`a.b[0].*`). White space may stand
between tokens.

Every function here works on what is left of the text and says where it stopped by what was left
then; positions appear only in `Path.parse`, which knows the whole text.

* `PathError`: an error with its place; `PathError.message` is its text.
* `Stop`: why reading stopped short.
* `step`: one segment after the first.
* `Path.parse`: a whole expression.
-/

namespace TypedYaml

/-! ## Errors -/

/-- What could have stood at the place where reading stopped. -/
inductive Expected where
  | pathExpression
  | identifier
  | dotOrBracket
  | bracketBody
  | closingQuote (quote : Char)
  | char (c : Char)
deriving DecidableEq

/-- How messages call it. -/
def Expected.text : Expected → String
  | .pathExpression => "path expression"
  | .identifier => "identifier"
  | .dotOrBracket => "'.' or '['"
  | .bracketBody => "index, quoted key or '*'"
  | .closingQuote q => "closing quote '" ++ q.toString ++ "'"
  | .char c => "'" ++ c.toString ++ "'"

/-- What is wrong with a bracket whose end is not at issue. -/
inductive Malformed where
  | bracket
  | escape
  | number (text : String)
deriving DecidableEq

/-- The part of a message that says so. -/
def Malformed.text : Malformed → String
  | .bracket => "Invalid bracket expression"
  | .escape => "Invalid escape sequence"
  | .number text => "Invalid number: " ++ text

/-- Why a text is no path. Positions count the bytes of the UTF-8 form before a character. -/
inductive PathError where
  | unexpectedToken (position : Nat) (found : Char) (expected : Expected)
  | unexpectedEnd (expected : Expected)
  | invalidSyntax (reason : Malformed)
deriving DecidableEq

/-- The message that is shown. -/
def PathError.message : PathError → String
  | .unexpectedToken position found expected =>
    "Unexpected token '" ++ found.toString ++ "' at position " ++ toString position ++
      ", expected " ++ expected.text
  | .unexpectedEnd expected => "Unexpected end of input, expected " ++ expected.text
  | .invalidSyntax reason => "Invalid path syntax: " ++ reason.text

/-- Reading stopped, with `rest` left, where something in particular was expected; or the text
read so far is wrong. -/
inductive Stop where
  | expected (rest : List Char) (what : Expected)
  | malformed (reason : Malformed)

/-! ## Tokens and segments -/

namespace PathParser

open Text (isWhitespace)

/-- White space may stand between tokens. -/
def skipBlanks (cs : List Char) : List Char := cs.dropWhile isWhitespace

/-- The longest run of name characters. -/
def identifier (cs : List Char) : Except Stop (String × List Char) :=
  match cs.takeWhile isNameChar with
  | [] => .error (.expected cs .identifier)
  | name => .ok (String.ofList name, cs.dropWhile isNameChar)

/-- One character after white space. -/
def char (c : Char) (cs : List Char) : Except Stop (List Char) :=
  match skipBlanks cs with
  | [] => .error (.expected [] (.char c))
  | d :: rest => if d = c then .ok rest else .error (.expected (d :: rest) (.char c))

/-- What a character stands for after a backslash. -/
def unescape? : Char → Option Char
  | 'n' => some '\n'
  | 't' => some '\t'
  | 'r' => some '\r'
  | '\\' => some '\\'
  | '\'' => some '\''
  | '"' => some '"'
  | _ => none

/-- A quoted key after its opening quote. -/
def quoted (quote : Char) : List Char → Except Stop (List Char × List Char)
  | [] => .error (.expected [] (.closingQuote quote))
  | c :: cs =>
    if c = quote then .ok ([], cs)
    else if c = '\\' then
      match cs with
      | [] => .error (.malformed .escape)
      | e :: cs =>
        match unescape? e with
        | none => .error (.malformed .escape)
        | some c => (quoted quote cs).map fun (key, rest) => (c :: key, rest)
    else (quoted quote cs).map fun (key, rest) => (c :: key, rest)

/-- The digits of an index; no others are allowed. -/
def isDigit (c : Char) : Bool := '0' ≤ c && c ≤ '9'

/-- The sign and the digits of an index, and what follows them. -/
def splitNumber : List Char → List Char × List Char
  | '-' :: cs => ('-' :: cs.takeWhile isDigit, cs.dropWhile isDigit)
  | cs => (cs.takeWhile isDigit, cs.dropWhile isDigit)

/-- A number that fits into 64 bits. -/
def index (cs : List Char) : Except Stop (Int64 × List Char) :=
  match Text.int64? (splitNumber cs).1 with
  | some i => .ok (i, (splitNumber cs).2)
  | none => .error (.malformed (.number (String.ofList (splitNumber cs).1)))

/-- What stands between brackets. -/
def bracketBody : List Char → Except Stop (Segment × List Char)
  | [] => .error (.expected [] .bracketBody)
  | c :: cs =>
    if c = '*' then .ok (.wildcard, cs)
    else if c = '\'' ∨ c = '"' then
      (quoted c cs).map fun (key, rest) => (.key (String.ofList key), rest)
    else if c = '-' ∨ isDigit c then
      (index (c :: cs)).map fun (i, rest) => (.index i, rest)
    else .error (.malformed .bracket)

/-- A bracket after its opening one. -/
def bracket (cs : List Char) : Except Stop (Segment × List Char) :=
  match bracketBody (skipBlanks cs) with
  | .error stop => .error stop
  | .ok (segment, rest) => (char ']' rest).map fun rest => (segment, rest)

/-- A segment without brackets. -/
def nameOrWildcard : List Char → Except Stop (Segment × List Char)
  | '*' :: cs => .ok (.wildcard, cs)
  | cs => (identifier cs).map fun (name, rest) => (.key name, rest)

/-- A segment after the first: a dot and a name or wildcard, or a bracket. -/
def step : List Char → Except Stop (Segment × List Char)
  | '.' :: cs => nameOrWildcard (skipBlanks cs)
  | '[' :: cs => bracket cs
  | cs => .error (.expected cs .dotOrBracket)

/-! ## A step leaves less than it was given -/

theorem exists_of_map_ok {ε α β : Type} {e : Except ε α} {f : α → β} {b : β}
    (h : e.map f = .ok b) : ∃ a, e = .ok a ∧ f a = b := by
  cases e with
  | error => cases h
  | ok a => cases h; exact ⟨a, rfl, rfl⟩

theorem skipBlanks_length_le (cs : List Char) : (skipBlanks cs).length ≤ cs.length :=
  (List.dropWhile_sublist _).length_le

theorem identifier_length_lt {cs rest : List Char} {name : String}
    (h : identifier cs = .ok (name, rest)) : rest.length < cs.length := by
  unfold identifier at h
  split at h
  · cases h
  · next hne =>
    cases cs with
    | nil => simp at hne
    | cons c cs =>
      by_cases hc : isNameChar c
      · cases h
        simpa [hc] using Nat.lt_succ_of_le (List.dropWhile_sublist isNameChar).length_le
      · simp [hc] at hne

theorem char_length_lt {c : Char} {cs rest : List Char} (h : char c cs = .ok rest) :
    rest.length < cs.length := by
  have hle := skipBlanks_length_le cs
  unfold char at h
  split at h
  · cases h
  · next d r hs =>
    rw [hs] at hle
    split at h
    · cases h
      exact hle
    · cases h

theorem quoted_length_lt {q : Char} {cs key rest : List Char}
    (h : quoted q cs = .ok (key, rest)) : rest.length < cs.length := by
  fun_induction quoted q cs generalizing key rest with
  | case1 => cases h
  | case2 => cases h; simp
  | case3 => cases h
  | case4 => cases h
  | case5 _ _ _ _ _ ih =>
    obtain ⟨p, hp, heq⟩ := exists_of_map_ok h
    cases heq
    exact Nat.lt_succ_of_lt (Nat.lt_succ_of_lt (ih hp))
  | case6 _ _ _ _ ih =>
    obtain ⟨p, hp, heq⟩ := exists_of_map_ok h
    cases heq
    exact Nat.lt_succ_of_lt (ih hp)

theorem splitNumber_length_le (cs : List Char) : (splitNumber cs).2.length ≤ cs.length := by
  unfold splitNumber
  split
  · exact Nat.le_succ_of_le (List.dropWhile_sublist _).length_le
  · exact (List.dropWhile_sublist _).length_le

theorem index_length_le {cs rest : List Char} {i : Int64} (h : index cs = .ok (i, rest)) :
    rest.length ≤ cs.length := by
  have hle := splitNumber_length_le cs
  unfold index at h
  split at h
  · cases h
    exact hle
  · cases h

theorem bracketBody_length_le {cs rest : List Char} {s : Segment}
    (h : bracketBody cs = .ok (s, rest)) : rest.length ≤ cs.length := by
  cases cs with
  | nil => cases h
  | cons c cs =>
    simp only [bracketBody] at h
    split at h
    · cases h
      exact Nat.le_succ _
    · split at h
      · obtain ⟨p, hp, heq⟩ := exists_of_map_ok h
        cases heq
        exact Nat.le_succ_of_le (Nat.le_of_lt (quoted_length_lt hp))
      · split at h
        · obtain ⟨p, hp, heq⟩ := exists_of_map_ok h
          cases heq
          exact index_length_le hp
        · cases h

theorem bracket_length_lt {cs rest : List Char} {s : Segment} (h : bracket cs = .ok (s, rest)) :
    rest.length < cs.length := by
  have hle := skipBlanks_length_le cs
  unfold bracket at h
  split at h
  · cases h
  · next hb =>
    obtain ⟨r, hr, heq⟩ := exists_of_map_ok h
    cases heq
    have h1 := bracketBody_length_le hb
    have h2 := char_length_lt hr
    omega

theorem nameOrWildcard_length_lt {cs rest : List Char} {s : Segment}
    (h : nameOrWildcard cs = .ok (s, rest)) : rest.length < cs.length := by
  unfold nameOrWildcard at h
  split at h
  · cases h
    exact Nat.lt_succ_self _
  · obtain ⟨p, hp, heq⟩ := exists_of_map_ok h
    cases heq
    exact identifier_length_lt hp

theorem step_length_lt {cs rest : List Char} {s : Segment} (h : step cs = .ok (s, rest)) :
    rest.length < cs.length := by
  unfold step at h
  split at h
  · next cs =>
    have h1 := nameOrWildcard_length_lt h
    have h2 := skipBlanks_length_le cs
    simp only [List.length_cons]
    omega
  · exact Nat.lt_succ_of_lt (bracket_length_lt h)
  · cases h

/-! ## Whole expressions -/

/-- The segments up to the end of the text. -/
def steps (cs : List Char) : Except Stop Path :=
  match h : skipBlanks cs with
  | [] => .ok []
  | c :: cs' =>
    match hs : step (c :: cs') with
    | .error stop => .error stop
    | .ok (segment, rest) =>
      have : rest.length < cs.length :=
        Nat.lt_of_lt_of_le (step_length_lt hs) (h ▸ skipBlanks_length_le cs)
      (steps rest).map (segment :: ·)
termination_by cs.length

/-- The dollar sign, which starts the query form, is not part of the path. An expression without it
starts with a bracket, a name or a wildcard. -/
def expression (cs : List Char) : Except Stop Path :=
  match skipBlanks cs with
  | [] => .error (.expected [] .pathExpression)
  | '$' :: rest => steps rest
  | '[' :: rest => steps ('[' :: rest)
  | cs =>
    match nameOrWildcard cs with
    | .error stop => .error stop
    | .ok (segment, rest) => (steps rest).map (segment :: ·)

end PathParser

/-- The number of bytes of the UTF-8 form. -/
def utf8Length (cs : List Char) : Nat := cs.foldl (· + ·.utf8Size) 0

/-- The error of a text whose reading stopped: its position is what was read before. -/
def Stop.error (text : List Char) : Stop → PathError
  | .expected [] what => .unexpectedEnd what
  | .expected (c :: rest) what =>
    .unexpectedToken (utf8Length text - utf8Length (c :: rest)) c what
  | .malformed reason => .invalidSyntax reason

/-- The path that a text writes. -/
def Path.parse (text : String) : Except PathError Path :=
  (PathParser.expression text.toList).mapError (Stop.error text.toList)

end TypedYaml
