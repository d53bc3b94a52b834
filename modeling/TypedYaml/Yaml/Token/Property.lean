import TypedYaml.Basic
import TypedYaml.Yaml.Token.Layout

/-!
# Anchors, tags and directives

* `Lexer.anchorName`: the name after `&` or `*`.
* `Lexer.tagToken`: a tag, as a handle and what follows it.
* `Lexer.directive`: a directive up to the end of its line.
-/

namespace TypedYaml.Yaml.Lexer

/-! ## Anchors -/

/-- By YAML 1.2 a name holds any characters but blanks and those of flow collections. By YAML 1.1
it is a word, and one of a few characters or a blank must follow. -/
def anchorName : Lexer String := do
  take 1
  let e := (← get).edition
  match e with
  | .v12 =>
    let name ← takeWhile fun c => !isBlankOrBreak e c && !isFlow c && c != '\uFEFF'
    failIf name.isEmpty .anchor
    return String.ofList name
  | .v11 =>
    let name ← takeWhile isWordChar
    let followed :=
      (← peek).all fun c =>
        isBlankOrBreak e c || ['?', ':', ',', ']', '\x7d', '%', '@', '\x60'].contains c
    failIf (name.isEmpty || !followed) .anchor
    return String.ofList name

/-! ## Tags -/

/-- The characters of a URI; within a bare tag, those of flow collections are left out. -/
def isUriChar (e : Edition) (c : Char) : Bool :=
  isWordChar c || ";/?:@&=+$,.!~*'()[]%".toList.contains c || (c == '#' && e == .v12)

/-- The characters of a tag after its handle. -/
def isTagChar (e : Edition) (c : Char) : Bool :=
  isUriChar e c && !isFlow c && !(c == '!' && e == .v12)

/-- A byte written as a percent sign and two digits. -/
def escapedByte : Lexer Nat := do
  let digits := ((← get).cursor.rest.drop 1).take 2
  match Text.natOfDigits? 16 digits with
  | some n =>
    failIf ((← peek) != some '%' || digits.length < 2) .tag
    take 3
    return n
  | none => fail .tag

/-- Adds the given number of continuation bytes to the bits of a character. -/
def moreBytes : Nat → Nat → Lexer Nat
  | 0, n => return n
  | count + 1, n => do
    let b ← escapedByte
    failIf (b / 64 != 2) .tag
    moreBytes count (n * 64 + b % 64)

/-- A character written as the bytes of its UTF-8 form. -/
def escapedChar : Lexer Char := do
  let b ← escapedByte
  let n ←
    if b < 0x80 then pure b
    else if b / 32 = 6 then moreBytes 1 (b % 32)
    else if b / 16 = 14 then moreBytes 2 (b % 16)
    else if b / 8 = 30 then moreBytes 3 (b % 8)
    else fail .tag
  if n.isValidChar then return Char.ofNat n else fail .tag

/-- The characters of a class, which may also be written as bytes; at most `fuel` of them. -/
def uriChars (p : Char → Bool) : Nat → Lexer (List Char)
  | 0 => return []
  | fuel + 1 => do
    match ← peek with
    | none => return []
    | some c =>
      if c = '%' then
        let d ← escapedChar
        return d :: (← uriChars p fuel)
      else if p c then
        take 1
        return c :: (← uriChars p fuel)
      else return []

/-- The characters of a class up to the first other one. -/
def uri (p : Char → Bool) : Lexer (List Char) := do uriChars p (← left)

/-- An exclamation mark, alone or around a word. -/
def tagHandle (inDirective : Bool) : Lexer (List Char) := do
  failIf ((← peek) != some '!') .tag
  take 1
  let word ← takeWhile isWordChar
  if (← peek) == some '!' then
    take 1
    return '!' :: word ++ ['!']
  failIf (inDirective && !word.isEmpty) .tag
  return '!' :: word

/-- A tag in angle brackets, or a handle with what follows it. An exclamation mark alone is a tag as
well. -/
def tagToken : Lexer Token := do
  let e := (← get).edition
  let token ←
    if (← ahead 1) == some '<' then do
      take 2
      let suffix ← uri (isUriChar e)
      failIf ((← peek) != some '>' || (e == .v11 && suffix.isEmpty)) .tag
      take 1
      pure (Token.tag "" (String.ofList suffix))
    else do
      let handle ← tagHandle false
      if handle.length ≥ 2 ∧ handle.getLast? = some '!' then
        let suffix ← uri (isTagChar e)
        failIf suffix.isEmpty .tag
        pure (Token.tag (String.ofList handle) (String.ofList suffix))
      else
        let suffix := handle.drop 1 ++ (← uri (isTagChar e))
        if suffix.isEmpty then pure (Token.tag "" "!")
        else pure (Token.tag "!" (String.ofList suffix))
  let inFlow := (← flowLevel) > 0
  let next ← peek
  let flowFollows :=
    inFlow && next.any fun c => match e with | .v11 => c == ',' | .v12 => isFlow c
  failIf (!(atBlankOrEnd e next || flowFollows)) .tag
  return token

/-! ## Directives -/

/-- A part of a version, with nine digits at most. -/
def versionNumber : Lexer Nat := do
  let digits ← takeWhile isDigit
  failIf (digits.isEmpty || digits.length > 9) .directive
  return Nat.ofDigitChars 10 digits 0

/-- The version that a document is written for. -/
def versionDirective : Lexer Token := do
  let major ← versionNumber
  failIf ((← peek) != some '.') .directive
  take 1
  return .versionDirective major (← versionNumber)

/-- The text for which a handle stands. By YAML 1.2 it starts like a tag. -/
def tagStart (e : Edition) : Lexer (List Char) := do
  match e with
  | .v11 =>
    let cs ← uri (isUriChar e)
    failIf cs.isEmpty .directive
    return cs
  | .v12 =>
    failIf (!(← peek).any fun c => c == '!' || isTagChar e c) .directive
    uri (isUriChar e)

/-- A handle and what it stands for. -/
def tagDirective (e : Edition) : Lexer Token := do
  let handle ← tagHandle true
  let blanks ← takeWhile isBlank
  failIf (e == .v11 && blanks.isEmpty) .directive
  let start ← tagStart e
  failIf (!atBlankOrEnd e (← peek)) .directive
  return .tagDirective (String.ofList handle) (String.ofList start)

/-- YAML 1.2 passes over directives it does not know. -/
def directive : Lexer Token := do
  let e := (← get).edition
  take 1
  let name ← takeWhile isWordChar
  failIf (name.isEmpty || !atBlankOrEnd e (← peek)) .directive
  let token ←
    if name = "YAML".toList then do
      let _ ← takeWhile isBlank
      versionDirective
    else if name = "TAG".toList then do
      let _ ← takeWhile isBlank
      tagDirective e
    else do
      failIf (e == .v11) .directive
      skipComment
      pure .otherDirective
  match e with
  | .v11 =>
    let _ ← takeWhile isBlank
    if (← peek) == some '#' then skipComment
  | .v12 =>
    let _ ← skipToLineEnd true
  failIf (!atBreakOrEnd e (← peek)) .directive
  let _ ← takeBreak
  return token

end TypedYaml.Yaml.Lexer
