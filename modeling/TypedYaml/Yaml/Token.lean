/-!
# Tokens

Documents are read by the rules of YAML 1.2, schema definitions by those of YAML 1.1. Both have
the same tokens and the same grammar; they differ in what may stand next to what.

* `Edition`: which rules apply.
* `Fault`: why a text is not YAML.
* `ScalarStyle`: how a scalar is written; only plain scalars are ever anything but strings.
* `Token`: the tokens of a text.
-/

namespace TypedYaml.Yaml

/-- Which rules apply to a text. -/
inductive Edition where
  | v11
  | v12
deriving DecidableEq

/-- Why a text is not YAML, or has aliases that cannot be followed. -/
inductive Fault where
  | unexpectedCharacter
  | controlCharacter
  | indentation
  | tab
  | comment
  | misplacedEntry
  | misplacedKey
  | misplacedValue
  | keyWithoutValue
  | unclosedQuote
  | escape
  | trailingContent
  | blockScalarHeader
  | directive
  | tag
  | undeclaredHandle
  | anchor
  | unknownAnchor
  | nesting
  | repetition
  | grammar
  | duplicateKey
deriving DecidableEq

/-- How a scalar is written. Single and double quotes make no difference. -/
inductive ScalarStyle where
  | plain
  | quoted
  | literal
  | folded
deriving DecidableEq

/-- A token of a text. Indentation is made explicit: a block collection has a token where it starts
and one where it ends. -/
inductive Token where
  | versionDirective (major minor : Nat)
  | tagDirective (handle start : String)
  | otherDirective
  | documentStart
  | documentEnd
  | blockSequenceStart
  | blockMappingStart
  | blockEnd
  | flowSequenceStart
  | flowSequenceEnd
  | flowMappingStart
  | flowMappingEnd
  | blockEntry
  | flowEntry
  | key
  | value
  | alias (name : String)
  | anchor (name : String)
  | tag (handle suffix : String)
  | scalar (style : ScalarStyle) (text : String)
  | streamEnd
deriving DecidableEq

namespace Token

/-- An anchor or a tag, which belongs to the node after it. -/
def isProperty : Token → Bool
  | .anchor _ | .tag _ _ => true
  | _ => false

end Token

end TypedYaml.Yaml
