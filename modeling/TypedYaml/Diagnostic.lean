import TypedYaml.Path.Basic

/-!
# Diagnostics

* `Problem`: what can be wrong at a position of a document.
* `Severity`: a deprecated property is worth a warning, all else is an error.
* `Diagnostic`: a problem with its path; `Diagnostic.display` is the line that reports it.
-/

namespace TypedYaml

/-- How grave a problem is. -/
inductive Severity where
  | warning
  | error
deriving DecidableEq

/-- The word for it in a report. -/
def Severity.text : Severity → String
  | .warning => "warning"
  | .error => "error"

/-- What can be wrong at a position of a document. The text `found` says what stands there. -/
inductive Problem where
  | unknownProperty (property : String) (typeName : String)
  | deprecated (property : String) (replacement : Option String)
  | expectedMap (typeName : String) (found : String)
  | expectedSequence (typeName : String) (found : String)
  | expectedScalar (typeName : String) (found : String)
  | invalidValue (value : String) (typeName : String)
deriving DecidableEq

namespace Problem

/-- A deprecated property is worth a warning, all else is an error. -/
def severity : Problem → Severity
  | .deprecated .. => .warning
  | _ => .error

/-- What is wrong, in words. -/
def text : Problem → String
  | .unknownProperty property typeName =>
    "Unknown property '" ++ property ++ "' for type " ++ typeName
  | .deprecated property (some replacement) =>
    "Property '" ++ property ++ "' is deprecated, use '" ++ replacement ++ "' instead"
  | .deprecated property none => "Property '" ++ property ++ "' is deprecated"
  | .expectedMap typeName found | .expectedSequence typeName found
  | .expectedScalar typeName found => "Expected " ++ typeName ++ " but found a " ++ found
  | .invalidValue value typeName => "'" ++ value ++ "' is not a valid " ++ typeName

end Problem

/-- A problem with its path. -/
structure Diagnostic where
  path : Path
  problem : Problem
deriving DecidableEq

namespace Diagnostic

/-- How grave the problem is. -/
def severity (d : Diagnostic) : Severity := d.problem.severity

/-- Whether the document does not conform to its schema. -/
def isError (d : Diagnostic) : Bool := d.severity == .error

/-- The same problem seen from the parent of the node it was found in. -/
def under (s : Segment) (d : Diagnostic) : Diagnostic := { d with path := s :: d.path }

/-- The line that reports it. -/
def display (d : Diagnostic) : String :=
  let place := if d.path.isEmpty then "<root>" else d.path.display
  d.severity.text ++ ": " ++ place ++ ": " ++ d.problem.text

end Diagnostic

end TypedYaml
