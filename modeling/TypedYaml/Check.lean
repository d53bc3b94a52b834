import TypedYaml.Decimal.Reading
import TypedYaml.Diagnostic
import TypedYaml.Node
import TypedYaml.Path.Parser
import TypedYaml.Schema.Navigation

/-!
# Checking documents

A document is walked together with the type that is expected at each position, and what does not
fit is reported in document order. Null fits everywhere, and nothing is said about positions whose
type is unknown.

Two shorthands are accepted. A list of scalars may be written as one scalar, with commas between
its elements. A key that holds dots may stand for a path: the longest declared property before
one of its dots is followed first, and the rest is read as a path.

* `Registry.accepts`: whether a scalar is a value of an atomic type.
* `Registry.resolveDotted?`: the type that a dotted key stands for.
* `Registry.validate`: the diagnostics of a document.
-/

namespace TypedYaml

/-- What to report besides errors. -/
structure CheckOptions where
  reportDeprecated : Bool

namespace Registry

variable (r : Registry)

/-! ## Scalars -/

/-- ASCII letters are the same in either case. -/
def equalIgnoringCase (s t : String) : Bool :=
  s.toList.map Char.toLower == t.toList.map Char.toLower

/-- An integer is a number without a point, or text that reads as one. -/
def isInteger : Node → Bool
  | .number n => n.isInt
  | node => (node.scalarText?.bind fun s => Text.int64? (Text.trim s.toList)).isSome

/-- A float is any number, or text that reads as one. -/
def isFloat : Node → Bool
  | .number _ => true
  | node => (node.scalarText?.bind fun s => FloatText.read? (Text.trim s.toList)).isSome

/-- Whether a scalar with the given text is a value of an atomic type. -/
def accepts (t : TypeId) (node : Node) (text : String) : Bool :=
  let hints := (r.descriptor t).hints
  if !hints.isEmpty then hints.any (equalIgnoringCase · text)
  else if t = .integer then isInteger node
  else if t = .float then isFloat node
  else true

/-- The diagnostics of a node of which a value of an atomic type is expected. -/
def checkScalar (t : TypeId) (node : Node) : List Diagnostic :=
  match node.scalarText? with
  | none => [⟨[], .expectedScalar (r.typeName t) node.kindName⟩]
  | some text =>
    if r.accepts t node text then [] else [⟨[], .invalidValue text (r.typeName t)⟩]

/-! ## Lists written as one scalar -/

/-- The segment to the element with a given number. -/
def indexSegment (i : Nat) : Segment := .index (Int64.ofNat i)

/-- The texts between commas, trimmed. -/
def splitList (text : String) : List String :=
  (text.toList.splitOn ',').map fun part => String.ofList (Text.trim part)

/-- The diagnostics of texts in the place of elements. -/
def checkParts (element : TypeId) (parts : List String) : List Diagnostic :=
  (parts.zipIdx.map fun (part, i) =>
    (r.checkScalar element (.string part)).map (.under (indexSegment i))).flatten

/-- A scalar where a list is expected. -/
def checkShorthand (t element : TypeId) (node : Node) : List Diagnostic :=
  if r.isAtomic element && node.isScalar then
    match node with
    | .string text => r.checkParts element (splitList text)
    | _ => (r.checkScalar element node).map (.under (indexSegment 0))
  else [⟨[], .expectedSequence (r.typeName t) node.kindName⟩]

/-! ## Dotted keys -/

/-- The cuts of a text at its dots, the last dot first: what comes before and after it. -/
def cutsAtDots : List Char → List (List Char × List Char)
  | [] => []
  | c :: cs =>
    let later := (cutsAtDots cs).map fun (left, right) => (c :: left, right)
    if c = '.' then later ++ [([], cs)] else later

/-- The property with the longest name that ends before a dot of the key, and the text after that
dot. -/
def dottedProperty? (t : TypeId) (key : String) : Option (Property × String) :=
  (cutsAtDots key.toList).findSome? fun (left, right) =>
    ((r.descriptor t).property? (String.ofList left)).map fun p => (p, String.ofList right)

/-- The type at the path that a text writes. -/
def resolveText? (t : TypeId) (text : String) : Option TypeId :=
  (Path.parse text).toOption.bind fun path => (r.resolve t path).toOption

/-- The type that a key with dots stands for in a bean. -/
def resolveDotted? (t : TypeId) (key : String) : Option TypeId :=
  if !key.toList.contains '.' then none
  else
    match r.dottedProperty? t key with
    | some (p, rest) => r.resolveText? p.type rest
    | none => r.resolveText? t key

/-! ## Mappings -/

/-- What the value of an entry has to be. -/
inductive EntryType where
  | property (p : Property)
  | value (type : TypeId)
  | undeclared

/-- What the value of a key has to be. A key is a name before it is anything else. -/
def entryType (t : TypeId) (key : String) : EntryType :=
  match (r.descriptor t).property? key with
  | some p => .property p
  | none =>
    if r.isOpenMap t then .value (r.domain t)
    else
      match r.resolveDotted? t key with
      | some u => .value u
      | none => .undeclared

/-- The warning that a property is deprecated, if warnings are wanted. -/
def deprecations (options : CheckOptions) (p : Property) : List Diagnostic :=
  match p.deprecation with
  | some d => if options.reportDeprecated then [⟨[], .deprecated p.name d.replacement⟩] else []
  | none => []

/-! ## Documents -/

mutual

/-- The diagnostics of a node of which the given type is expected, with paths from that node. -/
def check (options : CheckOptions) (t : TypeId) : Node → List Diagnostic
  | .null => []
  | .mapping entries =>
    match r.kind t with
    | .unknown => []
    | .atomic => [⟨[], .expectedScalar (r.typeName t) "mapping"⟩]
    | .sequence _ => [⟨[], .expectedSequence (r.typeName t) "mapping"⟩]
    | .bean | .map _ => checkEntries options t entries
  | .sequence items =>
    match r.kind t with
    | .unknown => []
    | .atomic => [⟨[], .expectedScalar (r.typeName t) "sequence"⟩]
    | .sequence element => checkItems options element 0 items
    | .bean | .map _ => [⟨[], .expectedMap (r.typeName t) "sequence"⟩]
  | node =>
    match r.kind t with
    | .unknown => []
    | .atomic => r.checkScalar t node
    | .sequence element => r.checkShorthand t element node
    | .bean | .map _ => [⟨[], .expectedMap (r.typeName t) node.kindName⟩]

/-- The diagnostics of the entries of a mapping, in order. -/
def checkEntries (options : CheckOptions) (t : TypeId) :
    List (String × Node) → List Diagnostic
  | [] => []
  | (key, node) :: rest =>
    (match r.entryType t key with
      | .property p => deprecations options p ++ check options p.type node
      | .value u => check options u node
      | .undeclared => [⟨[], .unknownProperty key (r.typeName t)⟩]).map (.under (.key key)) ++
      checkEntries options t rest

/-- The diagnostics of the items of a sequence, the first of which has the number `i`. -/
def checkItems (options : CheckOptions) (element : TypeId) (i : Nat) :
    List Node → List Diagnostic
  | [] => []
  | node :: rest =>
    (check options element node).map (.under (indexSegment i)) ++
      checkItems options element (i + 1) rest

end

/-- The diagnostics of a document. The documents of a stream are checked one by one, each against
the same type. -/
def validate (options : CheckOptions) (root : TypeId) : Node → List Diagnostic
  | .stream documents => r.checkItems options root 0 documents
  | document => r.check options root document

end Registry

end TypedYaml
