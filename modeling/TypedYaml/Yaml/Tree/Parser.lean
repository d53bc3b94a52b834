import TypedYaml.Yaml.Token.Lexer
import TypedYaml.Yaml.Tree

/-!
# From tokens to documents

* `Grammar.node`: one node with all that is below it.
* `Grammar.documents`: the documents of a stream.
* `Tree.ofText`: the documents of a text.
-/

namespace TypedYaml.Yaml

/-- What tag handles stand for. -/
abbrev Handles := List (String × String)

namespace Grammar

/-- A reading step on tokens. -/
abbrev Step (α : Type) := List Token → Except Fault (α × List Token)

/-! ## Tags -/

/-- Whether a text is a handle between two exclamation marks. -/
def isHandle (handle : String) : Bool :=
  handle.length ≥ 2 && handle.startsWith "!" && handle.endsWith "!"

/-- Replaces a handle by what it stands for. A handle with a name has to be declared. -/
def resolveTag (handles : Handles) (handle suffix : String) : Except Fault Tag :=
  match handles.lookup handle with
  | some start => .ok ⟨start, suffix⟩
  | none =>
    if handle = "!!" then .ok ⟨coreTagStart, suffix⟩
    else if isHandle handle then .error .undeclaredHandle
    else .ok ⟨handle, suffix⟩

/-- At most one anchor and one tag, in either order. -/
def properties (handles : Handles) : Step Properties
  | .anchor a :: .tag h s :: rest =>
    (resolveTag handles h s).map fun t => (⟨some a, some t⟩, rest)
  | .anchor a :: rest => .ok (⟨some a, none⟩, rest)
  | .tag h s :: .anchor a :: rest =>
    (resolveTag handles h s).map fun t => (⟨some a, some t⟩, rest)
  | .tag h s :: rest => (resolveTag handles h s).map fun t => (⟨none, some t⟩, rest)
  | rest => .ok (.none, rest)

/-! ## Nodes -/

/-- Whether the value of a block entry is missing before a token. -/
def endsEntry : Token → Bool
  | .key | .value | .blockEnd => true
  | _ => false

/-- Whether a key or value is missing before a token of a flow sequence. -/
def endsFlowPart : Token → Bool
  | .value | .flowEntry | .flowSequenceEnd => true
  | _ => false

/-- Whether a key or value is missing before a token of a flow mapping. -/
def endsFlowKey : Token → Bool
  | .value | .flowEntry | .flowMappingEnd => true
  | _ => false

mutual

/-- A node. Block collections stand in block context only; a sequence as the value of a mapping
need not be further in than its key. -/
def node (e : Edition) (hs : Handles) : Nat → Bool → Bool → Step Tree
  | 0, _, _, _ => .error .grammar
  | fuel + 1, block, indentless, ts =>
    match ts with
    | .alias name :: rest => .ok (.alias name, rest)
    | _ => do
      let (p, ts) ← properties hs ts
      match ts with
      | .scalar style text :: rest => .ok (.scalar style text p, rest)
      | .flowSequenceStart :: rest =>
        let (items, rest) ← flowItems e hs fuel true rest
        .ok (.sequence items p, rest)
      | .flowMappingStart :: rest =>
        let (entries, rest) ← flowEntries e hs fuel true rest
        .ok (.mapping entries p, rest)
      | t :: rest =>
        if indentless && t == .blockEntry then
          let (items, rest) ← entriesOfKey e hs fuel ts
          .ok (.sequence items p, rest)
        else if block && t == .blockSequenceStart then
          let (items, rest) ← blockItems e hs fuel rest
          .ok (.sequence items p, rest)
        else if block && t == .blockMappingStart then
          let (entries, rest) ← blockEntries e hs fuel rest
          .ok (.mapping entries p, rest)
        else if p.anchor.isSome || p.tag.isSome then .ok (.scalar .plain "" p, ts)
        else .error .grammar
      | [] => .error .grammar

/-- The items of a block sequence. An item may be empty. -/
def blockItems (e : Edition) (hs : Handles) : Nat → Step (List Tree)
  | 0, _ => .error .grammar
  | fuel + 1, ts =>
    match ts with
    | .blockEnd :: rest => .ok ([], rest)
    | .blockEntry :: rest => do
      let (item, rest) ←
        match rest with
        | .blockEntry :: _ | .blockEnd :: _ => .ok (.empty, rest)
        | _ => node e hs fuel true false rest
      let (items, rest) ← blockItems e hs fuel rest
      .ok (item :: items, rest)
    | _ => .error .grammar

/-- The items of a sequence that is not further in than the key before it. -/
def entriesOfKey (e : Edition) (hs : Handles) : Nat → Step (List Tree)
  | 0, _ => .error .grammar
  | fuel + 1, ts =>
    match ts with
    | .blockEntry :: rest => do
      let (item, rest) ←
        match rest with
        | t :: _ =>
          if t == .blockEntry || endsEntry t then .ok (.empty, rest)
          else node e hs fuel true false rest
        | [] => .error .grammar
      let (items, rest) ← entriesOfKey e hs fuel rest
      .ok (item :: items, rest)
    | _ => .ok ([], ts)

/-- The part of a block mapping after a key mark or a value mark. -/
def blockPart (e : Edition) (hs : Handles) : Nat → Step Tree
  | 0, _ => .error .grammar
  | fuel + 1, ts =>
    if ts.head?.any endsEntry then .ok (.empty, ts) else node e hs fuel true true ts

/-- The value of an entry in a block mapping, which may be missing. -/
def blockValue (e : Edition) (hs : Handles) : Nat → Step Tree
  | 0, _ => .error .grammar
  | fuel + 1, ts =>
    match ts with
    | .value :: rest => blockPart e hs fuel rest
    | _ => .ok (.empty, ts)

/-- By YAML 1.2 the key may be missing altogether. -/
def blockEntries (e : Edition) (hs : Handles) : Nat → Step (List (Tree × Tree))
  | 0, _ => .error .grammar
  | fuel + 1, ts =>
    match ts with
    | .blockEnd :: rest => .ok ([], rest)
    | t :: rest => do
      let (key, rest) ←
        match t, e with
        | .key, _ => blockPart e hs fuel rest
        | .value, .v12 => .ok (.empty, ts)
        | _, _ => .error .grammar
      let (value, rest) ← blockValue e hs fuel rest
      let (entries, rest) ← blockEntries e hs fuel rest
      .ok ((key, value) :: entries, rest)
    | [] => .error .grammar

/-- The value of an entry in a flow collection that the given tokens end. -/
def flowValue (e : Edition) (hs : Handles) (ends : Token → Bool) : Nat → Step Tree
  | 0, _ => .error .grammar
  | fuel + 1, ts =>
    match ts with
    | .value :: rest =>
      if rest.head?.any fun t => t != .value && ends t then .ok (.empty, rest)
      else node e hs fuel false false rest
    | _ => .ok (.empty, ts)

/-- An item of a flow sequence that is a mapping with one entry, after its key mark. -/
def flowPair (e : Edition) (hs : Handles) : Nat → Step Tree
  | 0, _ => .error .grammar
  | fuel + 1, ts => do
    let (key, rest) ←
      if ts.head?.any endsFlowPart then .ok (.empty, ts.drop 1) else node e hs fuel false false ts
    let (value, rest) ← flowValue e hs endsFlowPart fuel rest
    .ok (.mapping [(key, value)] .none, rest)

/-- The items of a flow sequence, with commas between them; one more may stand at the end. -/
def flowItems (e : Edition) (hs : Handles) : Nat → Bool → Step (List Tree)
  | 0, _, _ => .error .grammar
  | fuel + 1, first, ts =>
    match ts with
    | .flowSequenceEnd :: rest => .ok ([], rest)
    | _ => do
      let ts ←
        if first then .ok ts
        else
          match ts with
          | .flowEntry :: rest => .ok rest
          | _ => .error .grammar
      match ts with
      | .flowSequenceEnd :: rest => .ok ([], rest)
      | _ =>
        let (item, rest) ←
          match ts with
          | .key :: rest => flowPair e hs fuel rest
          | _ => node e hs fuel false false ts
        let (items, rest) ← flowItems e hs fuel false rest
        .ok (item :: items, rest)

/-- An entry of a flow mapping may lack its value, and by YAML 1.2 its key. -/
def flowEntries (e : Edition) (hs : Handles) : Nat → Bool → Step (List (Tree × Tree))
  | 0, _, _ => .error .grammar
  | fuel + 1, first, ts =>
    match ts with
    | .flowMappingEnd :: rest => .ok ([], rest)
    | _ => do
      let ts ←
        if first then .ok ts
        else
          match ts with
          | .flowEntry :: rest => .ok rest
          | _ => .error .grammar
      match ts, e with
      | .flowMappingEnd :: rest, _ => .ok ([], rest)
      | .key :: rest, _ =>
        let (key, rest) ←
          if rest.head?.any endsFlowKey then .ok (.empty, rest)
          else node e hs fuel false false rest
        let (value, rest) ← flowValue e hs endsFlowKey fuel rest
        let (entries, rest) ← flowEntries e hs fuel false rest
        .ok ((key, value) :: entries, rest)
      | .value :: _, .v12 =>
        let (value, rest) ← flowValue e hs endsFlowKey fuel ts
        let (entries, rest) ← flowEntries e hs fuel false rest
        .ok ((.empty, value) :: entries, rest)
      | _, _ =>
        let (key, rest) ← node e hs fuel false false ts
        let (entries, rest) ← flowEntries e hs fuel false rest
        .ok ((key, .empty) :: entries, rest)

end

/-! ## Documents -/

/-- Directives stand before the start mark of a document. -/
def isDirective : Token → Bool
  | .versionDirective _ _ | .tagDirective _ _ | .otherDirective => true
  | _ => false

/-- The handles that directives declare, where the version was given already or not. By YAML 1.2
each directive replaces the handles declared before it. -/
def directives (e : Edition) : Bool → Handles → List Token → Except Fault (Handles × List Token)
  | versioned, hs, .versionDirective major minor :: rest =>
    if versioned then .error .directive
    else
      match e with
      | .v11 =>
        if major = 1 ∧ (minor = 1 ∨ minor = 2) then directives e true hs rest
        else .error .directive
      | .v12 => directives e true [] rest
  | versioned, hs, .tagDirective handle start :: rest =>
    match e with
    | .v11 =>
      if (hs.lookup handle).isSome then .error .directive
      else directives e versioned ((handle, start) :: hs) rest
    | .v12 => directives e versioned [(handle, start)] rest
  | versioned, _, .otherDirective :: rest => directives e versioned [] rest
  | _, hs, rest => .ok (hs, rest)

/-- The content of a document after its start mark. -/
def explicitContent (e : Edition) (hs : Handles) (fuel : Nat) : Step Tree := fun ts =>
  match ts with
  | .documentStart :: _ | .documentEnd :: _ | .streamEnd :: _ => .ok (.empty, ts)
  | t :: _ => if isDirective t then .ok (.empty, ts) else node e hs fuel true false ts
  | [] => .error .grammar

/-- A document; `implicit` tells whether it may lack its start mark. -/
def document (e : Edition) (fuel : Nat) (implicit : Bool) : Step Tree := fun ts =>
  let explicit := ts.head?.any fun t => isDirective t || t == .documentStart
  if implicit && !explicit then node e [] fuel true false ts
  else do
    let (hs, rest) ← directives e false [] ts
    match rest with
    | .documentStart :: rest => explicitContent e hs fuel rest
    | _ => .error .grammar

/-- The documents up to the end of the stream. An end mark lets the next one lack its start mark
by YAML 1.2; by YAML 1.1 only the first may. -/
def documents (e : Edition) (fuel : Nat) :
    Nat → Bool → List Token → Except Fault (List Tree)
  | 0, _, _ => .error .grammar
  | count + 1, implicit, ts =>
    let ts := if e == .v12 || !implicit then ts.dropWhile (· == .documentEnd) else ts
    match ts with
    | [.streamEnd] => .ok []
    | _ => do
      let (tree, rest) ← document e fuel implicit ts
      match rest with
      | .documentEnd :: rest =>
        let trees ← documents e fuel count (e == .v12) rest
        .ok (tree :: trees)
      | t :: _ =>
        if e == .v12 && isDirective t then .error .directive
        else
          let trees ← documents e fuel count false rest
          .ok (tree :: trees)
      | [] => .error .grammar

end Grammar

/-- The documents of a text. Each token leads to four steps into the grammar at most. -/
def Tree.ofText (e : Edition) (text : String) : Except Fault (List Tree) := do
  let ts ← Token.ofText e text
  Grammar.documents e (4 * ts.length + 4) (ts.length + 1) true ts

end TypedYaml.Yaml
