import MapBench.Yaml.Token

/-!
# `MapBench.Yaml.Node`: documents from tokens

A document is a tree of scalars, sequences and mappings. An anchor
names a node, and an alias stands for the node that its name was given
to last; an alias inside the node it names stands for nothing that
could be read.

A node that is left out is a plain `~`; one that has a tag or an
anchor but no content is a plain empty text.

* `Node.ofText?`: the document of a text that has exactly one.
-/

set_option autoImplicit false

namespace MapBench.Yaml

/-- A node of a document. -/
inductive Node
  | scalar (plain : Bool) (tag : Option Tag) (text : String)
  | sequence (elements : List Node)
  | mapping (members : List (Node × Node))
  /-- An alias to a node around it. -/
  | cyclic
  deriving Repr

/-- A node that is left out. -/
def Node.absent : Node := .scalar true none "~"

/-- The anchors met so far. A name may be given again; the newest
number counts, and it has a node once that is complete. -/
structure Anchors where
  numbers : List (String × Nat)
  nodes : List (Nat × Node)
  deriving Repr

namespace Anchors

/-- No anchors. -/
def empty : Anchors := ⟨[], []⟩

/-- Give a name to a node that begins, and tell its number. -/
def begin' (a : Anchors) : Option String → Option Nat × Anchors
  | none => (none, a)
  | some name =>
    let number := a.numbers.length
    (some number, { a with numbers := (name, number) :: a.numbers })

/-- Keep a node that is complete. -/
def complete (a : Anchors) (number : Option Nat) (node : Node) : Anchors :=
  match number with
  | some number => { a with nodes := (number, node) :: a.nodes }
  | none => a

/-- The node that a name stands for. -/
def find? (a : Anchors) (name : String) : Option Node :=
  (a.numbers.lookup name).map fun number => (a.nodes.lookup number).getD .cyclic

end Anchors

/-- What is read from: the tokens left, and the anchors. -/
structure Reading where
  tokens : List Token
  anchors : Anchors
  deriving Repr

/-- Read the anchor and the tag in front of a node, in either
order. -/
def properties : List Token → Option String × Option Tag × List Token
  | .anchor name :: .tag tag :: ts => (some name, some tag, ts)
  | .tag tag :: .anchor name :: ts => (some name, some tag, ts)
  | .anchor name :: ts => (some name, none, ts)
  | .tag tag :: ts => (none, some tag, ts)
  | ts => (none, none, ts)

/-- A part of a document that is read with a bound on its depth. -/
abbrev Reader (α : Type) := Reading → Option (α × Reading)

/-- Where a node stands decides what it may be: in a block or not,
and whether a sequence may have its dashes at the column of the
mapping around it. -/
inductive Context
  | block
  | blockMember
  | flow
  deriving DecidableEq

/-- Does the token end a member of a block mapping? -/
def endsMember : Token → Bool
  | .key | .value | .blockEnd => true
  | _ => false

/-- Read a node, unless the next token says that it is left out. -/
def optional (absent : Token → Bool) (node : Reader Node) : Reader Node := fun r =>
  match r.tokens with
  | t :: _ => if absent t then some (.absent, r) else node r
  | [] => none

/-- Read the value behind a key, if there is a colon. -/
def memberValue (absent : Token → Bool) (node : Reader Node) : Reader Node := fun r =>
  match r.tokens with
  | .value :: ts => optional absent node { r with tokens := ts }
  | _ => some (.absent, r)

/-- Does the token end a value in a flow mapping? -/
def endsFlowValue : Token → Bool
  | .flowEntry | .flowMappingEnd => true
  | _ => false

/-- Does the token end a key in a flow mapping? -/
def endsFlowKey (t : Token) : Bool :=
  t == .value || endsFlowValue t

/-- Does the token end a value in a flow sequence? -/
def endsFlowElement : Token → Bool
  | .flowEntry | .flowSequenceEnd => true
  | _ => false

/-- Does the token end an element of a block sequence? -/
def endsElement : Token → Bool
  | .blockEntry | .blockEnd => true
  | _ => false

/-- Read the members of a block mapping up to its end. -/
def blockMembers (node : Reader Node) : Nat → List (Node × Node) → Reader Node
  | 0, _, _ => none
  | n + 1, rev, r =>
    match r.tokens with
    | .blockEnd :: ts => some (.mapping rev.reverse, { r with tokens := ts })
    | .key :: ts => do
      let (key, r) ← optional endsMember node { r with tokens := ts }
      let (value, r) ← memberValue endsMember node r
      blockMembers node n ((key, value) :: rev) r
    | .value :: _ => do
      let (value, r) ← memberValue endsMember node r
      blockMembers node n ((.absent, value) :: rev) r
    | _ => none

/-- Read the elements of a block sequence up to its end. -/
def blockElements (node : Reader Node) : Nat → List Node → Reader Node
  | 0, _, _ => none
  | n + 1, rev, r =>
    match r.tokens with
    | .blockEnd :: ts => some (.sequence rev.reverse, { r with tokens := ts })
    | .blockEntry :: ts => do
      let (element, r) ← optional endsElement node { r with tokens := ts }
      blockElements node n (element :: rev) r
    | _ => none

/-- Read the elements of a sequence whose dashes stand at the column
of the mapping around it. -/
def memberElements (node : Reader Node) : Nat → List Node → Reader Node
  | 0, _, _ => none
  | n + 1, rev, r =>
    match r.tokens with
    | .blockEntry :: ts => do
      let (element, r) ←
        optional (fun t => endsElement t || endsMember t) node { r with tokens := ts }
      memberElements node n (element :: rev) r
    | _ => some (.sequence rev.reverse, r)

/-- Read one member of a flow mapping. -/
def flowMember (node : Reader Node) : Reader (Node × Node) := fun r =>
  match r.tokens with
  | .key :: ts => do
    let (key, r) ← optional endsFlowKey node { r with tokens := ts }
    let (value, r) ← memberValue endsFlowValue node r
    return ((key, value), r)
  | .value :: _ => do
    let (value, r) ← memberValue endsFlowValue node r
    return ((.absent, value), r)
  | _ => do
    let (key, r) ← node r
    return ((key, .absent), r)

/-- Read the members of a flow mapping up to its end. A comma stands
between them, and may stand behind the last one. -/
def flowMembers (node : Reader Node) : Nat → List (Node × Node) → Reader Node
  | 0, _, _ => none
  | n + 1, rev, r =>
    match r.tokens with
    | .flowMappingEnd :: ts => some (.mapping rev.reverse, { r with tokens := ts })
    | .flowEntry :: .flowMappingEnd :: ts =>
      if rev.isEmpty then none else some (.mapping rev.reverse, { r with tokens := ts })
    | .flowEntry :: ts =>
      if rev.isEmpty then none
      else do
        let (member, r) ← flowMember node { r with tokens := ts }
        flowMembers node n (member :: rev) r
    | _ =>
      if rev.isEmpty then do
        let (member, r) ← flowMember node r
        flowMembers node n (member :: rev) r
      else none

/-- Read one element of a flow sequence. One with a key is a mapping
of one member. -/
def flowElement (node : Reader Node) : Reader Node := fun r =>
  match r.tokens with
  | .key :: ts => do
    let (key, r) ← optional (fun t => t == .value || endsFlowElement t) node
      { r with tokens := ts }
    let (value, r) ← memberValue endsFlowElement node r
    return (.mapping [(key, value)], r)
  | _ => node r

/-- Read the elements of a flow sequence up to its end. A comma
stands between them, and may stand behind the last one. -/
def flowElements (node : Reader Node) : Nat → List Node → Reader Node
  | 0, _, _ => none
  | n + 1, rev, r =>
    match r.tokens with
    | .flowSequenceEnd :: ts => some (.sequence rev.reverse, { r with tokens := ts })
    | .flowEntry :: .flowSequenceEnd :: ts =>
      if rev.isEmpty then none else some (.sequence rev.reverse, { r with tokens := ts })
    | .flowEntry :: ts =>
      if rev.isEmpty then none
      else do
        let (element, r) ← flowElement node { r with tokens := ts }
        flowElements node n (element :: rev) r
    | _ =>
      if rev.isEmpty then do
        let (element, r) ← flowElement node r
        flowElements node n (element :: rev) r
      else none

/-- Read a node. The number bounds how deeply nodes are nested, and
the number of tokens is enough for it, since every level begins with
one of its own. -/
def node : Nat → Context → Reader Node
  | 0, _, _ => none
  | depth + 1, context, r =>
    match r.tokens with
    | .alias name :: ts => (r.anchors.find? name).map fun n => (n, { r with tokens := ts })
    | _ => do
      let (name, tag, ts) := properties r.tokens
      -- The name is known inside the node already, but stands for nothing yet.
      let (number, anchors) := r.anchors.begin' name
      let steps := ts.length + 1
      let rest : Reading := ⟨ts.drop 1, anchors⟩
      let (n, r) ← match ts with
        | .scalar plain text :: _ => some (.scalar plain tag text, rest)
        | .flowSequenceStart :: _ => flowElements (node depth .flow) steps [] rest
        | .flowMappingStart :: _ => flowMembers (node depth .flow) steps [] rest
        | t :: _ =>
          -- Dashes at the column of a mapping make a sequence without tokens of its own.
          if t == .blockEntry && context == .blockMember then
            memberElements (node depth .block) steps [] ⟨ts, anchors⟩
          else if t == .blockSequenceStart && context != .flow then
            blockElements (node depth .block) steps [] rest
          else if t == .blockMappingStart && context != .flow then
            blockMembers (node depth .blockMember) steps [] rest
          else if name.isSome || tag.isSome then
            some (.scalar true tag "", ⟨ts, anchors⟩)
          else none
        | [] => none
      return (n, { r with anchors := r.anchors.complete number n })

/-- Does the token begin a document that is marked as one? -/
def beginsMarked : Token → Bool
  | .directive | .documentStart => true
  | _ => false

/-- Does the token end the content of a document? -/
def endsContent (t : Token) : Bool :=
  beginsMarked t || t == .documentEnd || t == .streamEnd

/-- Read the only document of a text. -/
def onlyDocument (tokens : List Token) : Option Node := do
  let first ← tokens.head?
  let read := node (tokens.length + 1) .block
  let (document, r) ←
    if beginsMarked first then
      match tokens.dropWhile (· == .directive) with
      | .documentStart :: ts => optional endsContent read ⟨ts, .empty⟩
      | _ => none
    else if first == .streamEnd then none
    else read ⟨tokens, .empty⟩
  -- Marks for the end of a document may be repeated, but nothing may follow them.
  if r.tokens.dropWhile (· == .documentEnd) == [.streamEnd] then return document else failure

/-- The document of a text that has exactly one. -/
def Node.ofText? (text : String) : Option Node :=
  (Token.ofText? text).bind onlyDocument

end MapBench.Yaml
