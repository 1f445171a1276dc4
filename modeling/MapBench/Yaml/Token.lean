import MapBench.Yaml.Scalar
import MapBench.Yaml.Tag

/-!
# `MapBench.Yaml.Token`: the tokens of YAML

Blocks are told by indentation, so the reader keeps the columns of
the blocks it is in and writes their beginnings and ends as tokens.
That something is a key is seen only at the colon behind it; until
then the place where the key began is kept, and the token that marks
a key is put there afterwards. A key may not run over a line end, nor
over 1024 characters.

* `Token.ofText?`: the tokens of a text, the end of the text
  included.
-/

set_option autoImplicit false

namespace MapBench.Yaml

/-- The tokens of YAML. -/
inductive Token
  | streamEnd
  | directive
  | documentStart
  | documentEnd
  | blockSequenceStart
  | blockMappingStart
  | blockEnd
  | flowSequenceStart
  | flowSequenceEnd
  | flowMappingStart
  | flowMappingEnd
  | blockEntry
  | flowEntry
  | key
  | value
  | alias (name : String)
  | anchor (name : String)
  | tag (tag : Tag)
  | scalar (plain : Bool) (text : String)
  deriving Repr, DecidableEq

/-- A place where a key may have begun. -/
structure KeyStart where
  /-- Whether a colon may still make it a key. -/
  possible : Bool
  /-- Whether a colon has to. -/
  required : Bool
  /-- How many tokens there were before it. -/
  position : Nat
  index : Nat
  line : Nat
  column : Nat

/-- No key begins. -/
def KeyStart.none : KeyStart := ⟨false, false, 0, 0, 0, 0⟩

/-- The reader of tokens. -/
structure Scanner where
  cursor : Cursor
  tokens : Array Token
  /-- One place for the innermost collection and each one around
  it. -/
  keys : List KeyStart
  keyAllowed : Bool
  /-- The column of the innermost block; -1 outside all blocks. -/
  indent : Int
  outerIndents : List Int
  flowLevel : Nat
  /-- Where a colon needs no blank behind it, since it follows a
  quoted scalar. -/
  adjacentAt : Nat

namespace Scanner

/-- Nothing read yet. -/
def start (text : String) : Scanner :=
  ⟨.ofText text, #[], [.none], true, -1, [], 0, 0⟩

/-- How many flow collections may be open at a time. -/
def maxFlowLevel : Nat := 255

/-- How many characters a key may have. -/
def maxKeyLength : Nat := 1024

/-- Write a token. -/
def emit (s : Scanner) (t : Token) : Scanner :=
  { s with tokens := s.tokens.push t }

/-- Read some characters. -/
def skip (s : Scanner) (n : Nat) : Scanner :=
  { s with cursor := s.cursor.skip n }

/-- Read blanks, line ends and comments up to the next token. In a
block, a line end allows a key again, and a tab is no blank where a
key may begin. -/
def toNextToken : Nat → Scanner → Scanner
  | 0, s => s
  | n + 1, s =>
    let c := s.cursor
    if c.head == ' ' || (c.head == '\t' && (0 < s.flowLevel || !s.keyAllowed)) then
      toNextToken n (s.skip 1)
    else if isBreak c.head then
      toNextToken n { s with
        cursor := c.skipBreak, keyAllowed := s.keyAllowed || s.flowLevel == 0 }
    else if c.head == '#' then toNextToken n { s with cursor := c.skipLine }
    else s

/-- Give up the places where no key can have begun any more. One that
had to be a key is an error. -/
def dropStaleKeys (s : Scanner) : Option Scanner := do
  let keys ← s.keys.mapM fun k =>
    if k.possible && (k.line < s.cursor.line || k.index + maxKeyLength < s.cursor.index) then
      -- Where a key has to stand, something else is an error.
      if k.required then none else some { k with possible := false }
    else some k
  return { s with keys }

/-- Give up the place of the innermost collection. -/
def dropKey (s : Scanner) : Option Scanner :=
  match s.keys with
  | [] => some s
  | k :: keys =>
    if k.possible && k.required then none
    else some { s with keys := { k with possible := false } :: keys }

/-- Keep this place, in case that a key begins here. -/
def markKey (s : Scanner) : Option Scanner :=
  if s.keyAllowed then do
    -- Only one key can begin at a time in a collection.
    let s ← s.dropKey
    let c := s.cursor
    let k : KeyStart := {
      possible := true
      required := 0 < s.flowLevel && s.indent == c.column
      position := s.tokens.size
      index := c.index
      line := c.line
      column := c.column }
    return { s with keys := k :: s.keys.drop 1 }
  else some s

/-- Begin a block at a column, unless the innermost one is that far
to the right already. Its token goes to a position. -/
def openBlock (s : Scanner) (column position : Nat) (t : Token) : Scanner :=
  if s.flowLevel == 0 && decide (s.indent < column) then
    { s with
      tokens := s.tokens.insertIdxIfInBounds position t
      indent := column
      outerIndents := s.indent :: s.outerIndents }
  else s

/-- End blocks that are further to the right than a column. -/
def closeBlocks (column : Int) (tokens : Array Token) (indent : Int) :
    List Int → Array Token × Int × List Int
  | [] => (tokens, indent, [])
  | outer :: outers =>
    if column < indent then closeBlocks column (tokens.push .blockEnd) outer outers
    else (tokens, indent, outer :: outers)

/-- Let a column end blocks. Columns mean nothing in flow
collections. -/
def unindent (s : Scanner) (column : Int) : Scanner :=
  if s.flowLevel == 0 then
    let (tokens, indent, outerIndents) := closeBlocks column s.tokens s.indent s.outerIndents
    { s with tokens, indent, outerIndents }
  else s

/-- Read a mark between documents. -/
def documentMark (s : Scanner) (t : Token) : Option Scanner := do
  let s ← (s.unindent (-1)).dropKey
  return { (s.skip 3).emit t with keyAllowed := false }

/-- Read a directive. -/
def directiveLine (s : Scanner) : Option Scanner := do
  let s ← (s.unindent (-1)).dropKey
  let cursor ← Yaml.directive s.cursor
  return { s.emit .directive with cursor, keyAllowed := false }

/-- Begin a flow collection. -/
def openFlow (s : Scanner) (t : Token) : Option Scanner := do
  let s ← s.markKey
  if maxFlowLevel ≤ s.flowLevel then failure
  return { (s.skip 1).emit t with
    keys := .none :: s.keys, flowLevel := s.flowLevel + 1, keyAllowed := true }

/-- End a flow collection. -/
def closeFlow (s : Scanner) (t : Token) : Option Scanner := do
  let s ← s.dropKey
  let s := if s.flowLevel = 0 then s
    else { s with flowLevel := s.flowLevel - 1, keys := s.keys.drop 1 }
  return { (s.skip 1).emit t with keyAllowed := false }

/-- Read the comma of a flow collection. -/
def flowComma (s : Scanner) : Option Scanner := do
  let s ← s.dropKey
  return { (s.skip 1).emit .flowEntry with keyAllowed := true }

/-- Read the dash of a block sequence. -/
def blockDash (s : Scanner) : Option Scanner := do
  if 0 < s.flowLevel || !s.keyAllowed then failure
  -- The first dash of a column begins the sequence.
  let s ← (s.openBlock s.cursor.column s.tokens.size .blockSequenceStart).dropKey
  return { (s.skip 1).emit .blockEntry with keyAllowed := true }

/-- Read the question mark of an explicit key. -/
def questionMark (s : Scanner) : Option Scanner := do
  if s.flowLevel == 0 && !s.keyAllowed then failure
  let s ← (s.openBlock s.cursor.column s.tokens.size .blockMappingStart).dropKey
  return { (s.skip 1).emit .key with keyAllowed := s.flowLevel == 0 }

/-- Read the colon before a value. -/
def colon (s : Scanner) : Option Scanner :=
  match s.keys with
  | [] => none
  | k :: keys =>
    if k.possible then
      -- It was a key, so its token goes where it began, and the one of a new block before that.
      let s := { s with tokens := s.tokens.insertIdxIfInBounds k.position .key }
      let s := s.openBlock k.column k.position .blockMappingStart
      some { (s.skip 1).emit .value with
        keys := { k with possible := false } :: keys, keyAllowed := false }
    -- There was no key, or it had a question mark and is complete.
    else if s.flowLevel == 0 && !s.keyAllowed then none
    else
      let s := s.openBlock s.cursor.column s.tokens.size .blockMappingStart
      some { (s.skip 1).emit .value with keyAllowed := s.flowLevel == 0 }

/-- Read an anchor or an alias. -/
def anchorWord (s : Scanner) (t : String → Token) : Option Scanner := do
  let s ← s.markKey
  let (name, cursor) ← anchorName s.cursor.next
  return { s.emit (t name) with cursor, keyAllowed := false }

/-- Read a tag. -/
def tagWord (s : Scanner) : Option Scanner := do
  let s ← s.markKey
  let (tag, cursor) ← Yaml.tag s.cursor
  return { s.emit (.tag tag) with cursor, keyAllowed := false }

/-- Read a block scalar. -/
def block (s : Scanner) : Option Scanner := do
  let s ← s.markKey
  let (text, cursor) ← blockScalar s.indent s.cursor
  return { s.emit (.scalar false (String.ofList text)) with cursor, keyAllowed := true }

/-- Read a quoted scalar. -/
def quoted (s : Scanner) : Option Scanner := do
  let s ← s.markKey
  let (text, cursor) ← quotedScalar s.cursor
  return { s.emit (.scalar false (String.ofList text)) with
    cursor, keyAllowed := false, adjacentAt := cursor.index }

/-- Read a plain scalar. One that ends on a new line lets a key begin
there. -/
def plain (s : Scanner) : Option Scanner := do
  let s ← s.markKey
  let (text, onNewLine, cursor) ← plainScalar (0 < s.flowLevel) (s.indent + 1) s.cursor
  return { s.emit (.scalar true (String.ofList text)) with cursor, keyAllowed := onNewLine }

/-- Read one token, which begins here. -/
def token (s : Scanner) : Option Scanner :=
  let c := s.cursor
  let inFlow : Bool := 0 < s.flowLevel
  let next := c.peek 1
  if c.column == 0 && c.head == '%' then s.directiveLine
  else if c.atDocumentMark '-' then s.documentMark .documentStart
  else if c.atDocumentMark '.' then s.documentMark .documentEnd
  else
    match c.head with
    | '[' => s.openFlow .flowSequenceStart
    | '\x7b' => s.openFlow .flowMappingStart
    | ']' => s.closeFlow .flowSequenceEnd
    | '\x7d' => s.closeFlow .flowMappingEnd
    | ',' => s.flowComma
    | '-' => if isGap next then s.blockDash else s.plain
    | '?' => if isGap next then s.questionMark else s.plain
    | ':' =>
      if isGap next || (inFlow && (isFlowMark next || c.index == s.adjacentAt)) then s.colon
      else s.plain
    | '*' => s.anchorWord .alias
    | '&' => s.anchorWord .anchor
    | '!' => s.tagWord
    | '|' => if inFlow then s.plain else s.block
    | '>' => if inFlow then s.plain else s.block
    | '\'' => s.quoted
    | '"' => s.quoted
    | '%' => none
    | '@' => none
    | '\x60' => none
    | _ => s.plain

/-- Read tokens to the end of the text. -/
def tokensFrom : Nat → Scanner → Option (Array Token)
  | 0, _ => none
  | n + 1, s => do
    let s ← (toNextToken (s.cursor.rest.length + 1) s).dropStaleKeys
    -- The column of the next token decides which blocks have ended.
    let s := s.unindent s.cursor.column
    if s.cursor.atEnd then
      let s ← (s.unindent (-1)).dropKey
      return s.tokens.push .streamEnd
    else
      let s ← s.token
      tokensFrom n s

end Scanner

/-- The tokens of a text. -/
def Token.ofText? (text : String) : Option (List Token) :=
  (Scanner.tokensFrom (text.length + 2) (.start text)).map Array.toList

end MapBench.Yaml
