import MapBench.Json.Token

/-!
# `MapBench.Json.Value`: JSON values from tokens

A value is built by a machine with a stack: on it are the arrays and
objects that have been opened and not yet closed, so that values may
be nested as deeply as memory allows.

* `Value.ofTokens?`: the value that tokens spell, all of them.
* `Value.ofBytes?`: the value of a JSON text.
-/

set_option autoImplicit false

namespace MapBench.Json

/-- A JSON value. Members of an object keep their order and may
repeat a key. -/
inductive Value
  | null
  | bool (b : Bool)
  | number (text : List UInt8)
  | string (items : List Item)
  | array (elements : List Value)
  | object (members : List (List Item × Value))
  deriving Repr

/-- An array or object that is being read; what it holds so far is
kept last first. An object frame lies below the value of `key`. -/
inductive Frame
  | array (rev : List Value)
  | object (rev : List (List Item × Value)) (key : List Item)

/-- What the next token may be. -/
inductive Expected
  /-- A value. -/
  | value
  /-- A value, or the end of an array without elements. -/
  | firstElement
  /-- A key, or the end of an object without members. -/
  | firstKey
  /-- A key, after the members read so far. -/
  | key (rev : List (List Item × Value))
  /-- The colon after a key. -/
  | colon (rev : List (List Item × Value)) (key : List Item)
  /-- What follows a value: a comma, the end of the innermost array
  or object, or nothing more. -/
  | after (value : Value)

/-- The machine that builds a value. -/
structure Builder where
  stack : List Frame
  expected : Expected

namespace Builder

/-- Nothing read yet. -/
def start : Builder := ⟨[], .value⟩

/-- Read a token with which a value begins. -/
def value? (stack : List Frame) : Token → Option Builder
  | .null => some ⟨stack, .after .null⟩
  | .bool b => some ⟨stack, .after (.bool b)⟩
  | .number text => some ⟨stack, .after (.number text)⟩
  | .string items => some ⟨stack, .after (.string items)⟩
  | .openBracket => some ⟨stack, .firstElement⟩
  | .openBrace => some ⟨stack, .firstKey⟩
  | _ => none

/-- Read a token after a value. -/
def after? (stack : List Frame) (v : Value) (t : Token) : Option Builder :=
  match stack, t with
  | .array rev :: stack, .comma => some ⟨.array (v :: rev) :: stack, .value⟩
  | .array rev :: stack, .closeBracket => some ⟨stack, .after (.array (v :: rev).reverse)⟩
  -- After a comma, an object waits for its next key, and its frame comes back with the colon.
  | .object rev key :: stack, .comma => some ⟨stack, .key ((key, v) :: rev)⟩
  | .object rev key :: stack, .closeBrace =>
    some ⟨stack, .after (.object ((key, v) :: rev).reverse)⟩
  | _, _ => none

/-- Read one token. -/
def step (b : Builder) (t : Token) : Option Builder :=
  match b.expected, t with
  | .value, t => value? b.stack t
  | .firstElement, .closeBracket => some ⟨b.stack, .after (.array [])⟩
  | .firstElement, t => value? (.array [] :: b.stack) t
  | .firstKey, .closeBrace => some ⟨b.stack, .after (.object [])⟩
  | .firstKey, .string key => some ⟨b.stack, .colon [] key⟩
  | .key rev, .string key => some ⟨b.stack, .colon rev key⟩
  | .colon rev key, .colon => some ⟨.object rev key :: b.stack, .value⟩
  | .after v, t => after? b.stack v t
  | _, _ => none

/-- The value, if it is complete. -/
def finish (b : Builder) : Option Value :=
  match b.stack, b.expected with
  | [], .after v => some v
  | _, _ => none

end Builder

/-- The value that all the tokens together spell. -/
def Value.ofTokens? (tokens : List Token) : Option Value :=
  (tokens.foldlM Builder.step .start).bind Builder.finish

/-- The value of a JSON text. -/
def Value.ofBytes? (bytes : List UInt8) : Option Value :=
  (Token.ofBytes? bytes).bind Value.ofTokens?

end MapBench.Json
