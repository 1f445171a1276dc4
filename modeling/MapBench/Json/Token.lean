/-!
# `MapBench.Json.Token`: the tokens of JSON

A JSON text is read byte by byte. Between tokens the reader waits for
one to begin; inside a string, a number or a word it knows what has
been read of it and what may follow. A number has no closing mark: it
ends where the next byte can't belong to it.

Strings stay as they are written, a list of bytes and escapes, since
a string that nobody asks for needn't be sound text. What they mean
is said in `MapBench.Json.Text`.

* `Token.ofBytes?`: the tokens of a text, or `none` if some piece of
  it is no token.
-/

set_option autoImplicit false

namespace MapBench.Json

/-- An item of a string: a byte of it, or an escape that gives a
16-bit unit. The short escapes stand for a byte. -/
inductive Item
  | byte (b : UInt8)
  | unit (u : Nat)
  deriving Repr, DecidableEq

/-- The tokens of JSON. A number is kept as the bytes it is written
with. -/
inductive Token
  | openBrace
  | closeBrace
  | openBracket
  | closeBracket
  | colon
  | comma
  | null
  | bool (b : Bool)
  | number (text : List UInt8)
  | string (items : List Item)
  deriving Repr, DecidableEq

/-- How far a number has been read. -/
inductive NumberPart
  /-- A minus sign. -/
  | minus
  /-- The whole part, which is a single zero. -/
  | zero
  /-- Digits of the whole part. -/
  | whole
  /-- The point. -/
  | point
  /-- Digits after the point. -/
  | fraction
  /-- The letter of the exponent. -/
  | letter
  /-- The sign of the exponent. -/
  | sign
  /-- Digits of the exponent. -/
  | exponent
  deriving Repr, DecidableEq

/-- Is the byte one of the ten digits? -/
def isDigit (b : UInt8) : Bool :=
  48 ≤ b && b ≤ 57

namespace NumberPart

/-- May a number end here? -/
def complete : NumberPart → Bool
  | zero | whole | fraction | exponent => true
  | minus | point | letter | sign => false

/-- The part that a first byte begins. -/
def first? (b : UInt8) : Option NumberPart :=
  if b = 45 then some minus
  else if b = 48 then some zero
  else if isDigit b then some whole
  else none

/-- Is the byte the letter of an exponent? -/
def isLetter (b : UInt8) : Bool :=
  b = 101 || b = 69

/-- The part that a further byte belongs to, if it can belong to the
number. -/
def next? (p : NumberPart) (b : UInt8) : Option NumberPart :=
  match p with
  | minus => if b = 48 then some zero else if isDigit b then some whole else none
  | zero => if b = 46 then some point else if isLetter b then some letter else none
  | whole =>
    if isDigit b then some whole
    else if b = 46 then some point
    else if isLetter b then some letter
    else none
  | point => if isDigit b then some fraction else none
  | fraction => if isDigit b then some fraction else if isLetter b then some letter else none
  | letter =>
    if b = 43 || b = 45 then some sign else if isDigit b then some exponent else none
  | sign => if isDigit b then some exponent else none
  | exponent => if isDigit b then some exponent else none

end NumberPart

/-- Where the reader of tokens stands. What has been read of the
token at hand is kept last first. -/
inductive Lexer.Mode
  /-- Between tokens. -/
  | between
  /-- In a string. -/
  | inString (rev : List Item)
  /-- In a string, after a backslash. -/
  | escaped (rev : List Item)
  /-- In a string, in the hexadecimal digits of an escape. -/
  | hex (rev : List Item) (read value : Nat)
  /-- In a number. -/
  | number (part : NumberPart) (rev : List UInt8)
  /-- In a word, with the bytes that are still due. -/
  | word (due : List UInt8) (token : Token)
  deriving Repr, DecidableEq

/-- The reader of tokens: its mode, and the finished tokens, last
first. -/
structure Lexer where
  mode : Lexer.Mode
  tokens : List Token
  deriving Repr, DecidableEq

/-- The value of a hexadecimal digit of either case. -/
def hexDigit? (b : UInt8) : Option Nat :=
  if isDigit b then some (b.toNat - 48)
  else if 97 ≤ b && b ≤ 102 then some (b.toNat - 87)
  else if 65 ≤ b && b ≤ 70 then some (b.toNat - 55)
  else none

/-- The byte that a short escape stands for. -/
def shortEscape? (b : UInt8) : Option UInt8 :=
  -- Quotes, backslashes and slashes stand for themselves.
  if b = 34 || b = 92 || b = 47 then some b
  else if b = 98 then some 8
  else if b = 102 then some 12
  else if b = 110 then some 10
  else if b = 114 then some 13
  else if b = 116 then some 9
  else none

/-- Is the byte white space between tokens? -/
def isSpace (b : UInt8) : Bool :=
  b = 32 || b = 9 || b = 10 || b = 13

namespace Lexer

/-- Nothing read yet. -/
def start : Lexer := ⟨.between, []⟩

/-- The mark that a byte is by itself. -/
def mark? (b : UInt8) : Option Token :=
  -- The bytes of `{ } [ ] : ,` in this order.
  if b = 123 then some .openBrace
  else if b = 125 then some .closeBrace
  else if b = 91 then some .openBracket
  else if b = 93 then some .closeBracket
  else if b = 58 then some .colon
  else if b = 44 then some .comma
  else none

/-- The rest of the word that a byte begins. -/
def word? (b : UInt8) : Option (List UInt8 × Token) :=
  -- The words are `null`, `true` and `false`.
  if b = 110 then some ([117, 108, 108], .null)
  else if b = 116 then some ([114, 117, 101], .bool true)
  else if b = 102 then some ([97, 108, 115, 101], .bool false)
  else none

/-- Read a byte between tokens. -/
def begin? (tokens : List Token) (b : UInt8) : Option Lexer :=
  if isSpace b then some ⟨.between, tokens⟩
  else if b = 34 then some ⟨.inString [], tokens⟩
  else
    match mark? b with
    | some token => some ⟨.between, token :: tokens⟩
    | none =>
      match NumberPart.first? b with
      | some part => some ⟨.number part [b], tokens⟩
      | none => (word? b).map fun (due, token) => ⟨.word due token, tokens⟩

/-- Read one byte. -/
def step (l : Lexer) (b : UInt8) : Option Lexer :=
  match l.mode with
  | .between => begin? l.tokens b
  | .inString rev =>
    if b = 34 then some ⟨.between, .string rev.reverse :: l.tokens⟩
    else if b = 92 then some { l with mode := .escaped rev }
    -- Control characters have to be escaped.
    else if b < 32 then none
    else some { l with mode := .inString (.byte b :: rev) }
  | .escaped rev =>
    -- The letter `u` is followed by four digits.
    if b = 117 then some { l with mode := .hex rev 0 0 }
    else (shortEscape? b).map fun c => { l with mode := .inString (.byte c :: rev) }
  | .hex rev read value =>
    (hexDigit? b).map fun d =>
      if read = 3 then { l with mode := .inString (.unit (value * 16 + d) :: rev) }
      else { l with mode := .hex rev (read + 1) (value * 16 + d) }
  | .number part rev =>
    match part.next? b with
    | some part => some { l with mode := .number part (b :: rev) }
    -- The byte is no part of the number, so another token begins with it.
    | none => if part.complete then begin? (.number rev.reverse :: l.tokens) b else none
  | .word due token =>
    match due with
    | [] => none
    | [last] => if b = last then some ⟨.between, token :: l.tokens⟩ else none
    | d :: due => if b = d then some { l with mode := .word due token } else none

/-- The tokens in order, if the text may end here. -/
def finish (l : Lexer) : Option (List Token) :=
  match l.mode with
  | .between => some l.tokens.reverse
  | .number part rev =>
    if part.complete then some (.number rev.reverse :: l.tokens).reverse else none
  | _ => none

end Lexer

/-- The tokens of a JSON text. -/
def Token.ofBytes? (bytes : List UInt8) : Option (List Token) :=
  (bytes.foldlM Lexer.step .start).bind Lexer.finish

end MapBench.Json
