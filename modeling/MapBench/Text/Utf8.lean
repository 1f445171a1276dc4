/-!
# `MapBench.Text.Utf8`: characters as bytes

Request bodies and files are bytes; keys and names are characters.
Reading goes byte by byte: between characters the reader is `ready`,
inside one it knows how many bytes are still due, which range the
next one must lie in, and the bits read so far. The range of the
second byte is what keeps out overlong forms, surrogates and numbers
past the last character.

* `encode`: the bytes of a text.
* `decode?`: the text of bytes that are well formed.
* `decodeLossy`: the text of any bytes, where each longest piece that
  begins no character becomes one U+FFFD.
-/

set_option autoImplicit false

namespace MapBench.Utf8

/-- The bytes of one character, one to four of them. -/
def encodeChar (c : Char) : List UInt8 :=
  let n := c.toNat
  if n < 0x80 then [n.toUInt8]
  else if n < 0x800 then [(0xC0 + n / 64).toUInt8, (0x80 + n % 64).toUInt8]
  else if n < 0x10000 then
    [(0xE0 + n / 4096).toUInt8, (0x80 + n / 64 % 64).toUInt8, (0x80 + n % 64).toUInt8]
  else
    [(0xF0 + n / 262144).toUInt8, (0x80 + n / 4096 % 64).toUInt8,
      (0x80 + n / 64 % 64).toUInt8, (0x80 + n % 64).toUInt8]

/-- The bytes of a list of characters. -/
def encodeChars (cs : List Char) : List UInt8 :=
  cs.flatMap encodeChar

/-- The bytes of a text. -/
def encode (s : String) : List UInt8 :=
  encodeChars s.toList

/-- Where a reader stands: between characters, or inside one with
`more + 1` bytes to come, the next of them from `low` to `high`. -/
inductive Reader
  | ready
  | inside (more low high value : Nat)
  deriving Repr, DecidableEq

namespace Reader

/-- What a byte that begins a character leads to: the character
itself, or the reader inside it. `none` for a byte that begins
nothing. -/
def first (b : Nat) : Option (Option Char × Reader) :=
  if b < 0x80 then some (some (Char.ofNat b), ready)
  -- Bytes inside a character begin none, and 0xC0 and 0xC1 would begin overlong forms.
  else if b < 0xC2 then none
  else if b < 0xE0 then some (none, inside 0 0x80 0xBF (b - 0xC0))
  -- A smaller second byte would make an overlong form of three bytes.
  else if b = 0xE0 then some (none, inside 1 0xA0 0xBF 0)
  -- A greater one would make a surrogate.
  else if b = 0xED then some (none, inside 1 0x80 0x9F 0xD)
  else if b < 0xF0 then some (none, inside 1 0x80 0xBF (b - 0xE0))
  -- A smaller one would make an overlong form of four bytes.
  else if b = 0xF0 then some (none, inside 2 0x90 0xBF 0)
  else if b < 0xF4 then some (none, inside 2 0x80 0xBF (b - 0xF0))
  -- A greater one would go past the last character.
  else if b = 0xF4 then some (none, inside 2 0x80 0x8F 4)
  else none

/-- Read one byte. The result has the character that the byte
completes, if any; `none` means that the byte can't stand here. -/
def feed (r : Reader) (b : UInt8) : Option (Option Char × Reader) :=
  match r with
  | ready => first b.toNat
  | inside more low high value =>
    let b := b.toNat
    if low ≤ b ∧ b ≤ high then
      let value := value * 64 + b % 64
      match more with
      | 0 => some (some (Char.ofNat value), ready)
      | more + 1 => some (none, inside more 0x80 0xBF value)
    else none

end Reader

/-- One byte of a strict reading; read characters are kept last
first. -/
def decodeStep (state : Reader × List Char) (b : UInt8) : Option (Reader × List Char) :=
  match state.1.feed b with
  | some (some c, r) => some (r, c :: state.2)
  | some (none, r) => some (r, state.2)
  | none => none

/-- The characters of bytes that are well formed. -/
def decodeChars? (bytes : List UInt8) : Option (List Char) :=
  match bytes.foldlM decodeStep (.ready, []) with
  | some (.ready, rev) => some rev.reverse
  | _ => none

/-- The text of bytes that are well formed. -/
def decode? (bytes : List UInt8) : Option String :=
  (decodeChars? bytes).map String.ofList

/-- Stands for a piece of bytes that is no character. -/
def replacement : Char := '\uFFFD'

/-- One byte of a forgiving reading. A byte that can't continue a
character closes the piece before it and begins anew. -/
def lossyStep (state : Reader × List Char) (b : UInt8) : Reader × List Char :=
  match decodeStep state b with
  | some state => state
  | none =>
    match state.1 with
    | .ready => (.ready, replacement :: state.2)
    | .inside .. =>
      (decodeStep (.ready, replacement :: state.2) b).getD
        (.ready, replacement :: replacement :: state.2)

/-- The characters of any bytes. -/
def decodeCharsLossy (bytes : List UInt8) : List Char :=
  match bytes.foldl lossyStep (.ready, []) with
  | (.ready, rev) => rev.reverse
  | (.inside .., rev) => (replacement :: rev).reverse

/-- The text of any bytes. -/
def decodeLossy (bytes : List UInt8) : String :=
  String.ofList (decodeCharsLossy bytes)

end MapBench.Utf8
