import MapBench.Json.Token
import MapBench.Text.Hex
import MapBench.Text.Utf8

/-!
# `MapBench.Json.Text`: what JSON strings mean

Reading: the escapes of units become characters, two surrogates in a
row become one, a surrogate by itself is refused, and the bytes of
the whole have to be well formed.

Writing: quotes, backslashes and control characters are escaped, with
a short escape where there is one. Everything else stands for itself.
-/

set_option autoImplicit false

namespace MapBench.Json

/-- The bytes that items stand for, last first, after those of
`rev`. -/
def itemBytes (rev : List UInt8) : List Item → Option (List UInt8)
  | [] => some rev
  | .byte b :: items => itemBytes (b :: rev) items
  | .unit high :: items =>
    -- A low surrogate can only be the second of two.
    if 0xDC00 ≤ high ∧ high ≤ 0xDFFF then none
    -- A high one needs a low one right behind it.
    else if 0xD800 ≤ high ∧ high ≤ 0xDBFF then
      match items with
      | .unit low :: items =>
        if 0xDC00 ≤ low ∧ low ≤ 0xDFFF then
          let c := Char.ofNat (0x10000 + (high - 0xD800) * 1024 + (low - 0xDC00))
          itemBytes ((Utf8.encodeChar c).reverse ++ rev) items
        else none
      | _ => none
    else itemBytes ((Utf8.encodeChar (Char.ofNat high)).reverse ++ rev) items

/-- The text that the items of a string mean. -/
def itemsText? (items : List Item) : Option String :=
  (itemBytes [] items).bind fun rev => Utf8.decode? rev.reverse

/-- A character as it is written in a string. -/
def escapeChar (c : Char) : List Char :=
  if c = '"' then ['\\', '"']
  else if c = '\\' then ['\\', '\\']
  else if c = '\x08' then ['\\', 'b']
  else if c = '\x0c' then ['\\', 'f']
  else if c = '\n' then ['\\', 'n']
  else if c = '\r' then ['\\', 'r']
  else if c = '\t' then ['\\', 't']
  else if c.toNat < 32 then ['\\', 'u', '0', '0', Hex.digit (c.toNat / 16), Hex.digit (c.toNat % 16)]
  else [c]

/-- A text as a JSON string. -/
def quote (cs : List Char) : List Char :=
  '"' :: cs.flatMap escapeChar ++ ['"']

/-- A list as a JSON array, from the texts of its elements. -/
def arrayText (elements : List (List Char)) : List Char :=
  '[' :: List.intercalate [','] elements ++ [']']

/-- An object, from its keys and the texts of its members. Keys are
taken to need no escapes. -/
def objectText (members : List (List Char × List Char)) : List Char :=
  '\x7b' :: List.intercalate [',']
    (members.map fun (key, value) => '"' :: key ++ '"' :: ':' :: value) ++ ['\x7d']

end MapBench.Json
