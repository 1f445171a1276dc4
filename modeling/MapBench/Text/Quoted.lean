import MapBench.Text.Invisible

/-!
# `MapBench.Text.Quoted`: text in quotes, with nothing invisible in it

Messages quote what a user typed. Quotes and backslashes are escaped,
and so are characters that can't be seen: line ends and tabs with a
letter, all others with their number.
-/

set_option autoImplicit false

namespace MapBench

/-- A character as it stands in a quoted text. -/
def quotedChar (c : Char) : List Char :=
  if c = '"' then ['\\', '"']
  else if c = '\\' then ['\\', '\\']
  else if c = '\n' then ['\\', 'n']
  else if c = '\r' then ['\\', 'r']
  else if c = '\t' then ['\\', 't']
  else if c = '\x00' then ['\\', '0']
  else if isInvisible c then ['\\', 'u', '\x7b'] ++ Nat.toDigits 16 c.toNat ++ ['\x7d']
  else [c]

/-- A text in quotes. -/
def quotedText (s : String) : String :=
  String.ofList ('"' :: s.toList.flatMap quotedChar ++ ['"'])

end MapBench
