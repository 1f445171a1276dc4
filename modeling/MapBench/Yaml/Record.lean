import MapBench.Batch.Offsets
import MapBench.Number.Decimal
import MapBench.Yaml.Node

/-!
# `MapBench.Yaml.Record`: documents of known shape

A record with named fields is a mapping with those fields in any
order, or a sequence of all of them in their order. A field that is
unknown or comes twice is refused. Of the values, a text may be any
scalar as it is written; truth values and numbers have to be plain,
or have the tag that says so.
-/

set_option autoImplicit false

namespace MapBench.Yaml.Node

/-- The text of a scalar. -/
def text? : Node → Option String
  | scalar _ _ text => some text
  | _ => none

/-- The texts of a sequence of scalars. -/
def texts? : Node → Option (List String)
  | sequence elements => elements.mapM text?
  | _ => none

/-- Does a text stand for nothing? -/
def isNull (text : String) : Bool :=
  text == "~" || text == "null"

/-- A value that may be left out: a plain `~` or `null` says so. With
the tag for nothing, no other text is allowed. -/
def option? {α : Type} (read : Node → Option α) : Node → Option (Option α)
  | scalar true none text =>
    if isNull text then some none else (read (scalar true none text)).map some
  | scalar true (some tag) text =>
    if tag == ⟨"!!", "null"⟩ then if isNull text then some none else none
    else (read (scalar true (some tag) text)).map some
  | node => (read node).map some

/-- A truth value. -/
def bool? : Node → Option Bool
  | scalar plain tag text =>
    if tag == some ⟨"!!", "bool"⟩ || (tag.isNone && plain) then
      if text == "true" then some true else if text == "false" then some false else none
    else none
  | _ => none

/-- The value of a digit of any base up to 36. -/
def digit? (c : Char) : Option Nat :=
  if c.isDigit then some (c.toNat - 48)
  else if 'a' ≤ c ∧ c ≤ 'z' then some (c.toNat - 87)
  else if 'A' ≤ c ∧ c ≤ 'Z' then some (c.toNat - 55)
  else none

/-- A number written in a base, without a sign. -/
def digits? (base : Nat) (cs : List Char) : Option Nat :=
  if cs.isEmpty then none
  else cs.foldlM (fun n c => (digit? c).bind fun d => if d < base then some (n * base + d) else none) 0

/-- The base that a letter behind a zero stands for. -/
def base? : Char → Option Nat
  | 'x' => some 16
  | 'o' => some 8
  | 'b' => some 2
  | _ => none

/-- A natural number with a base given in front. A plus sign may
stand before or behind that; with a minus sign, only zero is a
natural number. -/
def based? (cs : List Char) : Option Nat :=
  let (negative, cs) := match cs with
    | '-' :: cs => (true, cs)
    | '+' :: cs => (false, cs)
    | cs => (false, cs)
  match cs with
  | '0' :: letter :: ds =>
    (base? letter).bind fun base =>
      -- Without a minus sign, a plus may stand behind the base.
      if negative then (digits? base ds).bind fun n => if n = 0 then some 0 else none
      else digits? base (match ds with
        | '+' :: ds => ds
        | ds => ds)
  | _ => none

/-- A natural number in decimal. Several digits may not begin with
zero. -/
def decimal? (cs : List Char) : Option Nat :=
  let ds := match cs with
    | '-' :: ds => ds
    | '+' :: ds => ds
    | ds => ds
  if 1 < ds.length && ds.head? == some '0' then none
  else (Decimal.signed? cs).bind fun n => if n < 0 then none else some n.toNat

/-- A number that fits a word. A plain scalar may give a base; one
that is tagged as a number is decimal and no more than a signed word
can hold. -/
def word? : Node → Option Nat
  | scalar plain tag text =>
    let limited (limit : Nat) (n : Option Nat) : Option Nat :=
      n.bind fun n => if n ≤ limit then some n else none
    if tag == some ⟨"!!", "int"⟩ then
      limited 0x7FFFFFFFFFFFFFFF
        ((Decimal.signed? text.toList).bind fun n => if n < 0 then none else some n.toNat)
    else if tag.isNone && plain then
      limited maxWord ((based? text.toList).orElse fun _ => decimal? text.toList)
    else none
  | _ => none

/-- The members of a mapping, if each has one of the given names and
no name comes twice. -/
def namedMembers? (names : List String) :
    List (Node × Node) → Option (List (String × Node))
  | [] => some []
  | (key, value) :: members => do
    let name ← key.text?
    let rest ← namedMembers? names members
    -- The name must not come again further on.
    if names.contains name && !(rest.map Prod.fst).contains name then
      return (name, value) :: rest
    else failure

/-- The fields of a record in the order of their names; `none` stands
for one that is left out. -/
def fields? (names : List String) : Node → Option (List (Option Node))
  | sequence elements =>
    if elements.length = names.length then some (elements.map some) else none
  | mapping members =>
    (namedMembers? names members).map fun named => names.map fun name => named.lookup name
  | _ => none

end MapBench.Yaml.Node
