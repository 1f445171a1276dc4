import MapBench.Json.Text
import MapBench.Json.Value
import MapBench.Number.Decimal

/-!
# `MapBench.Json.Record`: values of known shape

A record with named fields is written as an object with a member for
each field, in any order, among others that nobody asked for; or as
an array of the fields in their order. A field that is missing or
comes twice is refused, and so is an array of another length.
-/

set_option autoImplicit false

namespace MapBench.Json.Value

/-- The text of a string. -/
def text? : Value → Option String
  | string items => itemsText? items
  | _ => none

/-- The elements of an array. -/
def elements? : Value → Option (List Value)
  | array elements => some elements
  | _ => none

/-- A natural number up to a limit. It has to be written with digits
alone. -/
def natural? (limit : Nat) : Value → Option Nat
  | number text =>
    if text.all isDigit then
      let n := Decimal.value (text.map fun b => Char.ofNat b.toNat)
      if n ≤ limit then some n else none
    else none
  | _ => none

/-- The one member of a name, if there is exactly one. -/
def unique? (name : String) (members : List (String × Value)) : Option Value :=
  match members.filter fun m => m.1 == name with
  | [m] => some m.2
  | _ => none

/-- The members of an object with their keys as text. -/
def namedMembers? (members : List (List Item × Value)) : Option (List (String × Value)) :=
  members.mapM fun m => (itemsText? m.1).map fun key => (key, m.2)

/-- The fields of a record, in the order of their names. -/
def fields? (names : List String) : Value → Option (List Value)
  | array elements => if elements.length = names.length then some elements else none
  | object members =>
    (namedMembers? members).bind fun named => names.mapM fun name => unique? name named
  | _ => none

end MapBench.Json.Value
