import MapBench.Api.Handle
import MapBench.Api.Status
import MapBench.Text.Hex

/-!
# `MapBench.Api.Message`: requests and answers on their way

A message has a head of lines, an empty line, and a body. The first
line says what is asked for or what came of it; the others are fields,
one of which tells the length of the body.

* `Request.arrive`: the request in the bytes that have come so far.
* `Answer.arrive?`: the answer in the bytes of a whole connection.
* `requestBytes`, `answerBytes`: what is sent.
-/

set_option autoImplicit false

namespace MapBench.Api

/-- The head of a message. -/
structure MessageHead where
  first : String
  /-- The fields, with their names in lower case. -/
  fields : List (String × String)
  deriving Repr, DecidableEq

namespace MessageHead

/-- A field from its line. -/
def field? (line : String) : Option (String × String) :=
  let cs := line.toList
  let name := cs.takeWhile (· ≠ ':')
  match cs.drop name.length with
  | _ :: value =>
    let value := value.dropWhile (· == ' ')
    some (String.ofList (name.map Char.toLower), String.ofList value)
  | [] => none

/-- A head from its bytes. -/
def ofBytes? (bytes : List UInt8) : Option MessageHead := do
  match (← Utf8.decode? bytes).splitOn "\r\n" with
  | first :: lines => return ⟨first, ← lines.mapM field?⟩
  | [] => none

/-- How long the body is, if the head tells. -/
def length? (h : MessageHead) : Option Nat :=
  (h.fields.lookup "content-length").bind fun text => Decimal.unsigned? text.toList

/-- Does the body come in chunks? -/
def isChunked (h : MessageHead) : Bool :=
  h.fields.lookup "transfer-encoding" == some "chunked"

/-- The bytes of a head, with the empty line behind it. -/
def bytes (h : MessageHead) : List UInt8 :=
  Utf8.encode (h.first ++ "\r\n"
    ++ String.join (h.fields.map fun (name, value) => name ++ ": " ++ value ++ "\r\n") ++ "\r\n")

end MessageHead

/-- Split bytes at the first line end, or at the first empty line if
`double` is true. -/
def splitAtEnd? (double : Bool) (rev : List UInt8) : List UInt8 → Option (List UInt8 × List UInt8)
  | 13 :: 10 :: rest =>
    if double then
      match rest with
      | 13 :: 10 :: rest => some (rev.reverse, rest)
      | rest => splitAtEnd? double (10 :: 13 :: rev) rest
    else some (rev.reverse, rest)
  | b :: rest => splitAtEnd? double (b :: rev) rest
  | [] => none

/-- What has come of a message. -/
inductive Arrival (α : Type)
  /-- More has to come. -/
  | incomplete
  /-- It is no message. -/
  | malformed
  | complete (message : α)

/-- The longest head that is read, in bytes. -/
def maxHead : Nat := 65536

/-- The request in the bytes that have come so far. -/
def Request.arrive (bytes : List UInt8) : Arrival Request :=
  match splitAtEnd? true [] bytes with
  | none => if maxHead < bytes.length then .malformed else .incomplete
  | some (head, rest) =>
    match MessageHead.ofBytes? head with
    | none => .malformed
    | some h =>
      let length := h.length?.getD 0
      match h.first.splitOn " " with
      | [method, target, _] =>
        if h.isChunked then .malformed
        -- Without a length there is no body.
        else if rest.length < length then .incomplete
        else .complete ⟨method, target, rest.take length⟩
      | _ => .malformed

/-- The bytes of an answer. Nothing else follows on the same
connection. -/
def answerBytes (a : Answer) : List UInt8 :=
  let contentType := match a.contentType with
    | some type => [("content-type", type)]
    | none => []
  let head : MessageHead := ⟨"HTTP/1.1 " ++ statusText a.status,
    contentType ++ [("content-length", Decimal.text a.body.length), ("connection", "close")]⟩
  head.bytes ++ a.body

/-- The bytes of a request to a host. -/
def requestBytes (r : Request) (host : String) (contentType : Option String) : List UInt8 :=
  let contentType := match contentType with
    | some type => [("content-type", type)]
    | none => []
  let head : MessageHead := ⟨r.method ++ " " ++ r.path ++ " HTTP/1.1",
    [("host", host), ("accept", "*/*"), ("connection", "close")] ++ contentType
      ++ [("content-length", Decimal.text r.body.length)]⟩
  head.bytes ++ r.body

/-- The length of a chunk, as its line gives it. -/
def chunkLength? (line : List UInt8) : Option Nat := do
  let digits := (← Utf8.decode? line).toList.takeWhile fun c => c ≠ ';' ∧ c ≠ ' '
  if digits.isEmpty then none
  else digits.foldlM (fun n c => (Hex.value? c).map fun d => n * 16 + d) 0

/-- The bytes of a body that comes in chunks. The number bounds how
many there are. -/
def joinChunks? : Nat → List UInt8 → Option (List UInt8)
  | 0, _ => none
  | n + 1, bytes => do
    let (line, rest) ← splitAtEnd? false [] bytes
    let length ← chunkLength? line
    if length = 0 then return []
    -- A line end stands behind each chunk.
    if rest.length < length + 2 then failure
    return rest.take length ++ (← joinChunks? n (rest.drop (length + 2)))

/-- The body behind a head, from all the bytes that came. -/
def MessageHead.body? (h : MessageHead) (rest : List UInt8) : Option (List UInt8) :=
  if h.isChunked then joinChunks? (rest.length + 1) rest
  else
    match h.length? with
    | some length => if rest.length < length then none else some (rest.take length)
    -- The body goes on until the connection ends.
    | none => some rest

/-- The answer in all the bytes that came over a connection. -/
def Answer.arrive? (bytes : List UInt8) : Option Answer := do
  let (head, rest) ← splitAtEnd? true [] bytes
  let h ← MessageHead.ofBytes? head
  match h.first.splitOn " " with
  | _ :: status :: _ =>
    return ⟨← Decimal.unsigned? status.toList, h.fields.lookup "content-type", ← h.body? rest⟩
  | _ => none

end MapBench.Api
