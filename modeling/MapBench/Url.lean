import MapBench.Number.Decimal
import MapBench.Text.Hex
import MapBench.Text.Utf8

/-!
# `MapBench.Url`: web addresses

A client brings a web address into its normal form before it sends a
request there. Blanks at the ends, tabs and line breaks are left out;
`.` and `..` in the path are carried out, also when their dots are
percent-encoded; a backslash counts as a slash; characters that may
not stand in an address are percent-encoded; a user name is left out,
and so is a port that the scheme has by default. Escapes that are
there already stay as they are.

How a host is brought into its normal form is a parameter, since that
takes the tables of Unicode for the names that aren't in ASCII
(`Url.HostReader`). There is no limit on the length of an address here;
a client may refuse one of more than 65534 bytes.

* `Url.HostReader`, `Url.asciiHost`: what reads hosts, and one that
  reads those in ASCII.
* `Url.parse`: the normal form of an address, or what is wrong with
  it.
* `Url.text`: the address as text.
* `Url.target`: what of it a request names, the path and the query.
-/

set_option autoImplicit false

namespace MapBench

/-- What is wrong with an address. -/
inductive UrlError
  | relative
  | schemeNotAllowed
  | emptyHost
  | invalidPort
  | invalidIpv4
  | invalidIpv6
  | invalidDomain
  | invalidIdna
  deriving Repr, DecidableEq

/-- What is said about a wrong address. -/
def UrlError.message : UrlError → String
  | relative => "relative URL without a base"
  | schemeNotAllowed => "URL scheme is not allowed"
  | emptyHost => "empty host"
  | invalidPort => "invalid port number"
  | invalidIpv4 => "invalid IPv4 address"
  | invalidIpv6 => "invalid IPv6 address"
  | invalidDomain => "invalid domain character"
  | invalidIdna => "invalid international domain name"

/-- An address in its normal form. -/
structure Url where
  scheme : String
  host : String
  port : Option Nat
  path : String
  query : Option String
  fragment : Option String
  deriving Repr, DecidableEq

namespace Url

/-- A character as percent-encoded bytes. -/
def percentBytes (c : Char) : List Char :=
  (Utf8.encodeChar c).flatMap fun b => ['%', Hex.upperDigit (b.toNat / 16), Hex.upperDigit (b.toNat % 16)]

/-- Percent-encode control characters, everything outside ASCII, and
the characters given. -/
def percentEncode (also : List Char) (cs : List Char) : List Char :=
  cs.flatMap fun c =>
    if c.toNat < 0x20 ∨ 0x7E < c.toNat ∨ also.contains c then percentBytes c else [c]

/-- The characters that a path may not hold. -/
def pathEscapes : List Char := [' ', '"', '<', '>', '\x60', '#', '?', '\x7b', '\x7d']

/-- The characters that a query may not hold. -/
def queryEscapes : List Char := [' ', '"', '#', '<', '>', '\'']

/-- The characters that a fragment may not hold. -/
def fragmentEscapes : List Char := [' ', '"', '<', '>', '\x60']

/-- Is the character a control character or a blank? -/
def isEdge (c : Char) : Bool :=
  c.toNat ≤ 0x20

/-- Leave out blanks at the ends, and tabs and line breaks
everywhere. -/
def clean (cs : List Char) : List Char :=
  let front := cs.dropWhile isEdge
  let both := (front.reverse.dropWhile isEdge).reverse
  both.filter fun c => !(c == '\t' || c == '\n' || c == '\r')

/-- Does a character separate the pieces of a path? -/
def isSlash (c : Char) : Bool :=
  c == '/' || c == '\\'

/-- The bytes of a text after its percent escapes are carried out. -/
def percentDecode : List Char → List UInt8
  | [] => []
  | '%' :: a :: b :: cs =>
    match Hex.value? a, Hex.value? b with
    | some x, some y => (x * 16 + y).toUInt8 :: percentDecode cs
    | _, _ => Utf8.encodeChar '%' ++ percentDecode (a :: b :: cs)
  | c :: cs => Utf8.encodeChar c ++ percentDecode cs

/-- A piece of a path with its escaped dots written as dots. -/
def plainDots : List Char → List Char
  | '%' :: '2' :: e :: cs => if e = 'e' ∨ e = 'E' then '.' :: plainDots cs else '%' :: '2' :: e :: cs
  | '.' :: cs => '.' :: plainDots cs
  | cs => cs

/-- One piece of a path after those before it, last first. A piece of
dots at the end of the path leaves an empty piece, so that the path
ends in a slash. -/
def addPiece (rev : List (List Char)) (piece : List Char) (last : Bool) : List (List Char) :=
  let rest := if last then [[]] else []
  if plainDots piece = ['.', '.'] then rest ++ rev.drop 1
  else if plainDots piece = ['.'] then rest ++ rev
  else percentEncode pathEscapes piece :: rev

/-- The pieces of a path, last first, after those before them. -/
def addPieces (rev : List (List Char)) : List (List Char) → List (List Char)
  | [] => rev
  | [piece] => addPiece rev piece true
  | piece :: pieces => addPieces (addPiece rev piece false) pieces

/-- The normal form of a path, given without its first slash. -/
def normalPath (cs : List Char) : List Char :=
  '/' :: List.intercalate ['/'] (addPieces [] (cs.splitOnP isSlash)).reverse

/-- A number of an IPv4 address: decimal, octal after `0`, or
hexadecimal after `0x`. -/
def ipv4Number? (cs : List Char) : Option Nat :=
  let digits (base : Nat) (ds : List Char) : Option Nat :=
    ds.foldlM (fun n c => (Hex.value? c).bind fun d => if d < base then some (n * base + d) else none) 0
  match cs with
  | [] => none
  | '0' :: x :: ds => if x = 'x' ∨ x = 'X' then digits 16 ds else digits 8 (x :: ds)
  | ds => digits 10 ds

/-- Does a host end in a number, so that it has to be an IPv4
address? -/
def endsInNumber (pieces : List (List Char)) : Bool :=
  match pieces.getLast? with
  | none => false
  | some piece => Decimal.isDigits piece ||
    (match piece with
      | '0' :: x :: ds => (x = 'x' || x = 'X') && ds.all fun c => (Hex.value? c).isSome
      | _ => false)

/-- The normal form of an IPv4 address: four numbers. The last number
given fills all the places that are left. -/
def ipv4? (pieces : List (List Char)) : Option (List Char) := do
  let numbers ← pieces.mapM ipv4Number?
  let last ← numbers.getLast?
  let front := numbers.dropLast
  -- The last number may be as large as all the places left to it.
  if 4 < numbers.length ∨ front.any (255 < ·) ∨ Nat.pow 256 (5 - numbers.length) ≤ last then failure
  let value := front.zipIdx.foldl (fun acc (n, i) => acc + n * Nat.pow 256 (3 - i)) last
  return List.intercalate ['.']
    ([3, 2, 1, 0].map fun i => Decimal.digits (value / Nat.pow 256 i % 256))

/-- The characters that no name of a host may have. -/
def hostRefuses (c : Char) : Bool :=
  isEdge c || 0x7E < c.toNat || "#/:<>?@[\\]^|%".toList.contains c

/-- The normal form of a host, by how the host is written in an address,
or what is wrong with it. Names in other alphabets are written in ASCII
there, by tables that grow from year to year. Nothing else of an address
depends on them, so whatever reads the hosts will do. -/
abbrev HostReader := List Char → Except UrlError (List Char)

/-- What reads hosts in ASCII: names, IPv4 addresses in any of their
spellings, and IPv6 addresses in brackets. Names in other alphabets are
refused, names that begin with `xn--` are taken as they are, and of an
IPv6 address only the characters are looked at. -/
def asciiHost : HostReader := fun cs =>
  match cs with
  | '[' :: inner =>
    if inner.getLast? = some ']' ∧ inner.dropLast.contains ':' ∧
        inner.dropLast.all (fun c => c = ':' ∨ c = '.' ∨ (Hex.value? c).isSome) then
      .ok (cs.map Char.toLower)
    else .error .invalidIpv6
  | _ =>
    match Utf8.decodeChars? (percentDecode cs) with
    | none => .error .invalidDomain
    | some host =>
      let host := host.map Char.toLower
      if host = [] then .error .emptyHost
      else if host.any hostRefuses then .error .invalidDomain
      else
        let pieces := host.splitOn '.'
        -- A point at the end doesn't keep a host from being a number.
        let pieces := if pieces.getLast? = some [] then pieces.dropLast else pieces
        if endsInNumber pieces then
          match ipv4? pieces with
          | some address => .ok address
          | none => .error .invalidIpv4
        else .ok host

/-- Read the host of an address. There has to be one. -/
def normalHost (readHost : HostReader) : HostReader
  | [] => .error .emptyHost
  | cs => readHost cs

/-- Split a host from the port behind its last colon. A colon inside
brackets belongs to the host. -/
def splitPort (cs : List Char) : List Char × Option (List Char) :=
  let tail := cs.reverse.takeWhile fun c => c ≠ ':' ∧ c ≠ ']'
  match cs.reverse.drop tail.length with
  | ':' :: rev => (rev.reverse, some tail.reverse)
  | _ => (cs, none)

/-- The port that a scheme has by default. -/
def defaultPort (scheme : String) : Nat :=
  if scheme = "https" then 443 else 80

/-- Read a port. The default port is the same as none. -/
def readPort (scheme : String) : Option (List Char) → Except UrlError (Option Nat)
  | none | some [] => .ok none
  | some ds =>
    match Decimal.unsigned? ds with
    | none => .error .invalidPort
    | some n =>
      if 65535 < n then .error .invalidPort
      else .ok (if n = defaultPort scheme then none else some n)

/-- The scheme of an address and what follows its colon. -/
def splitScheme? (cs : List Char) : Option (String × List Char) :=
  let name := cs.takeWhile fun c => c.isAlphanum || c == '+' || c == '-' || c == '.'
  match name, cs.drop name.length with
  | c :: _, ':' :: rest =>
    if c.isAlpha then some (String.ofList (name.map Char.toLower), rest) else none
  | _, _ => none

/-- The normal form of an address. -/
def parse (readHost : HostReader) (text : String) : Except UrlError Url :=
  match splitScheme? (clean text.toList) with
  | none => .error .relative
  | some (scheme, rest) =>
    if scheme ≠ "http" ∧ scheme ≠ "https" then .error .schemeNotAllowed
    else do
      -- Two slashes are usual, but any number of them will do.
      let rest := rest.dropWhile isSlash
      let authority := rest.takeWhile fun c => !(isSlash c || c == '?' || c == '#')
      let rest := rest.drop authority.length
      let path := rest.takeWhile fun c => c ≠ '?' ∧ c ≠ '#'
      let rest := rest.drop path.length
      let (query, rest) := match rest with
        | '?' :: rest =>
          let query := rest.takeWhile (· ≠ '#')
          (some (String.ofList (percentEncode queryEscapes query)), rest.drop query.length)
        | rest => (none, rest)
      let fragment := match rest with
        | '#' :: rest => some (String.ofList (percentEncode fragmentEscapes rest))
        | _ => none
      -- A user name stands before the last `@`.
      let site := (authority.reverse.takeWhile (· ≠ '@')).reverse
      let (host, port) := splitPort site
      let host ← normalHost readHost host
      let port ← readPort scheme port
      return ⟨scheme, String.ofList host, port, String.ofList (normalPath (path.drop 1)), query,
        fragment⟩

/-- What of an address a request names. -/
def target (u : Url) : String :=
  u.path ++ (match u.query with
    | some query => "?" ++ query
    | none => "")

/-- An address as text. -/
def text (u : Url) : String :=
  u.scheme ++ "://" ++ u.host
    ++ (match u.port with
      | some port => ":" ++ Decimal.text port
      | none => "")
    ++ u.target
    ++ (match u.fragment with
      | some fragment => "#" ++ fragment
      | none => "")

end Url

end MapBench
