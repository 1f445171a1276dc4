import MapBench.Number.Decimal

/-!
# `MapBench.Server.Address`: where a server listens

An address is a host and a port with a colon between them. The host
may hold colons, the port is behind the last one.
-/

set_option autoImplicit false

namespace MapBench

/-- Where a server listens. -/
structure ListenAddress where
  host : String
  port : Nat
  deriving Repr, DecidableEq

/-- Why a server can't listen at an address. -/
inductive AddressError
  | noPort
  | badPort
  /-- Nobody knows the host. -/
  | unknownHost
  deriving Repr, DecidableEq

/-- What is said about a wrong address. -/
def AddressError.message : AddressError → String
  | noPort => "invalid socket address"
  | badPort => "invalid port value"
  | unknownHost =>
    "failed to lookup address information: Temporary failure in name resolution"

namespace ListenAddress

/-- The greatest port. -/
def maxPort : Nat := 65535

/-- Read a port. A plus sign may stand before it. -/
def port? (cs : List Char) : Option Nat :=
  let digits := match cs with
    | '+' :: digits => digits
    | digits => digits
  (Decimal.unsigned? digits).filter (· ≤ maxPort)

/-- Read an address. -/
def parse (text : String) : Except AddressError ListenAddress :=
  -- Everything up to the last colon is the host.
  let port := (text.toList.reverse.takeWhile (· ≠ ':')).reverse
  match text.toList.reverse.drop port.length with
  | [] => .error .noPort
  | _ :: host =>
    match port? port with
    | some port => .ok ⟨String.ofList host.reverse, port⟩
    | none => .error .badPort

/-- Can the character be part of an address of numbers? -/
def inNumber (c : Char) : Bool :=
  c.isDigit || ('a' ≤ c && c ≤ 'f') || ('A' ≤ c && c ≤ 'F') || c == ':' || c == '.'

/-- Is a host numbers between dots? -/
def isDotted (host : List Char) : Bool :=
  (host.splitOn '.').all Decimal.isDigits

/-- Is a host numbers between colons, perhaps in brackets? -/
def isColoned (host : List Char) : Bool :=
  host.contains ':' && (host.filter fun c => c ≠ '[' ∧ c ≠ ']').all inNumber

/-- Is the host given by its number, or is it this machine? Then it
is known without asking anybody. -/
def isKnown (a : ListenAddress) : Bool :=
  a.host == "localhost" || isDotted a.host.toList || isColoned a.host.toList

end ListenAddress

end MapBench
