import MapBench.Api.Handle
import MapBench.Url

/-!
# `MapBench.Session.Network`: sending requests

A network takes a request and gives an answer, or says why there is
none. It does so in a monad `m`, since what it does may depend on
everything that was sent before: the history of requests, or the
store behind a server. It also knows the names of hosts, in whatever
alphabet they are written.

* `Network.send`: a request to an address as text.
* `Network.ofServer`: a network whose only server answers from a
  store.
* `Network.unreachable`: a network in which nothing can be reached.
-/

set_option autoImplicit false

namespace MapBench

/-- A request on its way to an address. -/
structure Outgoing where
  method : String
  url : Url
  contentType : Option String
  body : List UInt8
  deriving Repr, DecidableEq

/-- Why a request got no answer that could be used. -/
inductive TransportError
  /-- The address is wrong, so nothing was sent. -/
  | badUrl (why : UrlError)
  /-- The request failed on the way. -/
  | failed (url : Url) (reason : String)
  /-- The answer is not what it should be. -/
  | badAnswer
  deriving Repr, DecidableEq

/-- What is said about a request without an answer. -/
def TransportError.message : TransportError → String
  | badUrl why => "builder error: " ++ why.message
  | failed url reason => "error sending request for url (" ++ url.text ++ "): " ++ reason
  | badAnswer => "error decoding response body"

/-- A network: which hosts an address may name, and what comes of a
request that is sent. -/
structure Network (m : Type → Type) where
  readHost : Url.HostReader
  carry : Outgoing → m (Except String Api.Answer)

namespace Network

variable {m : Type → Type} [Monad m]

/-- Send a request to an address. -/
def send (net : Network m) (method url : String) (contentType : Option String)
    (body : List UInt8) : m (Except TransportError Api.Answer) :=
  match Url.parse net.readHost url with
  | .error why => return .error (.badUrl why)
  | .ok url => do
    match ← net.carry ⟨method, url, contentType, body⟩ with
    | .ok answer => return .ok answer
    | .error reason => return .error (.failed url reason)

/-- The network of a single server, which answers from a store. -/
def ofServer (readHost : Url.HostReader) : Network (StateM Connection) where
  readHost
  carry r := return .ok (← Api.handle ⟨r.method, r.url.target, r.body⟩)

/-- A network in which nothing can be reached. -/
def unreachable (readHost : Url.HostReader) : Network m where
  readHost
  carry _ := return .error ("error trying to connect: tcp connect error: "
    ++ "Network is unreachable (os error 101)")

end Network

end MapBench
