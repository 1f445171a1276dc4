import MapBench.Session.Storage

/-!
# `MapBench.Session.Remote`: sessions with a server

A remote session sends one request per operation and takes the answer
as it is: nothing is sent twice. Preparing a write only encodes the
batch.
-/

set_option autoImplicit false

namespace MapBench

/-- A session with a server. -/
structure RemoteSession where
  isOpen : Bool
  baseUrl : String
  pool : String
  deriving Repr, DecidableEq

namespace RemoteSession

/-- An address without the slashes at its end. -/
def trimSlashes (url : String) : String :=
  String.ofList (url.toList.reverse.dropWhile (· == '/')).reverse

/-- The address of a path of the API. -/
def url (s : RemoteSession) (path : String) : String :=
  s.baseUrl ++ path

variable {m : Type → Type} [Monad m] (net : Network m)

/-- Connect to a server, and check that it has the pool. -/
def connect (baseUrl pool : String) : m (Except SessionError RemoteSession) := do
  let s : RemoteSession := ⟨true, trimSlashes baseUrl, pool⟩
  match ← net.send "GET" (s.url (Api.poolPath pool)) none [] with
  | .error e => return .error (.poolOpen pool (.transport e))
  | .ok answer =>
    -- Other statuses of success don't say that there is such a pool.
    if answer.status = 200 then return .ok s
    else return .error (.poolOpen pool (.answered answer.status))

/-- Send a request, unless the session is closed. Any answer that is
no success is an error. -/
def send (s : RemoteSession) (method path : String) (contentType : Option String)
    (body : List UInt8) : m (Except SessionError Api.Answer) :=
  if s.isOpen then do
    match ← net.send method (s.url path) contentType body with
    | .error e => return .error (.request e)
    | .ok answer =>
      -- The address is told as it was put together, not as it was sent.
      if isSuccess answer.status then return .ok answer
      else return .error (.rejected (s.url path) answer.status)
  else return .error .closed

/-- Send a request whose answer has nothing to tell. -/
def submit (s : RemoteSession) (method path : String) (contentType : Option String)
    (body : List UInt8) : m (Except SessionError Unit) := do
  return (← s.send net method path contentType body).map fun _ => ()

/-- Let go of the server. -/
def close (s : RemoteSession) : RemoteSession :=
  { s with isOpen := false }

/-- The operations of the session. A prepared write is the body of
the request. -/
def storage (s : RemoteSession) : StorageSession m (List UInt8) where
  removeObject object := s.submit net "DELETE" (Api.objectPath s.pool object) none []
  writeObject object data := s.submit net "PUT" (Api.objectPath s.pool object) none data
  prepare batch := return if s.isOpen then .ok batch.encode else .error .closed
  operate object body :=
    s.submit net "POST" (Api.mapPath s.pool object) (some "application/json") body
  mapSize object := do
    match ← s.send net "GET" (Api.countPath s.pool object) none [] with
    | .error e => return .error e
    | .ok answer =>
      match Count.decode? answer.body with
      | some count => return .ok count
      | none => return .error (.request .badAnswer)

end RemoteSession

end MapBench
