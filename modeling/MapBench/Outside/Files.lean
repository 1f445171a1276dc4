import MapBench.Host
import MapBench.Session.Basic
import MapBench.Store.Journal

/-!
# `MapBench.Outside.Files`: the files of the world

Files are read and written where the program runs. A store file holds
the changes of its store. It is read as a whole when it is opened, and
every change that succeeds is added to it at once.
-/

set_option autoImplicit false

namespace MapBench.Outside

/-- What an error of the system says about a file. -/
def fileError : IO.Error → FileError
  | .noFileOrDirectory _ _ _ => .notFound
  | .alreadyExists _ _ _ => .exists
  | .inappropriateType _ code _ => if code = 20 then .notDirectory else .isDirectory
  | e => .other e.toString

/-- Do something with a file. -/
def withFile {α : Type} (act : IO α) : IO (Except FileError α) := do
  try
    return .ok (← act)
  catch e =>
    return .error (fileError e)

/-- The text of a file. -/
def readText (path : String) : IO (Except FileError String) := do
  match ← withFile (IO.FS.readBinFile path) with
  | .error e => return .error e
  | .ok bytes =>
    match Utf8.decode? bytes.toList with
    | some text => return .ok text
    | none => return .error .notText

/-- Is there anything at a path? -/
def hasEntry (path : String) : IO Bool := do
  return (← withFile (IO.FS.realPath path)).isOk

/-- What every program needs. -/
def host : Host IO where
  hasEntry := hasEntry
  readText := readText
  printLine line := do
    try
      IO.println line
      (← IO.getStdout).flush
      return .ok ()
    catch e =>
      return .error ⟨e.toString⟩
  complain line := IO.eprintln line

/-- A store file that is open. -/
structure StoreFile where
  /-- The disk, as far as this file is concerned. -/
  disk : IO.Ref Disk
  /-- Where changes are added, unless the store has no file. -/
  handle : Option IO.FS.Handle

namespace StoreFile

/-- The part of the disk that a path leads to, and whether the path
leads to a file that is still to be made. -/
def survey (path : String) : IO (Disk × Bool) := do
  let nothing : FileTree := ⟨∅, []⟩
  if Disk.isPrivate path then return (.ofTree nothing, false)
  match ← readText path with
  | .ok text =>
    match Journal.read? text with
    | some tables =>
      return ({ Disk.ofTree (nothing.plant path (.store 0)) with stores := #[tables] }, text = "")
    -- Bytes that are no store, whatever they are.
    | none => return (.ofTree (nothing.plant path (.bytes [0])), false)
  | .error .notFound =>
    let parent := (Path.parent? path).getD ""
    if parent = "" ∨ (← hasEntry parent) then
      return (.ofTree (nothing.createDirectories parent).2, true)
    return (.ofTree nothing, false)
  | .error .isDirectory => return (.ofTree (nothing.plant path .directory), false)
  | .error _ => return (.ofTree (nothing.plant path (.bytes [0])), false)

/-- Add changes to a file. -/
def write (handle : IO.FS.Handle) (isNew : Bool) (changes : List StoreChange) : IO Unit := do
  handle.putStr (Journal.lines isNew changes)
  handle.flush

/-- Open a store file by opening it on the disk that is known, which
makes some changes. -/
def openBy {ε α : Type} (path : String) (act : StateM Disk (Except ε α))
    (changes : List StoreChange) : IO (Except ε (StoreFile × α)) := do
  let (disk, isNew) ← survey path
  match act disk with
  | (.error e, _) => return .error e
  | (.ok a, disk) =>
    let handle ← if Disk.isPrivate path then pure none else some <$> IO.FS.Handle.mk path .append
    if let some handle := handle then write handle isNew changes
    return .ok (⟨← IO.mkRef disk, handle⟩, a)

/-- Act on the disk. -/
def act {α : Type} (f : StoreFile) (act : StateM Disk α) : IO α :=
  f.disk.modifyGet act

/-- Add a change to the file. -/
def record (f : StoreFile) (change : StoreChange) : IO Unit := do
  if let some handle := f.handle then write handle false [change]

/-- Do something that makes a change, and add the change if that
succeeds. -/
def recording {ε : Type} (f : StoreFile) (change : StoreChange) (act : IO (Except ε Unit)) :
    IO (Except ε Unit) := do
  let result ← act
  if result.isOk then f.record change
  return result

/-- A session with the file that keeps what it writes. -/
def keep (f : StoreFile) (pool : String) (s : StorageSession IO WriteOp) :
    StorageSession IO WriteOp where
  removeObject object := f.recording (.removeObject ⟨pool, object⟩) (s.removeObject object)
  writeObject object data :=
    f.recording (.replaceData ⟨pool, object⟩ data) (s.writeObject object data)
  prepare := s.prepare
  operate object op :=
    match op with
    | .pairs batch => f.recording (.writeEntries ⟨pool, object⟩ batch) (s.operate object op)
    | .body _ => s.operate object op
  mapSize := s.mapSize

end StoreFile

end MapBench.Outside
