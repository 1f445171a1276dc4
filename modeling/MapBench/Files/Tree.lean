import Std.Data.ExtTreeMap
import MapBench.Files.Error
import MapBench.Path
import MapBench.Text.Utf8

/-!
# `MapBench.Files.Tree`: directories, and the files in them

A tree says for each location, a list of names from the root down,
what is there. Paths lead to locations from a current directory;
every directory on the way has to exist.

* `FileTree.resolve`: where a path leads.
* `FileTree.readText`: the text of a file.
* `FileTree.createDirectories`: make a directory and those above it.
* `FileTree.plant`: put a file or directory at the end of a path.
* `FileTree.openForAppend`: a file to add to, made if needed.
-/

set_option autoImplicit false

namespace MapBench

/-- Places among the files that keep nothing of what they are given. -/
inductive Device
  /-- Always empty, and takes everything. -/
  | null
  /-- Takes nothing, and what it gives has no end. -/
  | full
  /-- Where the program prints its output. -/
  | output
  /-- Where the program complains. -/
  | complaints
  deriving Repr, DecidableEq

/-- What a location has. A store file is known by a number, its
tables are kept elsewhere. -/
inductive FileEntry
  | directory
  | bytes (content : List UInt8)
  | store (id : Nat)
  | device (d : Device)
  deriving Repr, DecidableEq

/-- The text that a device gives. A program's own streams give it
nothing, and nobody keeps what has no end. -/
def Device.text : Device → Except FileError String
  | null | output | complaints => .ok ""
  | full => .error (.other "out of memory")

/-- Names from the root down. -/
abbrev Location := List String

/-- A tree of files, and the directory that relative paths begin
at. -/
structure FileTree where
  entries : Std.ExtTreeMap Location FileEntry
  current : Location

/-- Where a path leads: a location in a directory that exists, and
what is there, if anything. -/
structure Place where
  location : Location
  entry : Option FileEntry

namespace FileTree

/-- The longest name, and the longest path, in bytes. -/
def maxName : Nat := 255
def maxPath : Nat := 4095

/-- What a location has. The root is always a directory. -/
def get? (t : FileTree) (at' : Location) : Option FileEntry :=
  if at' = [] then some .directory else t.entries[at']?

/-- Put something at a location, over what may be there. -/
def put (t : FileTree) (at' : Location) (e : FileEntry) : FileTree :=
  { t with entries := t.entries.insert at' e }

/-- Follow one name from a directory. -/
def follow (t : FileTree) (dir : Location) (name : String) : Except FileError Place :=
  if name = "." then .ok ⟨dir, some .directory⟩
  else if name = ".." then .ok ⟨dir.dropLast, some .directory⟩
  else if maxName < name.utf8ByteSize then .error .nameTooLong
  else .ok ⟨dir ++ [name], t.get? (dir ++ [name])⟩

/-- Follow names from a directory. All but the last have to lead to
directories. -/
def walk (t : FileTree) (dir : Location) : List String → Except FileError Place
  | [] => .ok ⟨dir, some .directory⟩
  | [name] => t.follow dir name
  | name :: names => do
    let place ← t.follow dir name
    match place.entry with
    | some .directory => t.walk place.location names
    | some _ => throw .notDirectory
    | none => throw .notFound

/-- Where a path leads. A path that ends in a slash may only lead to
a directory, or to nothing yet. -/
def resolve (t : FileTree) (path : String) : Except FileError Place := do
  if path.contains '\x00' then throw .nulInName
  if path = "" then throw .notFound
  if maxPath < path.utf8ByteSize then throw .nameTooLong
  let start := if Path.isAbsolute path then [] else t.current
  let place ← t.walk start ((Path.segments path).filter (· ≠ ""))
  match place.entry with
  | none | some .directory => return place
  | some _ => if path.endsWith "/" then throw .notDirectory else return place

/-- What a path leads to, if there is anything. -/
def entry? (t : FileTree) (path : String) : Option FileEntry :=
  match t.resolve path with
  | .ok place => place.entry
  | .error _ => none

/-- Does a path lead to anything? -/
def hasEntry (t : FileTree) (path : String) : Bool :=
  (t.entry? path).isSome

/-- The text of a file. -/
def readText (t : FileTree) (path : String) : Except FileError String := do
  match (← t.resolve path).entry with
  | none => throw .notFound
  | some .directory => throw .isDirectory
  | some (.bytes content) =>
    match Utf8.decode? content with
    | some text => return text
    | none => throw .notText
  | some (.store _) => throw .notText
  | some (.device d) => d.text

/-- Make a directory where nothing is yet. -/
def createDirectory (t : FileTree) (path : String) : Except FileError FileTree := do
  let place ← t.resolve path
  match place.entry with
  | none => return t.put place.location .directory
  | some _ => throw .exists

/-- Is there a directory? -/
def isDirectory (t : FileTree) (path : String) : Bool :=
  t.entry? path == some .directory

/-- Make a directory unless there is one. -/
def ensureDirectory (t : FileTree) (path : String) : Except FileError Unit × FileTree :=
  match t.createDirectory path with
  | .ok t => (.ok (), t)
  | .error e => (if t.isDirectory path then .ok () else .error e, t)

/-- Make a directory and, if need be, those above it. The number
bounds how many levels there are. Directories that were made stay,
also if a later one can't be made. -/
def createLevels (t : FileTree) : Nat → String → Except FileError Unit × FileTree
  | 0, _ => (.error .notFound, t)
  | levels + 1, path =>
    if path = "" then (.ok (), t)
    else
      match t.ensureDirectory path with
      | (.error .notFound, _) =>
        match Path.parent? path with
        | none => (.error .notFound, t)
        | some parent =>
          match t.createLevels levels parent with
          -- A path that ends in `..` leads to a directory that is there by now.
          | (.ok (), t) => t.ensureDirectory path
          | failed => failed
      | result => result

/-- Make a directory and all those above it that are missing. -/
def createDirectories (t : FileTree) (path : String) : Except FileError Unit × FileTree :=
  t.createLevels (path.length + 1) path

/-- Put something at the end of a path, making the directories above
it. -/
def plant (t : FileTree) (path : String) (e : FileEntry) : FileTree :=
  let (_, t) := t.createDirectories ((Path.parent? path).getD "")
  match t.resolve path with
  | .ok place => t.put place.location e
  | .error _ => t

/-- Open a file for adding to its end. A file that isn't there is
made, without content. -/
def openForAppend (t : FileTree) (path : String) : Except FileError FileTree := do
  let place ← (t.resolve path).mapError fun e =>
    if e = .notDirectory ∧ path.endsWith "/" then .isDirectory else e
  -- A slash at the end asks for a directory, and those aren't opened as files.
  if path.endsWith "/" then throw .isDirectory
  match place.entry with
  | none => return t.put place.location (.bytes [])
  | some .directory => throw .isDirectory
  | some _ => return t

/-- Add bytes to the end of a file. Only plain files keep them. -/
def append (t : FileTree) (path : String) (added : List UInt8) : FileTree :=
  match t.resolve path with
  | .ok ⟨location, some (.bytes content)⟩ => t.put location (.bytes (content ++ added))
  | _ => t

end FileTree

end MapBench
