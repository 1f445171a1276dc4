import MapBench.Files.Tree
import MapBench.Store.Operations

/-!
# `MapBench.Store.Disk`: store files among other files

A disk is a tree of files together with the tables of the store files
in it. Whoever opens a store gets a handle, and works on the tables
behind it for as long as they like. Opening a file twice gives two
handles for the same tables.

The names `""` and `:memory:` open a new store that has no file, so
nobody else can open it. A name that begins with `file:` is an address:
it may lead to a file under another name, to one that can't be written,
or to no file. That isn't modelled, and such a name is taken for a path
like any other. Where it matters which file keeps a store,
`Disk.IsFileName` leaves addresses out.

* `Disk.openStore`: open or make a store file, with all its tables.
* `Disk.onStore`: run an operation on an open store.
* `Disk.inspect`: the tables of a file, for someone who only looks.
-/

set_option autoImplicit false

namespace MapBench

/-- What a handle stands for: the number of a store, and what the
connection to it has prepared. -/
structure OpenStore where
  store : Nat
  entryReady : Bool
  deriving Repr, DecidableEq

/-- Files, the tables of the stores among them, and the handles that
were given out. -/
structure Disk where
  tree : FileTree
  stores : Array Tables
  handles : Array OpenStore

namespace Disk

/-- Does the name stand for a store of one's own, without a file? -/
def isPrivate (path : String) : Bool :=
  path = "" || path = ":memory:"

/-- The name is one of a file, and no address. -/
def IsFileName (path : String) : Prop :=
  ¬ "file:".toList <+: path.toList

instance (path : String) : Decidable (IsFileName path) :=
  inferInstanceAs (Decidable (¬ _))

/-- The longest path of a store file, in bytes. That is less than what
may be walked along on the way to it, as there are to be files beside it
with longer names. -/
def maxStorePath : Nat := 504
def maxStoreWay : Nat := 511

/-- How long a location is as a path, with a slash before each name. -/
def pathSize (at' : Location) : Nat :=
  at'.foldr (fun name n => name.utf8ByteSize + 1 + n) 0

/-- One piece of the path of a store file. Unlike elsewhere, `..`
leaves the piece before it without asking whether that is a
directory; but a piece that no file could have is refused. -/
def locateStep (tree : FileTree) (at' : Location) (piece : String) : Option Location :=
  if piece = "" ∨ piece = "." then some at'
  else if piece = ".." then some at'.dropLast
  else if maxStoreWay < pathSize (at' ++ [piece]) then none
  else
    match tree.walk [] (at' ++ [piece]) with
    -- What isn't there may still be made, or be left by a later piece.
    | .ok _ | .error .notFound => some (at' ++ [piece])
    | .error _ => none

/-- Where the file of a store is, or is to be. -/
def locate (tree : FileTree) (path : String) : Option Place := do
  if path.contains '\x00' then failure
  let start := if Path.isAbsolute path then [] else tree.current
  if maxStoreWay < pathSize start then failure
  let location ← (Path.segments path).foldlM (locateStep tree) start
  if maxStorePath < pathSize location then failure
  (tree.walk [] location).toOption

/-- A disk on which no store has been opened yet. -/
def ofTree (tree : FileTree) : Disk := ⟨tree, #[], #[]⟩

/-- Give out a handle for a store. -/
def addHandle (d : Disk) (store : Nat) : Nat × Disk :=
  (d.handles.size, { d with handles := d.handles.push ⟨store, false⟩ })

/-- Add a new store, and give out a handle for it. -/
def addStore (d : Disk) : Nat × Disk :=
  { d with stores := d.stores.push .empty }.addHandle d.stores.size

/-- Open a store, with all its tables. A file that isn't there, or
has no bytes, becomes one. -/
def openStore (path : String) : StateM Disk (Except StoreError Nat) := fun d =>
  if isPrivate path then
    let (handle, d) := d.addStore
    (.ok handle, d)
  else
    match locate d.tree path with
    | none => (.error (.cannotOpen path), d)
    | some place =>
      match place.entry with
      | none | some (.bytes []) =>
        -- The new store gets the next number.
        let tree := d.tree.put place.location (.store d.stores.size)
        let (handle, d) := { d with tree }.addStore
        (.ok handle, d)
      | some (.store id) =>
        -- Tables that were dropped are made again, without rows.
        let (handle, d) := { d with stores := d.stores.modify id Tables.complete }.addHandle id
        (.ok handle, d)
      | some .directory => (.error (.cannotOpen path), d)
      | some (.bytes _) => (.error (.statement .notAStore), d)
      -- The device keeps nothing, so a table that was made isn't there.
      | some (.device .null) => (.error (.statement (.noSuchTable .pools)), d)
      | some (.device _) => (.error (.cannotOpen path), d)

/-- The open store that a handle stands for. -/
def connection? (d : Disk) (handle : Nat) : Option Connection := do
  let o ← d.handles[handle]?
  return ⟨← d.stores[o.store]?, o.entryReady⟩

/-- Put back an open store after an operation on it. -/
def putBack (d : Disk) (handle : Nat) (c : Connection) : Disk :=
  match d.handles[handle]? with
  | some o => { d with
      stores := d.stores.modify o.store fun _ => c.tables
      handles := d.handles.modify handle fun o => { o with entryReady := c.entryReady } }
  | none => d

/-- Run an operation on an open store. -/
def onStore {α : Type} (handle : Nat) (op : StoreM α) : StateM Disk (Except StoreError α) :=
  fun d =>
    match d.connection? handle with
    | none => (.error (.statement .notAStore), d)
    | some c =>
      let (result, c) := op.run c
      (result, d.putBack handle c)

/-- The tables of a file as someone sees them who only looks. There
are none in a file without bytes or with other bytes than a store
has; `none` means that there is no file to look at. -/
def inspect (d : Disk) (path : String) : Option Tables :=
  if isPrivate path then some .blank
  else
    match (locate d.tree path).bind Place.entry with
    | none | some .directory => none
    | some (.bytes _) | some (.device _) => some .blank
    | some (.store id) => d.stores[id]?

/-- Drop a table of a store file. -/
def dropTable (d : Disk) (path : String) (table : Table) : Disk :=
  match (locate d.tree path).bind Place.entry with
  | some (.store id) => { d with stores := d.stores.modify id fun t => t.drop table }
  | _ => d

end Disk

end MapBench
