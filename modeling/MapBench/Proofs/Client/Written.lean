import MapBench.Proofs.Client.Output
import MapBench.Proofs.Files.Growth
import MapBench.Proofs.Run.LocalStore
import MapBench.Proofs.Run.Transfer
import MapBench.Proofs.Server.Pools
import MapBench.Proofs.Store.Contents
import MapBench.Proofs.Store.Ready

/-!
# `MapBench.Proofs.Client.Written`: what a machine's run leaves in a store file

The benchmark opens a store file, empties an object and writes its map.
Afterwards it only counts the map and adds to its log, and the pairs stay
where they are.

* `Disk.IsOpenAt`: a handle stands for the store of the file that a path led
  to. `LocalSession.isOpenAt_of_connect`: a session begins with such a
  handle. `LocalSession.exists_connect`: it begins wherever a store can be
  opened.
* `Run.within_machine`: a run on a machine is one on its disk alone.
  `Run.reached_perform_machine`: how far it gets.
* `Disk.HasMap`: the object's map in a store has so many entries.
  `Run.exists_putBack_of_perform`: after a run that succeeded it has those
  that were planned.
* `Disk.Keeps`: no store has changed, and every store file is still there.
  `World.LeavesDisk`: something that changes no disk, as counting a map
  doesn't.
-/

set_option autoImplicit false

namespace MapBench

variable {ω : Type}

/-! ### The file of a session -/

namespace Disk

/-- The handle stands for the store of the file that the path led to, back
when the tree was as it was before. A private store has no file. -/
def IsOpenAt (d : Disk) (before : FileTree) (path : String) (handle n : Nat) : Prop :=
  d.storeOf? handle = some n ∧ (isPrivate path = false → ∃ place,
    locate before path = some place ∧ d.tree.get? place.location = some (.store n))

/-- What the path of a store file leads to, unless that is a directory, is
what the tree has there. -/
theorem entry_of_locate {t : FileTree} {path : String} {place : Place}
    (h : locate t path = some place) (hfile : place.entry ≠ some .directory) :
    place.location ≠ [] ∧ place.entry = t.get? place.location := by
  obtain ⟨-, -, location, -, -, hwalk⟩ := FileTree.locate_eq_some_iff.mp h
  exact FileTree.entry_of_walk hwalk hfile

/-- Whoever opens a store gets a handle for the file at the end of the
path. -/
theorem isOpenAt_of_openStore {path : String} {d d' : Disk} {handle : Nat}
    (h : (openStore path).run d = (.ok handle, d')) : ∃ n, d'.IsOpenAt d.tree path handle n := by
  have hnew (tree : FileTree) (n : Nat) (stores : Array Tables) :
      storeOf? ⟨tree, stores, d.handles.push ⟨n, false⟩⟩ d.handles.size = some n := by
    simp [storeOf?]
  have hput {place : Place} (hne : place.location ≠ []) (n : Nat) :
      (d.tree.put place.location (.store n)).get? place.location = some (.store n) := by
    rw [FileTree.get?_put hne, if_pos rfl]
  -- A private store has no file, and every other one is where its path was located.
  simp only [StateT.run, openStore] at h
  split at h
  next hprivate =>
    cases h
    exact ⟨_, hnew .., fun hfile => by rw [hprivate] at hfile; cases hfile⟩
  · split at h
    · cases h
    next place hlocate =>
      split at h
      next hentry =>
        cases h
        obtain ⟨hne, -⟩ := entry_of_locate hlocate (by simp [hentry])
        exact ⟨_, hnew .., fun _ => ⟨place, hlocate, hput hne _⟩⟩
      next hentry =>
        cases h
        obtain ⟨hne, -⟩ := entry_of_locate hlocate (by simp [hentry])
        exact ⟨_, hnew .., fun _ => ⟨place, hlocate, hput hne _⟩⟩
      next id hentry =>
        cases h
        obtain ⟨-, hthere⟩ := entry_of_locate hlocate (by simp [hentry])
        exact ⟨_, hnew .., fun _ => ⟨place, hlocate, hthere.symm.trans hentry⟩⟩
      · cases h
      · cases h
      · cases h
      · cases h

/-- An operation on a store moves no files. So a handle that is open at a
path stays so, whichever store is worked on. -/
theorem IsOpenAt.putBack {d : Disk} {before : FileTree} {path : String} {handle n : Nat}
    (h : d.IsOpenAt before path handle n) (other : Nat) (c : Connection) :
    (d.putBack other c).IsOpenAt before path handle n := by
  rw [IsOpenAt, storeOf?_putBack, tree_putBack]
  exact h

end Disk

/-- A session with a store file begins with a handle for the file at the end
of the path. -/
theorem LocalSession.isOpenAt_of_connect {path pool : String} {d d' : Disk} {handle : Nat}
    (h : (LocalSession.connect path pool).run d = (.ok ⟨some handle, pool⟩, d')) :
    ∃ n, d'.IsOpenAt d.tree path handle n := by
  rw [connect, StateT.run_bind] at h
  rcases hopen : (Disk.openStore path).run d with ⟨e | handle', d₁⟩
  · rw [hopen] at h
    cases h
  · rw [hopen] at h
    change (choosePool handle' pool).run d₁ = _ at h
    rw [choosePool, StateT.run_bind] at h
    obtain ⟨n, hat⟩ := Disk.isOpenAt_of_openStore hopen
    cases hc : d₁.connection? handle' with
    | none =>
      rw [Disk.run_onStore_of_none hc] at h
      cases h
    | some c =>
      rw [Disk.run_onStore hc] at h
      rcases hmade : ((Store.createPool pool).run c).1 with e | _ <;> rw [hmade] at h <;> cases h
      exact ⟨n, hat.putBack _ _⟩

/-- A session with a store file begins wherever a store can be opened. Its
pool is made if it isn't there. -/
theorem LocalSession.exists_connect {path : String} {d : Disk} {n : Nat} (h : d.CanOpen path n)
    (pool : String) :
    ∃ d', (connect path pool).run d = (.ok ⟨some d.handles.size, pool⟩, d') := by
  obtain ⟨d₁, hopen, hstore, t, ps, ht, hps, -⟩ := h.run_openStore
  obtain ⟨ready, hc⟩ := Disk.exists_connection? hstore ht
  rw [connect, StateT.run_bind, hopen]
  change ∃ d', (choosePool d.handles.size pool).run d₁ = _
  rw [choosePool, StateT.run_bind, Disk.run_onStore hc, Store.createPool, Store.run_insertPool]
  simp only [hps]
  exact ⟨_, rfl⟩

namespace Disk

/-! ### What keeps stores as they are -/

/-- No store has changed, and every store file is still there. Other files
may come and grow, such as the log. -/
structure Keeps (d d' : Disk) : Prop where
  stores : d'.stores = d.stores
  handles : d'.handles = d.handles
  files : ∀ L n, d.tree.get? L = some (.store n) → d'.tree.get? L = some (.store n)

namespace Keeps

variable {d d' d'' : Disk}

/-- Doing nothing keeps all stores. -/
theorem refl (d : Disk) : Keeps d d :=
  ⟨rfl, rfl, fun _ _ => id⟩

/-- What keeps all stores can be done again and again. -/
theorem trans (h : Keeps d d') (h' : Keeps d' d'') : Keeps d d'' where
  stores := h'.stores.trans h.stores
  handles := h'.handles.trans h.handles
  files L n hfile := h'.files L n (h.files L n hfile)

/-- A handle goes on standing for the store of its file. -/
theorem isOpenAt (h : Keeps d d') {before : FileTree} {path : String} {handle n : Nat}
    (hat : d.IsOpenAt before path handle n) : d'.IsOpenAt before path handle n := by
  refine ⟨by rw [storeOf?, h.handles]; exact hat.1, fun hfile => ?_⟩
  obtain ⟨place, hlocate, hthere⟩ := hat.2 hfile
  exact ⟨place, hlocate, h.files _ _ hthere⟩

end Keeps

/-- The object's map in a store has so many entries. This is about the
tables, whoever has them open. -/
def HasMap (d : Disk) (n : Nat) (id : ObjectId) (count : Nat) : Prop :=
  ∃ t rows, d.stores[n]? = some t ∧ t.mapOf id = some rows ∧ rows.size = count

/-- It has as many as long as stores are kept. -/
theorem Keeps.hasMap {d d' : Disk} (h : Keeps d d') {n count : Nat} {id : ObjectId}
    (hmap : d.HasMap n id count) : d'.HasMap n id count := by
  rw [HasMap, h.stores]
  exact hmap

end Disk

/-- Adding to the log keeps all stores. Only plain files take lines, and the
file of a store isn't one. -/
theorem Machine.keeps_log (line : String) (m : Machine ω) :
    m.world.disk.Keeps ((Machine.log line).run m).2.world.disk := by
  simp only [Machine.log, StateT.run]
  rcases m.log? with _ | path | d
  · exact .refl _
  · exact ⟨rfl, rfl, fun _ _ h => FileTree.get?_append_of_store h path _⟩
  · cases d <;> exact .refl _

/-! ### Counting -/

/-- Counting the entries of a map changes nothing in a store. It isn't
prepared, and no transaction is begun for it. -/
theorem LocalSession.disk_mapSize (s : LocalSession) (object : String) (d : Disk) :
    ((s.storage.mapSize object).run d).2 = d := by
  obtain ⟨handle, pool⟩ := s
  cases handle with
  | none => rfl
  | some handle =>
    change (((LocalSession.mk (some handle) pool).run (Store.mapSize ⟨pool, object⟩)).run d).2 = d
    cases hc : d.connection? handle with
    | none =>
      rw [run, StateT.run_bind, Disk.run_onStore_of_none hc]
      rfl
    | some c =>
      rw [run_of_connection? hc, Store.mapSize, Store.run_countEntries]
      exact Disk.putBack_self hc

/-- Something that changes no disk. It may do whatever it likes with the
network. -/
def World.LeavesDisk {α : Type} (act : StateM (World ω) α) : Prop :=
  ∀ w, (act.run w).2.disk = w.disk

namespace World.LeavesDisk

variable {α β : Type}

/-- Doing nothing changes no disk. -/
theorem pure (a : α) : LeavesDisk (Pure.pure a : StateM (World ω) α) :=
  fun _ => rfl

/-- Nor do such things one after another. -/
theorem bind {act : StateM (World ω) α} {f : α → StateM (World ω) β} (hact : LeavesDisk act)
    (hf : ∀ a, LeavesDisk (f a)) : LeavesDisk (act >>= f) := by
  intro w
  rw [StateT.run_bind]
  exact (hf _ _).trans (hact w)

end World.LeavesDisk

open World

/-- A request changes no disk on this side. What a server does with it is on
another machine. -/
theorem Network.leavesDisk_send (net : Network (StateM ω)) (method url : String)
    (contentType : Option String) (body : List UInt8) :
    LeavesDisk (Network.send (World.access net).net method url contentType body) := by
  rw [send]
  cases Url.parse (World.access net).net.readHost url with
  | error why => exact .pure _
  | ok u =>
    refine .bind (fun _ => rfl) fun result => ?_
    cases result <;> exact .pure _

/-- Neither does one of a session, which may not even be sent. -/
theorem RemoteSession.leavesDisk_send (net : Network (StateM ω)) (s : RemoteSession)
    (method path : String) (contentType : Option String) (body : List UInt8) :
    LeavesDisk (s.send (World.access net).net method path contentType body) := by
  rw [send]
  split
  · refine .bind (net.leavesDisk_send _ _ _ _) fun result => ?_
    cases result with
    | error e => exact .pure _
    | ok answer =>
      dsimp only
      split <;> exact .pure _
  · exact .pure _

/-- Counting the entries of a map changes no disk, whatever the session. A
session with a file looks at its store, and one with a server asks. -/
theorem Session.leavesDisk_mapSize (net : Network (StateM ω)) (s : Session) (object : String) :
    LeavesDisk ((s.storage (World.access net)).mapSize object) := by
  cases s with
  | onDisk s => exact fun w => s.disk_mapSize object w.disk
  | remote s =>
    refine .bind (s.leavesDisk_send net _ _ _ _) fun result => ?_
    cases result with
    | error e => exact .pure _
    | ok answer =>
      dsimp only
      split <;> exact .pure _

/-! ### The map that a run writes -/

namespace Run

variable {net : Network (StateM ω)} {progress : Option (ProgressBar (StateM (Machine ω)))}
  {settings : Settings} {handle : Nat} {pool object : String}

/-- What a session with a store file does on a machine, it does on the disk
of the machine, and printing always succeeds. -/
theorem within_machine (net : Network (StateM ω)) (handle : Nat) (pool : String)
    (progress : Option (ProgressBar (StateM (Machine ω)))) :
    Within (bedOn net (.onDisk ⟨some handle, pool⟩) progress)
      (Surroundings.still.testbed (LocalSession.mk (some handle) pool).storage)
      (fun m => (m.world.disk, ())) WriteOp.pairs where
  removed _ _ := rfl
  wrote _ _ _ := rfl
  prepared _ _ := ⟨rfl, rfl⟩
  operated _ _ _ := rfl
  printed _ _ := rfl

section

variable {m : Machine ω} {d : Disk} {c : Connection} {ps : Std.ExtTreeSet String} {os : Objects}
  {es : Entries}

/-- The setup on a machine empties the object in a store that has all its
tables and the pool, unless the object's names are too long for a row. -/
theorem reached_setup_machine (net : Network (StateM ω))
    (progress : Option (ProgressBar (StateM (Machine ω)))) (settings : Settings) (object : String)
    (hopen : m.world.disk.connection? handle = some c) (htables : c.tables = ⟨some ps, some os, some es⟩)
    (hpool : pool ∈ ps) :
    ∃ r m', (setup (bedOn net (.onDisk ⟨some handle, pool⟩) progress).session object).run m =
        (r, m') ∧
      (r = .ok () ↔ (Row.ofObject ⟨pool, object⟩ setupPayload).Fits) ∧
      (r = .ok () → Reached settings ⟨pool, object⟩ m.world.disk handle ps os es 0 m'.world.disk) := by
  obtain ⟨r, s', hsetup, hok, hreached⟩ :=
    reached_setup Surroundings.still settings object hopen htables hpool ()
  rw [(within_machine net handle pool progress).setup object m] at hsetup
  obtain ⟨hr, rfl⟩ := Prod.mk.inj hsetup
  exact ⟨r, _, Prod.ext hr rfl, hok, hreached⟩

/-- From there, a run on a machine writes the pairs that were planned, if
all of them can be written, and fails otherwise. -/
theorem reached_perform_machine (net : Network (StateM ω))
    (hdisplay : Machine.Overlooks (·.world.disk) progress)
    (hopen : d.connection? handle = some c) (hpool : pool ∈ ps)
    (h : Reached settings ⟨pool, object⟩ d handle ps os es 0 m.world.disk) :
    ∃ result perf m' n, ((perform (bedOn net (.onDisk ⟨some handle, pool⟩) progress) settings
        object).run .empty).run m = ((result, perf), m') ∧
      Reached settings ⟨pool, object⟩ d handle ps os es (n * settings.batchSize) m'.world.disk ∧
      (result.isOk = true ↔ settings.plannedBatches ≤ writableBatches settings ⟨pool, object⟩) ∧
      (result.isOk = true → n = settings.plannedBatches) := by
  have hquiet : Quiet (bedOn net (.onDisk ⟨some handle, pool⟩) progress)
      fun m : Machine ω => m.world.disk := quiet_bedOn hdisplay fun _ _ => rfl
  obtain ⟨result, perf, m', t₁, t₂, n, hperform, ht₁, hloop, ht₂, -⟩ :=
    loopRun_perform settings object hquiet .empty m
  rw [settings.toList_offsets, List.range_eq_range'] at hloop
  -- The run is one on the disk alone.
  have hsmall : LoopRun (Surroundings.still.testbed (LocalSession.mk (some handle) pool).storage)
      Prod.fst settings object ((List.range' 0 settings.plannedBatches).map (· * settings.batchSize))
      (t₁.world.disk, ()) _ (t₂.world.disk, ()) n :=
    (within_machine net handle pool progress).loopRun (fun _ _ => id) hloop
  have hstart : Reached settings ⟨pool, object⟩ d handle ps os es (0 * settings.batchSize)
      t₁.world.disk := by
    rw [Nat.zero_mul, ht₁]
    exact h
  obtain ⟨hreached, hall⟩ := reached_loopRun hopen hpool (fun _ _ _ => rfl) hsmall hstart (Nat.zero_le _)
  rw [Nat.zero_add] at hreached
  simp only [Nat.zero_add] at hall
  refine ⟨result, perf, m', n, hperform, ht₂ ▸ hreached, ?_⟩
  split at hall
  next hle =>
    obtain ⟨hok, rfl⟩ := hall
    cases result with
    | error e => cases hok
    | ok elapsed => exact ⟨⟨fun _ => hle, fun _ => rfl⟩, fun _ => rfl⟩
  next hgt =>
    cases result with
    | error e => exact ⟨⟨(by cases ·), fun hle => absurd hle hgt⟩, (by cases ·)⟩
    | ok elapsed => cases hall.1

end

/-- A run that succeeds on a store that is ready has written the pairs that
were planned, into the map of a fresh object. -/
theorem exists_putBack_of_perform (hdisplay : Machine.Overlooks (·.world.disk) progress)
    {m₁ m₂ m₃ : Machine ω}
    {c : Connection} (hopen : m₁.world.disk.connection? handle = some c)
    (hready : c.tables.IsReady pool)
    (hsetup : (setup (bedOn net (.onDisk ⟨some handle, pool⟩) progress).session object).run m₁ =
      (.ok (), m₂)) {elapsed : Elapsed} {perf : Performance}
    (hrun : ((perform (bedOn net (.onDisk ⟨some handle, pool⟩) progress) settings object).run .empty).run
      m₂ = ((.ok elapsed, perf), m₃)) :
    ∃ c' rows, m₃.world.disk = m₁.world.disk.putBack handle c' ∧
      c'.tables.mapOf ⟨pool, object⟩ = some rows ∧ rows.size = settings.plannedPairs := by
  obtain ⟨ps, os, es, htables, hpool⟩ := hready
  obtain ⟨r, m₂', hsetup', -, hbegin⟩ :=
    reached_setup_machine net progress settings object hopen htables hpool
  obtain ⟨rfl, rfl⟩ := Prod.mk.inj (hsetup.symm.trans hsetup')
  obtain ⟨result, perf', m₃', n, hperform, hreached, hfits, hall⟩ :=
    reached_perform_machine net hdisplay hopen hpool (hbegin rfl)
  obtain ⟨hresult, rfl⟩ := Prod.mk.inj (hrun.symm.trans hperform)
  obtain ⟨rfl, -⟩ := Prod.mk.inj hresult
  obtain rfl := hall rfl
  obtain ⟨ready, hdisk⟩ := hreached
  -- The number of planned pairs saturates in a word, but a run that was done is far below
  -- that.
  have hplanned : settings.plannedPairs = settings.plannedBatches * settings.batchSize := by
    have hlimit : settings.plannedBatches * settings.batchSize ≤ Key.limit :=
      Nat.le_trans ((Nat.le_div_iff_mul_le settings.batchSize_pos).mp (hfits.mp rfl))
        (writablePairs_le settings ⟨pool, object⟩)
    have hword : Key.limit ≤ maxWord := by decide
    rw [settings.plannedPairs_eq, roundUp, ← settings.plannedBatches_eq]
    omega
  refine ⟨_, _, hdisk, rfl, ?_⟩
  rw [hplanned]
  exact size_tablesAfter settings _

end Run

end MapBench
