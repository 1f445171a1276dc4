import MapBench.Proofs.Api.Answers
import MapBench.Proofs.Api.Path
import MapBench.Proofs.Store.File
import MapBench.Server.Config

/-!
# `MapBench.Proofs.Server.Pools`: which pools a server opens

A server makes the pools of its configuration when it starts, and looks
into its store file whenever it is asked for one. The file outlives the
server, so the next one finds all the pools that were made before, also
those that its own configuration doesn't name.

* `ServerLife`: a server from its start to its end. `ServerLife.runAll`:
  one server after another.
* `Disk.Opens`: a server opens these pools and no others.
* `Disk.HasPools`: the tables of a store have these pools.
  `HasPools.openStore`, `HasPools.answer`: a start adds those of its
  configuration, and a request adds none.
* `ServerLife.opens_runAll`: what the last of many servers opens.
-/

set_option autoImplicit false

namespace MapBench

open Std Api

/-- Answer a request from an open store. The server has one handle, and
keeps it from its start to its end. -/
def Disk.answer (handle : Nat) (r : Request) : StateM Disk (Except StoreError Answer) :=
  Disk.onStore handle (ExceptT.lift (Api.handle r))

/-- A server from its start to its end: the configuration that it started
with, and the requests that it answered. -/
structure ServerLife where
  config : ServerConfig
  requests : List Request

namespace ServerLife

/-- Start a server and have it answer its requests. The handle is that of
its store. -/
def run (life : ServerLife) : StateM Disk (Except StoreError Nat) := do
  match ← life.config.openStore with
  | .error e => return .error e
  | .ok handle =>
    life.requests.forM fun r => do
      let _ ← Disk.answer handle r
    return .ok handle

/-- Run one server after another. If one of them doesn't start, nobody
goes on; otherwise the handle is that of the last one. -/
def runAll (life : ServerLife) : List ServerLife → StateM Disk (Except StoreError Nat)
  | [] => life.run
  | next :: rest => do
    match ← life.run with
    | .error e => return .error e
    | .ok _ => runAll next rest

end ServerLife

namespace Disk

/-- The path leads to the store of a number, or a new store that is made
there gets this number. -/
def CanOpen (d : Disk) (path : String) (n : Nat) : Prop :=
  (d.tree.LeadsToStore path n ∧ ∃ t, d.stores[n]? = some t) ∨
    ((∃ place, d.tree.HasRoomAt path place) ∧ n = d.stores.size)

/-- The store of a number has the pool. This is about the tables themselves,
whoever has them open. -/
def HasPool (d : Disk) (n : Nat) (pool : String) : Prop :=
  ∃ t, d.stores[n]? = some t ∧ t.HasPool pool

/-- The store of a number has a table of pools, and these are in it. Without
a table nothing could be said of single pools. -/
def HasPools (d : Disk) (n : Nat) (pools : String → Prop) : Prop :=
  ∃ t ps, d.stores[n]? = some t ∧ t.pools = some ps ∧ ∀ pool, pool ∈ ps ↔ pools pool

/-- A server that works with the handle opens these pools and no others.
Asking for a pool changes nothing, and neither does a request for an
object of a pool that isn't open. -/
structure Opens (d : Disk) (handle : Nat) (pools : String → Prop) : Prop where
  found : ∀ (r : Request) (pool : String), r.Asks (.findPool pool) → pools pool →
    (answer handle r).run d = (.ok (bare 200), d)
  refused : ∀ (r : Request) (action : Action), r.Asks action → ¬ pools action.pool →
    (answer handle r).run d = (.ok (bare 404), d)

variable {d : Disk} {n handle : Nat} {pools pools' : String → Prop}

/-! ### Opening and answering -/

/-- A request is answered from the tables behind the handle. What the
handler does to them is put back there. -/
theorem run_answer {c : Connection} (h : d.connection? handle = some c) (r : Request) :
    (answer handle r).run d =
      (.ok ((Api.handle r).run c).1, d.putBack handle ((Api.handle r).run c).2) := by
  rw [answer, run_onStore h]
  rfl

/-- Whoever opens a store finds the pools that it had. Opening makes tables
that are missing, but never empties one. -/
theorem CanOpen.run_openStore {path : String} (h : d.CanOpen path n) :
    ∃ d', (Disk.openStore path).run d = (.ok d.handles.size, d') ∧
      d'.storeOf? d.handles.size = some n ∧ d'.HasPools n (d.HasPool n) := by
  rcases h with ⟨hlead, t, ht⟩ | ⟨⟨place, hroom⟩, rfl⟩
  · refine ⟨_, run_openStore_store hlead, ?_, t.complete, t.pools.getD ∅, ?_, rfl, fun pool => ?_⟩
    · rw [storeOf?, Array.getElem?_push_size, Option.map_some]
    · rw [Array.getElem?_modify, if_pos rfl, ht, Option.map_some]
    · simp only [HasPool, ht, Option.some.injEq, exists_eq_left', Tables.HasPool]
      cases t.pools <;> simp
  · refine ⟨_, run_openStore_new hroom, ?_, .empty, ∅, Array.getElem?_push_size, rfl, fun pool => ?_⟩
    · rw [storeOf?, Array.getElem?_push_size, Option.map_some]
    · simp [HasPool]

/-- A request leaves the pools as they are, whatever it asks for and however
it is answered. -/
theorem HasPools.answer (h : d.HasPools n pools) (hn : d.storeOf? handle = some n) (r : Request) :
    ∃ a d', (Disk.answer handle r).run d = (.ok a, d') ∧ d'.tree = d.tree ∧
      d'.storeOf? handle = some n ∧ d'.HasPools n pools := by
  obtain ⟨t, ps, ht, hps, hpools⟩ := h
  obtain ⟨ready, hc⟩ := exists_connection? hn ht
  let c := ((Api.handle r).run ⟨t, ready⟩).2
  have hstore : (d.putBack handle c).stores[n]? = some c.tables := by
    rw [getElem?_stores_putBack hn, if_pos rfl, ht, Option.map_some]
  have hsame : c.tables.pools = some ps := (answered_handle r ⟨t, ready⟩).pools.trans hps
  exact ⟨_, _, run_answer hc r, tree_putBack d handle c, (storeOf?_putBack d handle c handle).trans hn,
    c.tables, ps, hstore, hsame, hpools⟩

/-- So do any number of requests. The induction is on the requests. -/
theorem HasPools.answers (h : d.HasPools n pools) (hn : d.storeOf? handle = some n)
    (requests : List Request) :
    let d' := ((requests.forM fun r => do let _ ← Disk.answer handle r : StateM Disk Unit).run d).2
    d'.tree = d.tree ∧ d'.storeOf? handle = some n ∧ d'.HasPools n pools := by
  induction requests generalizing d with
  | nil => exact ⟨rfl, hn, h⟩
  | cons r rest ih =>
    obtain ⟨a, d', hrun, htree, hn', h'⟩ := h.answer hn r
    obtain ⟨htree', hrest⟩ := ih h' hn'
    have hrun' : ((r :: rest).forM fun r => do let _ ← Disk.answer handle r : StateM Disk Unit).run d =
        (rest.forM fun r => do let _ ← Disk.answer handle r : StateM Disk Unit).run
          ((Disk.answer handle r).run d).2 := rfl
    rw [hrun', hrun]
    exact ⟨htree'.trans htree, hrest⟩

end Disk

/-- Making pools adds them to those that are there. One that is there
already is left alone, so an order doesn't matter. -/
theorem Store.run_createPools (pools : List String) {c : Connection} {ps : ExtTreeSet String}
    (hps : c.tables.pools = some ps) :
    ∃ c' ps', (pools.forM createPool).run c = (.ok (), c') ∧ c'.tables.pools = some ps' ∧
      ∀ pool, pool ∈ ps' ↔ pool ∈ ps ∨ pool ∈ pools := by
  induction pools generalizing c ps with
  | nil => exact ⟨c, ps, rfl, hps, by simp⟩
  | cons first rest ih =>
    have hmade : (createPool first).run c =
        (.ok (), c.withTables { c.tables with pools := some (ps.insert first) }) := by
      rw [createPool, run_insertPool, hps]
    have hnext : (c.withTables { c.tables with pools := some (ps.insert first) }).tables.pools =
        some (ps.insert first) := rfl
    obtain ⟨c', ps', hrun, hps', hmem⟩ := ih hnext
    have hstep : ((first :: rest).forM createPool).run c =
        (createPool first >>= fun _ => rest.forM createPool).run c := rfl
    refine ⟨c', ps', ?_, hps', fun pool => ?_⟩
    · rw [hstep, run_bind, hmade]
      exact hrun
    · rw [hmem, ExtTreeSet.mem_insert, List.mem_cons, Std.compare_eq_iff_eq, or_right_comm, eq_comm]
      exact or_comm

namespace Disk

variable {d : Disk} {n handle : Nat} {pools pools' : String → Prop}

/-- A server that starts adds the pools of its configuration to those that
its store has. -/
theorem CanOpen.run_start {config : ServerConfig} (h : d.CanOpen config.data n) :
    ∃ handle d', config.openStore.run d = (.ok handle, d') ∧
      d'.tree = ((Disk.openStore config.data).run d).2.tree ∧ d'.storeOf? handle = some n ∧
      d'.HasPools n fun pool => d.HasPool n pool ∨ pool ∈ config.pools := by
  obtain ⟨d₁, hopen, hn, t, ps, ht, hps, hpools⟩ := h.run_openStore
  obtain ⟨ready, hc⟩ := exists_connection? hn ht
  have hps' : (Connection.mk t ready).tables.pools = some ps := hps
  obtain ⟨c', ps', hrun, hmade, hmem⟩ := Store.run_createPools config.pools hps'
  have hcreate : (onStore d.handles.size config.createPools).run d₁ =
      (.ok (), d₁.putBack d.handles.size c') := by
    rw [run_onStore hc, ServerConfig.createPools, hrun]
  have hstart : config.openStore.run d = (.ok d.handles.size, d₁.putBack d.handles.size c') := by
    rw [ServerConfig.openStore, StateT.run_bind, hopen]
    show StateT.run (do return (← onStore d.handles.size config.createPools).map fun () => _) d₁ = _
    rw [StateT.run_bind, hcreate]
    rfl
  refine ⟨_, _, hstart, ?_, ?_, c'.tables, ps', ?_, hmade, fun pool => ?_⟩
  · rw [tree_putBack, hopen]
  · rw [storeOf?_putBack, hn]
  · rw [getElem?_stores_putBack hn, if_pos rfl, ht, Option.map_some]
  · rw [hmem, hpools]

/-- The pools of a store that has a table of them are the ones in it. -/
theorem HasPools.hasPool_iff (h : d.HasPools n pools) (pool : String) :
    d.HasPool n pool ↔ pools pool := by
  obtain ⟨t, ps, ht, hps, hpools⟩ := h
  simp only [HasPool, ht, Option.some.injEq, exists_eq_left', Tables.HasPool, hps, hpools]

/-- It only matters which pools there are, not how that is said. -/
theorem HasPools.congr (h : d.HasPools n pools) (heq : ∀ pool, pools pool ↔ pools' pool) :
    d.HasPools n pools' := by
  obtain ⟨t, ps, ht, hps, hpools⟩ := h
  exact ⟨t, ps, ht, hps, fun pool => (hpools pool).trans (heq pool)⟩

/-- What a server opens is what is in the table of its store. Its
configuration isn't asked. -/
theorem HasPools.opens (h : d.HasPools n pools) (hn : d.storeOf? handle = some n) :
    d.Opens handle pools := by
  obtain ⟨t, ps, ht, hps, hpools⟩ := h
  obtain ⟨ready, hc⟩ := exists_connection? hn ht
  have hhas (pool : String) : t.HasPool pool ↔ pools pool := by
    rw [Tables.hasPool_iff_mem hps, hpools]
  constructor
  · intro r pool hasks hpool
    have hhandle := run_handle_findPool (c := ⟨t, ready⟩) hasks ((hhas pool).mpr hpool)
    rw [run_answer hc, hhandle, putBack_self hc]
  · intro r action hasks hpool
    have hsome : (Connection.mk t ready).tables.pools ≠ none := by
      rw [show (Connection.mk t ready).tables.pools = some ps from hps]
      exact Option.some_ne_none ps
    have hhandle := run_handle_of_noPool hasks hsome fun hfound =>
      hpool ((hhas action.pool).mp hfound)
    rw [run_answer hc, hhandle, putBack_self hc]

/-! ### Asking a server for a pool -/

/-- The request for a pool, as a client sends it. It has no body. -/
def poolRequest (pool : String) : Request :=
  ⟨"GET", poolPath pool, []⟩

/-- It asks for the pool, if the name of that is one piece of a path. -/
theorem asks_poolRequest {pool : String} (h : IsSegment pool) :
    (poolRequest pool).Asks (.findPool pool) := by
  have hpieces : ∀ name ∈ (Route.findPool pool).pieces, IsSegment name := by
    intro name hname
    simp only [Route.pieces, List.mem_cons, List.not_mem_nil, or_false] at hname
    rcases hname with rfl | rfl | rfl
    · decide
    · decide
    · exact h
  exact ⟨.findPool pool, Request.matches_path hpieces [], rfl⟩

/-- A pool that someone can ask for is one piece of a path. A path ends a
name at each slash, and at the query. -/
theorem isSegment_of_asks {r : Request} {action : Action} (h : r.Asks action) :
    IsSegment action.pool := by
  obtain ⟨route, ⟨-, hpieces⟩, haction⟩ := h
  have hpool : action.pool ∈ route.pieces := by
    cases route with
    | writeEntries id =>
      simp only [Route.action] at haction
      split at haction <;> cases haction
      simp [Route.pieces, Action.pool]
    | _ =>
      cases haction
      simp [Route.pieces, Action.pool]
  exact isSegment_of_mem_pieces? hpieces _ hpool

/-- Whoever asks for a pool learns whether it is open. There is no third
answer, and asking changes nothing. -/
theorem Opens.run_poolRequest (h : d.Opens handle pools) {pool : String} (hpool : IsSegment pool) :
    ∃ a, (answer handle (poolRequest pool)).run d = (.ok a, d) ∧
      (a.status = 200 ↔ pools pool) ∧ (a.status = 404 ↔ ¬ pools pool) := by
  have hasks := asks_poolRequest hpool
  by_cases hopen : pools pool
  · exact ⟨_, h.found _ _ hasks hopen, by simp [bare, hopen]⟩
  · exact ⟨_, h.refused _ _ hasks hopen, by simp [bare, hopen]⟩

/-- A server opens other pools, too, exactly if nobody can ask for them. So
what a server opens can be told apart up to names that no request can have. -/
theorem Opens.congr_iff (h : d.Opens handle pools) :
    d.Opens handle pools' ↔ ∀ pool, IsSegment pool → (pools pool ↔ pools' pool) := by
  constructor
  · intro h' pool hpool
    obtain ⟨a, hrun, hstatus, -⟩ := h.run_poolRequest hpool
    obtain ⟨a', hrun', hstatus', -⟩ := h'.run_poolRequest hpool
    obtain ⟨heq, -⟩ := Prod.mk.inj (hrun.symm.trans hrun')
    rw [← hstatus, ← hstatus', Except.ok.inj heq]
  · intro heq
    constructor
    · exact fun r pool hasks hopen => h.found r pool hasks ((heq _ (isSegment_of_asks hasks)).mpr hopen)
    · exact fun r action hasks hclosed => h.refused r action hasks fun hopen =>
        hclosed ((heq _ (isSegment_of_asks hasks)).mp hopen)

end Disk

/-! ### One server after another -/

namespace ServerLife

variable {d : Disk} {n : Nat}

/-- A server leaves its store with the pools that it had and those of the
configuration. -/
theorem run_of_canOpen (life : ServerLife) (h : d.CanOpen life.config.data n) :
    ∃ handle d', life.run.run d = (.ok handle, d') ∧
      d'.tree = ((Disk.openStore life.config.data).run d).2.tree ∧ d'.storeOf? handle = some n ∧
      d'.HasPools n fun pool => d.HasPool n pool ∨ pool ∈ life.config.pools := by
  obtain ⟨handle, d₁, hstart, htree, hn, hpools⟩ := h.run_start
  obtain ⟨htree', hn', hpools'⟩ := hpools.answers hn life.requests
  refine ⟨handle, _, ?_, htree'.trans htree, hn', hpools'⟩
  rw [run, StateT.run_bind, hstart]
  rfl

/-- After one server after another on one store file, all of which start,
the store has the pools that it had and those of every configuration. -/
theorem hasPools_runAll (first : ServerLife) (rest : List ServerLife)
    (hfirst : d.CanOpen first.config.data n)
    (hrest : ∀ life ∈ rest,
      ((Disk.openStore first.config.data).run d).2.tree.LeadsToStore life.config.data n) :
    ∃ handle d', (runAll first rest).run d = (.ok handle, d') ∧ d'.storeOf? handle = some n ∧
      d'.HasPools n fun pool =>
        d.HasPool n pool ∨ ∃ life ∈ first :: rest, pool ∈ life.config.pools := by
  induction rest generalizing d first with
  | nil =>
    obtain ⟨handle, d', hrun, -, hn, hpools⟩ := first.run_of_canOpen hfirst
    exact ⟨handle, d', hrun, hn, hpools.congr fun pool => by simp⟩
  | cons next rest ih =>
    obtain ⟨handle, d₁, hrun, htree, hn, hpools⟩ := first.run_of_canOpen hfirst
    obtain ⟨hnext, hlast⟩ := List.forall_mem_cons.mp hrest
    rw [← htree] at hnext hlast
    have hcan : d₁.CanOpen next.config.data n := by
      obtain ⟨t, _, ht, -⟩ := hpools
      exact .inl ⟨hnext, t, ht⟩
    -- The file is there now, so opening it again leaves the tree as it is.
    have hlast' : ∀ life ∈ rest,
        ((Disk.openStore next.config.data).run d₁).2.tree.LeadsToStore life.config.data n := by
      rw [Disk.run_openStore_store hnext]
      exact hlast
    obtain ⟨handle', d', hrun', hn', hpools'⟩ := ih next hcan hlast'
    refine ⟨handle', d', ?_, hn', hpools'.congr fun pool => ?_⟩
    · rw [runAll, StateT.run_bind, hrun]
      exact hrun'
    · simp only [hpools.hasPool_iff, List.mem_cons, exists_eq_or_imp, or_assoc]

/-- After one server after another on one store file, the last one opens
the pools that the file had and those of every configuration so far. That
clients may use the pools of its own configuration only is true exactly if
nobody can ask for another pool of an earlier one. -/
theorem opens_runAll (first : ServerLife) (rest : List ServerLife)
    (hfirst : d.CanOpen first.config.data n)
    (hrest : ∀ life ∈ rest,
      ((Disk.openStore first.config.data).run d).2.tree.LeadsToStore life.config.data n) :
    let made (pool : String) :=
      d.HasPool n pool ∨ ∃ life ∈ first :: rest, pool ∈ life.config.pools
    let configured (pool : String) := pool ∈ (rest.getLastD first).config.pools
    ∃ handle d', (runAll first rest).run d = (.ok handle, d') ∧ d'.Opens handle made ∧
      (∀ pool, IsSegment pool → ∃ a, (Disk.answer handle (Disk.poolRequest pool)).run d' = (.ok a, d') ∧
        (a.status = 200 ↔ made pool) ∧ (a.status = 404 ↔ ¬ made pool)) ∧
      (d'.Opens handle configured ↔ ∀ pool, IsSegment pool → made pool → configured pool) := by
  intro made configured
  obtain ⟨handle, d', hrun, hn, hpools⟩ := hasPools_runAll first rest hfirst hrest
  have hopens : d'.Opens handle made := hpools.opens hn
  refine ⟨handle, d', hrun, hopens, fun pool hpool => hopens.run_poolRequest hpool, ?_⟩
  -- The last configuration is one of all.
  have hlast : rest.getLastD first ∈ first :: rest := by
    cases rest with
    | nil => exact List.mem_cons_self
    | cons next rest =>
      rw [List.getLastD_cons]
      exact List.mem_cons_of_mem first List.getLastD_mem_cons
  have hmade (pool : String) (h : configured pool) : made pool := .inr ⟨_, hlast, h⟩
  rw [hopens.congr_iff]
  exact forall₂_congr fun pool _ => ⟨fun h => h.mp, fun h => ⟨h, hmade pool⟩⟩

/-- A server has the pool `old`, and the next one on the same file doesn't.
Both configurations are accepted. Whoever asks the second one for `old` is
told that it is there. -/
theorem opens_runAll_forgottenPool :
    let d := Disk.ofTree ⟨∅, []⟩
    let life (pools : List String) : ServerLife := ⟨⟨"localhost:8080", "server.db", pools, none, none⟩, []⟩
    let first := life ["ben", "old"]
    let last := life ["ben"]
    (∀ config ∈ [first.config, last.config],
        config.check (m := Id) (fun path => d.tree.hasEntry path) = .ok ()) ∧
      d.CanOpen first.config.data 0 ∧
      (∀ next ∈ [last],
        ((Disk.openStore first.config.data).run d).2.tree.LeadsToStore next.config.data 0) ∧
      "old" ∉ last.config.pools ∧
      ∃ handle d', (runAll first [last]).run d = (.ok handle, d') ∧
        (Disk.answer handle (Disk.poolRequest "old")).run d' = (.ok (bare 200), d') := by
  intro d life first last
  have hsegments : Path.segments "server.db" = ["server.db"] := by decide +kernel
  have hempty : d.tree.HasRoomAt "server.db" ⟨["server.db"], none⟩ ∧ d.tree.IsDirect "server.db" :=
    FileTree.hasRoomAt_empty ⟨by decide, by decide⟩ (by decide) rfl (by simp) hsegments
  obtain ⟨hroom, hdirect⟩ := hempty
  have hfirst : d.CanOpen first.config.data 0 := .inr ⟨⟨_, hroom⟩, rfl⟩
  have hrest : ∀ next ∈ [last],
      ((Disk.openStore first.config.data).run d).2.tree.LeadsToStore next.config.data 0 := by
    intro next hnext
    obtain rfl := List.mem_singleton.mp hnext
    rw [Disk.run_openStore_new hroom]
    exact hroom.leadsToStore hdirect 0
  obtain ⟨handle, d', hrun, hopens, -⟩ := opens_runAll first [last] hfirst hrest
  have hold : IsSegment "old" := by decide
  have hfound := hopens.found _ "old" (Disk.asks_poolRequest hold)
    (.inr ⟨first, List.mem_cons_self, by decide⟩)
  have hparent : Path.parent? "server.db" = some "" := by decide +kernel
  refine ⟨fun config hconfig => ?_, hfirst, hrest, by decide, handle, d', hrun, hfound⟩
  simp only [List.mem_cons, List.not_mem_nil, or_false] at hconfig
  rcases hconfig with rfl | rfl
  · simp [ServerConfig.check, first, life, hparent]
    rfl
  · simp [ServerConfig.check, last, life, hparent]
    rfl

end ServerLife

end MapBench
