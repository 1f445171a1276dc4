import MapBench.Proofs.Store.Contents
import MapBench.Proofs.Store.Ready
import MapBench.Server.Config

/-!
# `MapBench.Proofs.Store.AllStores`: what all stores of a disk hold

Many may work on one disk: on one store through several handles, on several
stores, and on stores that are made in the meantime. What all of them hold
is told by the changes that were asked of each.

* `contentsAfter`: the contents of all stores after changes.
* `Disk.Shows`: the stores of the disk hold these contents.
* `Disk.Shows.onStore`, `Disk.Shows.openStore`: they still do after an
  operation on one of them, and after one is opened.
* `Disk.Shows.start`, `Disk.Shows.connect`: and after a server has opened
  its store, or a session its file.
-/

set_option autoImplicit false

namespace MapBench

/-- The changes that were asked of the store of a number, in their order. -/
def changesOf (asked : List (Nat × StoreChange)) (n : Nat) : List StoreChange :=
  asked.filterMap fun (k, ch) => if k = n then some ch else none

/-- What changes make of the contents of all stores. Each store sees its own
changes only. -/
def contentsAfter (A : Nat → Contents) (asked : List (Nat × StoreChange)) (n : Nat) : Contents :=
  (changesOf asked n).foldl Contents.after (A n)

/-- Changes may be made in parts, one after the other. -/
theorem contentsAfter_append (A : Nat → Contents) (asked rest : List (Nat × StoreChange)) :
    contentsAfter A (asked ++ rest) = contentsAfter (contentsAfter A asked) rest := by
  funext n
  rw [contentsAfter, changesOf, List.filterMap_append, List.foldl_append]
  rfl

/-- Changes of one store leave the others as they are. -/
theorem contentsAfter_map (A : Nat → Contents) (n : Nat) (changes : List StoreChange) (k : Nat) :
    contentsAfter A (changes.map (n, ·)) k =
      if n = k then changes.foldl Contents.after (A k) else A k := by
  rw [contentsAfter, changesOf, List.filterMap_map]
  by_cases heq : n = k
  · have hall : (fun (k', ch) => if k' = k then some ch else none) ∘ (n, ·) =
        (some : StoreChange → Option StoreChange) := funext fun ch => if_pos heq
    rw [hall, if_pos heq, List.filterMap_some]
  · have hnone : changes.filterMap ((fun (k', ch) => if k' = k then some ch else none) ∘ (n, ·)) = [] :=
      List.filterMap_eq_nil_iff.mpr fun ch _ => if_neg heq
    rw [hnone, if_neg heq, List.foldl_nil]

namespace Disk

/-- The number of the store behind a handle, if there is one. -/
def reached? (d : Disk) (handle : Nat) : Option Nat := do
  let n ← d.storeOf? handle
  let _ ← d.stores[n]?
  return n

/-- What is asked by someone who changes the store behind a handle. Without
a store nothing is asked. -/
def asks (d : Disk) (handle : Nat) (changes : List StoreChange) : List (Nat × StoreChange) :=
  match d.reached? handle with
  | some n => changes.map (n, ·)
  | none => []

/-- What is asked by someone who opens a store and changes it. If it can't
be opened, nothing is asked. -/
def asksOpened (d : Disk) (path : String) (changes : List StoreChange) : List (Nat × StoreChange) :=
  match (openStore path).run d with
  | (.ok handle, d) => d.asks handle changes
  | (.error _, _) => []

/-- Every store has all its tables, and they hold its contents. -/
structure Shows (d : Disk) (A : Nat → Contents) : Prop where
  /-- This leaves out stores whose tables somebody has dropped. -/
  holds : ∀ (n : Nat) (t : Tables), d.stores[n]? = some t → t.Holds (A n)
  /-- A store that isn't there yet will be empty. -/
  empty : ∀ n, d.stores.size ≤ n → A n = ∅

variable {d : Disk} {handle n : Nat} {c : Connection} {A : Nat → Contents} {α : Type}

/-- A store is reached through a handle if there is a connection to it. -/
theorem reached?_eq_some_iff : d.reached? handle = some n ↔
    ∃ c, d.connection? handle = some c ∧ d.storeOf? handle = some n ∧ d.stores[n]? = some c.tables := by
  simp only [reached?, Option.bind_eq_bind, Option.bind_eq_some_iff]
  constructor
  · rintro ⟨k, hk, t, ht, hkn⟩
    obtain rfl := Option.some.inj hkn
    obtain ⟨ready, hc⟩ := exists_connection? hk ht
    exact ⟨_, hc, hk, ht⟩
  · rintro ⟨c, -, hn, ht⟩
    exact ⟨n, hn, _, ht, rfl⟩

/-- A connection reaches its store. -/
theorem reached?_of_connection? (h : d.connection? handle = some c) :
    ∃ n, d.reached? handle = some n ∧ d.storeOf? handle = some n ∧ d.stores[n]? = some c.tables := by
  obtain ⟨n, hn, ht⟩ := storeOf?_of_connection? h
  exact ⟨n, reached?_eq_some_iff.mpr ⟨c, h, hn, ht⟩, hn, ht⟩

/-- Without a connection no store is reached. -/
theorem reached?_eq_none_iff : d.reached? handle = none ↔ d.connection? handle = none := by
  constructor
  · intro hreached
    refine Option.eq_none_iff_forall_ne_some.mpr fun c hc => ?_
    obtain ⟨n, hn, -⟩ := reached?_of_connection? hc
    rw [hreached] at hn
    cases hn
  · intro hconn
    refine Option.eq_none_iff_forall_ne_some.mpr fun n hn => ?_
    obtain ⟨c, hc, -⟩ := reached?_eq_some_iff.mp hn
    rw [hconn] at hc
    cases hc

/-- Without a store behind the handle, nothing is asked. -/
theorem asks_of_no_connection (h : d.connection? handle = none) (changes : List StoreChange) :
    d.asks handle changes = [] := by
  rw [asks, reached?_eq_none_iff.mpr h]

/-- Who makes no change asks nothing. -/
@[simp] theorem asks_nil (d : Disk) (handle : Nat) : d.asks handle [] = [] := by
  rw [asks]
  cases d.reached? handle <;> rfl

namespace Shows

/-- What is put back behind a handle is known on all stores of the disk: on
this one it makes the changes, and on the others none. -/
theorem putBack (h : d.Shows A) (hconn : d.connection? handle = some c) {c' : Connection}
    {changes : List StoreChange}
    (hop : ∀ C : Contents, c.tables.Holds C → c'.tables.Holds (changes.foldl Contents.after C)) :
    (d.putBack handle c').Shows (contentsAfter A (d.asks handle changes)) := by
  obtain ⟨n, hreached, hn, ht⟩ := reached?_of_connection? hconn
  rw [asks, hreached]
  -- The store behind the handle has changed, and the others are as they were.
  constructor
  · intro k t hk
    rw [getElem?_stores_putBack hn] at hk
    rw [contentsAfter_map]
    split at hk
    next heq =>
      obtain rfl := heq
      rw [ht, Option.map_some, Option.some.injEq] at hk
      rw [if_pos rfl, ← hk]
      exact hop _ (h.holds n _ ht)
    next hne =>
      rw [if_neg hne]
      exact h.holds k t hk
  · intro k hk
    have hsize : (d.putBack handle c').stores.size = d.stores.size := by
      rw [Disk.putBack]
      cases d.handles[handle]? <;> simp
    rw [hsize] at hk
    have hlt : n < d.stores.size := (Array.getElem?_eq_some_iff.mp ht).1
    rw [contentsAfter_map, if_neg (by omega)]
    exact h.empty k hk

/-- An operation that is known on every store is known on all stores of
the disk. -/
theorem onStore (h : d.Shows A) {op : StoreM α} {changes : List StoreChange}
    (hop : ∀ (c : Connection) (C : Contents), c.tables.Holds C →
      (op.run c).2.tables.Holds (changes.foldl Contents.after C)) (handle : Nat) :
    ((Disk.onStore handle op).run d).2.Shows (contentsAfter A (d.asks handle changes)) := by
  cases hconn : d.connection? handle with
  | none =>
    rw [run_onStore_of_none hconn, asks_of_no_connection hconn]
    exact h
  | some c =>
    rw [run_onStore hconn]
    exact h.putBack hconn (hop c)

/-- A store that is opened is as it was, or new and empty. In neither case
do contents change. -/
theorem openStore (h : d.Shows A) (path : String) : ((Disk.openStore path).run d).2.Shows A := by
  obtain ⟨e, hrun⟩ | ⟨n, tree, stores, hrun, hstores⟩ := openStore_cases path d
  · rw [hrun]
    exact h
  · rw [hrun]
    -- A new store holds nothing yet, and making missing tables adds nothing to what one
    -- holds.
    rcases hstores with ⟨rfl, rfl⟩ | rfl
    · constructor
      · intro k t hk
        rw [Array.getElem?_push] at hk
        split at hk
        next heq =>
          obtain rfl := Option.some.inj hk
          rw [h.empty k (heq ▸ Nat.le_refl _)]
          exact ⟨∅, ∅, ∅, rfl, .empty⟩
        next => exact h.holds k t hk
      · intro k hk
        rw [Array.size_push] at hk
        exact h.empty k (by omega)
    · constructor
      · intro k t hk
        rw [Array.getElem?_modify] at hk
        split at hk
        next =>
          obtain ⟨t', ht', rfl⟩ := Option.map_eq_some_iff.mp hk
          have hholds := h.holds k t' ht'
          rwa [hholds.complete]
        next => exact h.holds k t hk
      · intro k hk
        rw [Array.size_modify] at hk
        exact h.empty k hk

end Shows

end Disk

/-- Making pools is known on every store. Those that are there stay, with
all that is in them. -/
theorem Store.holds_createPools (pools : List String) (c : Connection) (C : Contents)
    (h : c.tables.Holds C) : ((pools.forM createPool).run c).2.tables.Holds
      ((pools.map StoreChange.createPool).foldl Contents.after C) := by
  induction pools generalizing c C with
  | nil => exact h
  | cons first rest ih =>
    obtain ⟨hresult, hafter⟩ := h.run_change (.createPool first)
    have hstep : ((first :: rest).forM createPool).run c =
        (createPool first >>= fun _ => rest.forM createPool).run c := rfl
    have hmade : (createPool first).run c = (.ok (), ((StoreChange.createPool first).run.run c).2) :=
      Prod.ext hresult rfl
    rw [hstep, run_bind, hmade]
    exact ih _ _ hafter

/-- Choosing a pool is making it, whatever is said about it afterwards. -/
theorem LocalSession.snd_choosePool (handle : Nat) (pool : String) (d : Disk) :
    ((choosePool handle pool).run d).2 = ((Disk.onStore handle (Store.createPool pool)).run d).2 := by
  rw [choosePool, StateT.run_bind]
  rcases (Disk.onStore handle (Store.createPool pool)).run d with ⟨_ | _, d'⟩ <;> rfl

namespace Disk.Shows

variable {d : Disk} {A : Nat → Contents}

/-- A server that opens its store makes its pools there. -/
theorem start (h : d.Shows A) (config : ServerConfig) : (config.openStore.run d).2.Shows
    (contentsAfter A (d.asksOpened config.data (config.pools.map .createPool))) := by
  have hopened := h.openStore config.data
  rw [ServerConfig.openStore, StateT.run_bind, asksOpened]
  rcases hopen : (Disk.openStore config.data).run d with ⟨e | handle, d'⟩
  · rw [hopen] at hopened
    exact hopened
  · rw [hopen] at hopened
    exact hopened.onStore (Store.holds_createPools config.pools) handle

/-- A session that opens a file makes its pool there. If it fails after
that, the pool stays. -/
theorem connect (h : d.Shows A) (path pool : String) : ((LocalSession.connect path pool).run d).2.Shows
    (contentsAfter A (d.asksOpened path [.createPool pool])) := by
  have hopened := h.openStore path
  rw [LocalSession.connect, StateT.run_bind, asksOpened]
  rcases hopen : (Disk.openStore path).run d with ⟨e | handle, d'⟩
  · rw [hopen] at hopened
    exact hopened
  · rw [hopen] at hopened
    have hcreate (c : Connection) (C : Contents) (hc : c.tables.Holds C) :
        ((Store.createPool pool).run c).2.tables.Holds
          ([StoreChange.createPool pool].foldl Contents.after C) := (hc.run_change (.createPool pool)).2
    have hmade := hopened.onStore hcreate handle
    rw [← LocalSession.snd_choosePool] at hmade
    exact hmade

end Disk.Shows

end MapBench
