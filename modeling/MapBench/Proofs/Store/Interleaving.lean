import MapBench.Proofs.Store.Contents
import MapBench.Proofs.Store.Disk
import MapBench.Store.Journal
import Mathlib.Logic.Function.Basic

/-!
# `MapBench.Proofs.Store.Interleaving`: several connections to one store

An operation that writes to an object first looks for the pool, and
then runs its statement or its transaction. Other connections may get
in between. That does no harm: pools are never removed, so a pool that
was found is still there, and the operation comes out as if it had been
made as a whole at the moment of its second step. An operation whose
pool is missing ends with its first step.

* `StoreCall`: what a connection is asked to do, as a whole (`run`) and
  in steps (`pool?`, `body`).
* `Sharing`: connections on their way through their calls. `step` is
  the next step of one of them, and `run` follows a schedule.
* `Sharing.step_cases`: a step finds a pool, or ends a whole call.
* `Sharing.Serializes`, `serializes_run`: whatever the schedule, what the
  connections are told and what they leave is what calls give that are
  made one at a time.
-/

set_option autoImplicit false

namespace MapBench

open Std

/-! ### Calls -/

/-- What a connection is asked to do. Whether a pool is there isn't among
it, as that is a single look. -/
inductive StoreCall
  | change (ch : StoreChange)
  | mapSize (id : ObjectId)
  deriving Repr, DecidableEq

/-- How a call ends. Only the size of a map is told. -/
abbrev CallResult := Except StoreError (Option Nat)

namespace StoreCall

/-- The call as a whole, as if nobody else were there. -/
def run : StoreCall → StoreM (Option Nat)
  | change ch => do ch.run; return none
  | mapSize id => do return some (← Store.mapSize id)

/-- The pool that is looked for first. A call without one has a single step. -/
def pool? : StoreCall → Option String
  | change ch => ch.target?.map ObjectId.pool
  | mapSize _ => none

/-- The statement or transaction that does the work. -/
def body : StoreCall → StoreM (Option Nat)
  | change (.createPool pool) => do Store.createPool pool; return none
  | change (.replaceData id data) => do Store.putObject id data; return none
  | change (.removeObject id) => do Store.deleteAll id; return none
  | change (.writeEntries id batch) => do Store.setEntries id batch; return none
  | mapSize id => do return some (← Store.mapSize id)

/-- A call that looks for no pool is its body. -/
theorem run_of_pool?_none {call : StoreCall} (h : call.pool? = none) : call.run = call.body := by
  rcases call with (_ | _ | _ | _) | _ <;> first | rfl | cases h

/-- Any other looks for its pool before that. -/
theorem run_of_pool?_some {call : StoreCall} {pool : String} (h : call.pool? = some pool) :
    call.run = Store.needPool pool >>= fun _ => call.body := by
  rcases call with (_ | _ | _ | _) | _ <;> cases h <;>
    simp only [run, body, StoreChange.run, Store.replaceData, Store.removeObject, Store.writeEntries,
      bind_assoc]

end StoreCall

/-! ### What a call does to the tables -/

/-- What a call does to the tables: it makes no pool but the one that it is
to make, touches no object in a pool that isn't there, and fails for
want of a pool only if there is none. -/
structure StoreCall.Acts (call : StoreCall) (r : CallResult) (t t' : Tables) : Prop where
  complete : t'.complete = t'
  pools : ∀ pool, t'.HasPool pool ↔ t.HasPool pool ∨ call = .change (.createPool pool)
  rows : ∀ id, ¬ t.HasPool id.pool → t'.dataOf id = t.dataOf id ∧ t'.mapOf id = t.mapOf id
  refused : ∀ pool, r = .error (.noSuchPool pool) → ¬ t.HasPool pool

namespace StoreCall

/-- A call that changes nothing: one that only asks, and one that is
refused. -/
theorem acts_of_same {call : StoreCall} {r : CallResult} {t : Tables} (ht : t.complete = t)
    (hcall : ∀ pool, call = .change (.createPool pool) → t.HasPool pool)
    (hr : ∀ pool, r = .error (.noSuchPool pool) → ¬ t.HasPool pool) : call.Acts r t t where
  complete := ht
  pools pool := ⟨.inl, Or.rec id (hcall pool)⟩
  rows _ _ := ⟨rfl, rfl⟩
  refused := hr

/-- A call that found its pool changes the rows of its object only. -/
theorem acts_of_spares {call : StoreCall} {r : CallResult} {t t' : Tables} {id : ObjectId}
    (hpool : t.HasPool id.pool) (hcall : call.pool? = some id.pool) (ht : t'.complete = t')
    (hrows : t'.without id = t.without id)
    (hr : ∀ pool, r ≠ .error (.noSuchPool pool)) : call.Acts r t t' where
  complete := ht
  pools pool := by
    have hpools : t'.pools = t.pools := (congrArg Tables.pools hrows :)
    rw [Tables.HasPool, hpools]
    refine ⟨.inl, Or.rec (fun h => h) fun hcreate => ?_⟩
    rw [hcreate] at hcall
    cases hcall
  rows other hother := by
    have hne : other ≠ id := fun heq => hother (heq ▸ hpool)
    constructor
    · rw [← Tables.dataOf_without hne, hrows, Tables.dataOf_without hne]
    · rw [← Tables.mapOf_without hne, hrows, Tables.mapOf_without hne]
  refused pool h := absurd h (hr pool)

/-- A change tells nothing but whether it succeeded. -/
theorem run_change (ch : StoreChange) (c : Connection) :
    (change ch).run.run c = ((ch.run.run c).1.map fun _ => none, (ch.run.run c).2) := by
  rw [run, Store.run_bind]
  rcases ch.run.run c with ⟨- | -, c'⟩ <;> rfl

end StoreCall

namespace StoreChange

variable {ch : StoreChange} {id : ObjectId} {c : Connection}

/-- A change of an object leaves all other rows alone. -/
theorem spares_run (h : ch.target? = some id) : Store.Spares id ch.run := by
  cases ch with
  | createPool pool => cases h
  | replaceData id' data =>
    obtain rfl := Option.some.inj h
    exact Store.spares_replaceData id' data
  | removeObject id' =>
    obtain rfl := Option.some.inj h
    exact Store.spares_removeObject id'
  | writeEntries id' batch =>
    obtain rfl := Option.some.inj h
    exact Store.spares_writeEntries id' batch

/-- A change of an object whose pool isn't there ends with looking for
it. -/
theorem run_of_not_mem {ps : ExtTreeSet String} {os : Objects} {es : Entries}
    (h : ch.target? = some id) (htables : c.tables = ⟨some ps, some os, some es⟩)
    (hpool : id.pool ∉ ps) : ch.run.run c = (.error (.noSuchPool id.pool), c) := by
  cases ch with
  | createPool pool => cases h
  | replaceData id' data =>
    obtain rfl := Option.some.inj h
    rw [run, Store.run_replaceData data htables, if_neg hpool]
  | removeObject id' =>
    obtain rfl := Option.some.inj h
    rw [run, Store.run_removeObject htables, if_neg hpool]
  | writeEntries id' batch =>
    obtain rfl := Option.some.inj h
    rw [run, Store.run_writeEntries batch htables, if_neg hpool]

/-- A change of an object whose pool is there leaves all tables, and if it
fails, then for another reason. -/
theorem run_of_mem {ps : ExtTreeSet String} {os : Objects} {es : Entries}
    (h : ch.target? = some id) (htables : c.tables = ⟨some ps, some os, some es⟩)
    (hpool : id.pool ∈ ps) :
    (ch.run.run c).2.tables.complete = (ch.run.run c).2.tables ∧
      ∀ pool, (ch.run.run c).1 ≠ .error (.noSuchPool pool) := by
  cases ch with
  | createPool pool => cases h
  | replaceData id' data =>
    obtain rfl := Option.some.inj h
    rw [run, Store.run_replaceData data htables, if_pos hpool]
    split
    · exact ⟨rfl, fun pool heq => by cases heq⟩
    · exact ⟨Tables.complete_eq_iff.mpr ⟨ps, os, es, htables⟩, fun pool heq => by cases heq⟩
  | removeObject id' =>
    obtain rfl := Option.some.inj h
    rw [run, Store.run_removeObject htables, if_pos hpool]
    exact ⟨rfl, fun pool heq => by cases heq⟩
  | writeEntries id' batch =>
    obtain rfl := Option.some.inj h
    rw [run, Store.run_writeEntries batch htables, if_pos hpool]
    split
    · exact ⟨Tables.complete_eq_iff.mpr ⟨ps, os, es, htables⟩, fun pool heq => by cases heq⟩
    · exact ⟨rfl, fun pool heq => by cases heq⟩

end StoreChange

namespace StoreCall

/-- Creating a pool adds its row, and no other one. -/
theorem acts_createPool (pool : String) (ps : ExtTreeSet String) (os : Objects) (es : Entries) :
    (change (.createPool pool)).Acts (.ok none) ⟨some ps, some os, some es⟩
      ⟨some (ps.insert pool), some os, some es⟩ where
  complete := rfl
  pools other := by
    rw [Tables.hasPool_iff_mem rfl, Tables.hasPool_iff_mem rfl, ExtTreeSet.mem_insert, Std.compare_eq_iff_eq,
      or_comm, change.injEq, StoreChange.createPool.injEq]
  rows _ _ := ⟨rfl, rfl⟩
  refused _ h := by cases h

/-- Whatever a call is and however it ends, it acts as it may on a store
with all its tables: pools stay, only its own rows change, and it is refused
for want of a pool only if there is none. -/
theorem acts_run (call : StoreCall) {c : Connection} (hc : c.tables.complete = c.tables) :
    call.Acts (call.run.run c).1 c.tables (call.run.run c).2.tables := by
  obtain ⟨ps, os, es, htables⟩ := Tables.complete_eq_iff.mp hc
  have hhas := Tables.hasPool_iff_mem (congrArg Tables.pools htables)
  cases call with
  | mapSize id =>
    have hrun : (mapSize id).run.run c = (.ok (some (es.ofObject id).size.toUInt64.toNat), c) := by
      rw [run, Store.run_bind, Store.run_mapSize htables]
      rfl
    rw [hrun]
    exact acts_of_same hc (fun _ h => by cases h) fun _ h => by cases h
  | change ch =>
    rw [run_change]
    cases htarget : ch.target? with
    | none =>
      cases ch with
      | createPool pool =>
        rw [StoreChange.run, Store.createPool, Store.run_insertPool, htables]
        exact acts_createPool pool ps os es
      | _ => cases htarget
    | some id =>
      -- With its pool the call changes one object, and without it nothing.
      by_cases hpool : id.pool ∈ ps
      · obtain ⟨hcomplete, hother⟩ := StoreChange.run_of_mem htarget htables hpool
        refine acts_of_spares ((hhas id.pool).mpr hpool) (congrArg (Option.map ObjectId.pool) htarget)
          hcomplete (StoreChange.spares_run htarget c) fun pool h => hother pool ?_
        cases hres : (ch.run.run c).1 <;> rw [hres] at h <;> cases h
        rfl
      · rw [StoreChange.run_of_not_mem htarget htables hpool]
        refine acts_of_same hc (fun pool h => ?_) fun pool h => ?_
        · cases h
          cases htarget
        · cases h
          rwa [hhas]

end StoreCall

/-! ### Connections on their way -/

/-- A connection, with the calls that it still has to make, and those that
are done with their results. -/
structure Caller where
  todo : List StoreCall
  /-- Whether the pool of the next call has been found. -/
  found : Bool
  done : List (StoreCall × CallResult)

/-- Connections that share a disk, each under the number of its handle. -/
structure Sharing where
  disk : Disk
  caller : Nat → Caller

namespace Sharing

/-- Nobody has begun yet. -/
def start (d : Disk) (program : Nat → List StoreCall) : Sharing :=
  ⟨d, fun i => ⟨program i, false, []⟩⟩

/-- A connection has found the pool of its next call. The disk doesn't
change. -/
def find (s : Sharing) (i : Nat) : Sharing :=
  { s with caller := Function.update s.caller i { s.caller i with found := true } }

/-- The next call of a connection ends. -/
def finish (s : Sharing) (i : Nat) (call : StoreCall) (todo : List StoreCall)
    (r : CallResult × Disk) : Sharing :=
  ⟨r.2, Function.update s.caller i ⟨todo, false, (s.caller i).done ++ [(call, r.1)]⟩⟩

/-- Only the one that found its pool has got any further. -/
theorem caller_find (s : Sharing) (i j : Nat) :
    (s.find i).caller j = if j = i then { s.caller i with found := true } else s.caller j :=
  Function.update_apply ..

/-- Only the one whose call ends has got any further. -/
theorem caller_finish (s : Sharing) (i : Nat) (call : StoreCall) (todo : List StoreCall)
    (r : CallResult × Disk) (j : Nat) :
    (s.finish i call todo r).caller j =
      if j = i then ⟨todo, false, (s.caller i).done ++ [(call, r.1)]⟩ else s.caller j :=
  Function.update_apply ..

/-- A connection has looked for the pool of its next call. If that isn't
there the call ends. -/
def look (s : Sharing) (i : Nat) (call : StoreCall) (todo : List StoreCall) :
    Except StoreError Unit × Disk → Sharing
  | (.ok _, disk) => { s.find i with disk }
  | (.error e, disk) => s.finish i call todo (.error e, disk)

/-- The next step of a connection: it looks for the pool that its call
needs or, once that is found or if it needs none, does the work. -/
def step (s : Sharing) (i : Nat) : Sharing :=
  match (s.caller i).todo with
  | [] => s
  | call :: todo =>
    match if (s.caller i).found then none else call.pool? with
    | some pool => s.look i call todo ((Disk.onStore i (Store.needPool pool)).run s.disk)
    | none => s.finish i call todo ((Disk.onStore i call.body).run s.disk)

/-- Steps of the connections in the order of a schedule. A schedule may call
on the same one again and again. -/
def run (s : Sharing) (schedule : List Nat) : Sharing :=
  schedule.foldl step s

end Sharing

/-! ### One call at a time -/

/-- A connection makes a call as a whole. What comes of it is kept with the
call. -/
def Disk.perform (asked : Nat × StoreCall) : StateM Disk (Nat × StoreCall × CallResult) := do
  return (asked.1, asked.2, ← onStore asked.1 asked.2.run)

/-- The calls of one connection among those of all. -/
def callsOf (i : Nat) (history : List (Nat × StoreCall × CallResult)) :
    List (StoreCall × CallResult) :=
  (history.filter fun h => h.1 == i).map Prod.snd

/-- One more call is one more of the connection that made it. -/
theorem callsOf_concat (i : Nat) (history : List (Nat × StoreCall × CallResult)) (j : Nat)
    (call : StoreCall) (r : CallResult) :
    callsOf i (history ++ [(j, call, r)]) =
      if i = j then callsOf i history ++ [(call, r)] else callsOf i history := by
  rw [callsOf, callsOf, List.filter_append, List.map_append]
  by_cases hij : i = j
  · subst hij
    simp
  · simp [hij, Ne.symm hij]

namespace Disk

variable {d : Disk} {n i : Nat} {t : Tables}

/-- One more call goes on where those before it ended. -/
theorem run_mapM_perform_concat {order : List (Nat × StoreCall)} {d₁ : Disk}
    {history : List (Nat × StoreCall × CallResult)}
    (h : (order.mapM perform).run d = (history, d₁)) (asked : Nat × StoreCall) :
    ((order ++ [asked]).mapM perform).run d =
      (history ++ [((perform asked).run d₁).1], ((perform asked).run d₁).2) := by
  rw [List.mapM_append, StateT.run_bind, h]
  rfl

/-- A call on an open store with all its tables leaves such a store, and
acts as it may. -/
theorem run_perform (hi : d.storeOf? i = some n) (ht : d.stores[n]? = some t)
    (hcomplete : t.complete = t) (call : StoreCall) :
    ∃ r d' t', (perform (i, call)).run d = ((i, call, r), d') ∧ (onStore i call.run).run d = (r, d') ∧
      d'.stores[n]? = some t' ∧ (∀ j, d'.storeOf? j = d.storeOf? j) ∧ call.Acts r t t' := by
  obtain ⟨ready, hconn⟩ := exists_connection? hi ht
  have hrun := run_onStore hconn call.run
  refine ⟨_, _, _, by rw [perform, StateT.run_bind, hrun]; rfl, hrun, ?_, ?_, call.acts_run hcomplete⟩
  · rw [getElem?_stores_putBack hi, if_pos rfl, ht, Option.map_some]
  · exact fun j => storeOf?_putBack d i _ j

end Disk

namespace Sharing

/-- What is so at any time, with `t` for the tables at that time: the calls
that are done could have been made one at a time, and whoever has found a
pool still has it. -/
structure IsSound (n : Nat) (d : Disk) (t₀ : Tables) (program : Nat → List StoreCall) (s : Sharing)
    (t : Tables) : Prop where
  tables : s.disk.stores[n]? = some t
  complete : t.complete = t
  opened : ∀ i, (s.caller i).todo ≠ [] → s.disk.storeOf? i = some n
  inOrder : ∀ i, (s.caller i).done.map Prod.fst ++ (s.caller i).todo = program i
  serial : ∃ (order : List (Nat × StoreCall)) (history : List (Nat × StoreCall × CallResult)),
    (order.mapM Disk.perform).run d = (history, s.disk) ∧
    ∀ i, callsOf i history = (s.caller i).done
  found : ∀ i call todo pool, (s.caller i).found = true → (s.caller i).todo = call :: todo →
    call.pool? = some pool → t.HasPool pool
  created : ∀ i pool, StoreCall.change (.createPool pool) ∈ (s.caller i).done.map Prod.fst →
    t.HasPool pool
  rows : ∀ id, ¬ t.HasPool id.pool → t.dataOf id = t₀.dataOf id ∧ t.mapOf id = t₀.mapOf id

variable {n : Nat} {d : Disk} {t₀ t : Tables} {program : Nat → List StoreCall} {s : Sharing}

/-- Before anything is done, everything is sound. -/
theorem isSound_start (ht : d.stores[n]? = some t₀) (hcomplete : t₀.complete = t₀)
    (hopen : ∀ i, program i ≠ [] → d.storeOf? i = some n) :
    IsSound n d t₀ program (start d program) t₀ where
  tables := ht
  complete := hcomplete
  opened := hopen
  inOrder _ := rfl
  serial := ⟨[], [], rfl, fun _ => rfl⟩
  found _ _ _ _ h := by cases h
  created _ _ h := by cases h
  rows _ _ := ⟨rfl, rfl⟩

namespace IsSound

/-- A step finds a pool or ends a whole call. Between the two steps of a
call its pool may not go away, so the second step does what the whole call
does. -/
theorem step_cases (h : IsSound n d t₀ program s t) (i : Nat) :
    s.step i = s ∨
      (∃ call todo pool, (s.caller i).todo = call :: todo ∧ call.pool? = some pool ∧ t.HasPool pool ∧
        s.step i = s.find i) ∨
      ∃ call todo, (s.caller i).todo = call :: todo ∧
        s.step i = s.finish i call todo ((Disk.onStore i call.run).run s.disk) := by
  rw [step]
  cases htodo : (s.caller i).todo with
  | nil => exact .inl rfl
  | cons call todo =>
    have hi : s.disk.storeOf? i = some n := h.opened i (by rw [htodo]; exact List.cons_ne_nil _ _)
    obtain ⟨ready, hconn⟩ := Disk.exists_connection? hi h.tables
    -- A call without a pool to look for is done in one step.
    cases hpool : call.pool? with
    | none =>
      refine .inr (.inr ⟨call, todo, rfl, ?_⟩)
      rw [StoreCall.run_of_pool?_none hpool]
      simp only [hpool, ite_self]
    | some pool =>
      have hwhole := Store.run_bind (Store.needPool pool) (fun _ => call.body) ⟨t, ready⟩
      rw [← StoreCall.run_of_pool?_some hpool] at hwhole
      -- Whether the pool is there now decides what this step does, and it can't be gone if
      -- it was found before.
      by_cases hhas : t.HasPool pool
      · rw [Store.run_needPool_of_hasPool hhas] at hwhole
        cases hfound : (s.caller i).found with
        | false =>
          refine .inr (.inl ⟨call, todo, pool, rfl, hpool, hhas, ?_⟩)
          simp only [hpool, Bool.false_eq_true, if_false]
          rw [Disk.run_onStore hconn, Store.run_needPool_of_hasPool hhas, Disk.putBack_self hconn]
          rfl
        | true =>
          refine .inr (.inr ⟨call, todo, rfl, ?_⟩)
          simp only [if_true]
          rw [Disk.run_onStore hconn, Disk.run_onStore hconn, hwhole]
      · obtain ⟨e, hneed⟩ := Store.run_needPool_of_not_hasPool (c := ⟨t, ready⟩) hhas
        rw [hneed] at hwhole
        cases hfound : (s.caller i).found with
        | false =>
          refine .inr (.inr ⟨call, todo, rfl, ?_⟩)
          simp only [hpool, Bool.false_eq_true, if_false]
          rw [Disk.run_onStore hconn, Disk.run_onStore hconn, hwhole, hneed]
          rfl
        | true => exact absurd (h.found i call todo pool hfound htodo hpool) hhas

/-- A pool that is there has been found. Nothing else has to be shown, since
the disk is the same. -/
theorem find (h : IsSound n d t₀ program s t) {i : Nat} {call : StoreCall} {todo : List StoreCall}
    {pool : String} (htodo : (s.caller i).todo = call :: todo) (hpool : call.pool? = some pool)
    (hhas : t.HasPool pool) : IsSound n d t₀ program (s.find i) t := by
  have hsame (j : Nat) : ((s.find i).caller j).todo = (s.caller j).todo ∧
      ((s.find i).caller j).done = (s.caller j).done := by
    rw [caller_find]
    split
    next hji => exact hji ▸ ⟨rfl, rfl⟩
    next => exact ⟨rfl, rfl⟩
  exact {
    tables := h.tables
    complete := h.complete
    opened := fun j hj => h.opened j ((hsame j).1 ▸ hj)
    inOrder := fun j => by rw [(hsame j).1, (hsame j).2, h.inOrder j]
    serial := by
      obtain ⟨order, history, hrun, hdone⟩ := h.serial
      exact ⟨order, history, hrun, fun j => by rw [(hsame j).2, hdone j]⟩
    found := fun j call' todo' pool' hfound htodo' hpool' => by
      rw [(hsame j).1] at htodo'
      by_cases hji : j = i
      · rw [hji, htodo] at htodo'
        cases htodo'
        rw [hpool] at hpool'
        cases hpool'
        exact hhas
      · rw [caller_find, if_neg hji] at hfound
        exact h.found j call' todo' pool' hfound htodo' hpool'
    created := fun j pool' hcreate => h.created j pool' ((hsame j).2 ▸ hcreate)
    rows := h.rows }

/-- Pools that were found or made are still there after a call that takes
none away, and a pool that the call has made is there, too. -/
theorem pools_finish (h : IsSound n d t₀ program s t) {i : Nat} {call : StoreCall}
    (todo : List StoreCall) {r : CallResult} (disk : Disk) {t' : Tables} (hacts : call.Acts r t t') :
    (∀ j call' todo' pool, ((s.finish i call todo (r, disk)).caller j).found = true →
      ((s.finish i call todo (r, disk)).caller j).todo = call' :: todo' → call'.pool? = some pool →
        t'.HasPool pool) ∧
      ∀ j pool, StoreCall.change (.createPool pool) ∈
        ((s.finish i call todo (r, disk)).caller j).done.map Prod.fst → t'.HasPool pool := by
  have hgrow {pool : String} (hhas : t.HasPool pool) : t'.HasPool pool :=
    (hacts.pools pool).mpr (.inl hhas)
  constructor
  · intro j call' todo' pool hfound htodo' hpool
    rw [caller_finish] at hfound htodo'
    split at hfound
    next => cases hfound
    next hji =>
      rw [if_neg hji] at htodo'
      exact hgrow (h.found j call' todo' pool hfound htodo' hpool)
  · intro j pool hcreate
    rw [caller_finish] at hcreate
    split at hcreate
    next =>
      rw [List.map_append, List.mem_append] at hcreate
      rcases hcreate with hcreate | hcreate
      · exact hgrow (h.created i pool hcreate)
      · exact (hacts.pools pool).mpr (.inr (List.mem_singleton.mp hcreate).symm)
    next => exact hgrow (h.created j pool hcreate)

/-- A call that ends comes next in the order. So the order is that in which
calls end. -/
theorem finish (h : IsSound n d t₀ program s t) {i : Nat} {call : StoreCall} {todo : List StoreCall}
    (htodo : (s.caller i).todo = call :: todo) :
    ∃ r disk t', (Disk.onStore i call.run).run s.disk = (r, disk) ∧ call.Acts r t t' ∧
      IsSound n d t₀ program (s.finish i call todo (r, disk)) t' := by
  have hi : s.disk.storeOf? i = some n := h.opened i (by rw [htodo]; exact List.cons_ne_nil _ _)
  obtain ⟨r, disk, t', hperform, hrun, ht', hstores, hacts⟩ :=
    Disk.run_perform hi h.tables h.complete call
  obtain ⟨hfound, hcreated⟩ := h.pools_finish todo disk hacts
  refine ⟨r, disk, t', hrun, hacts, ?_⟩
  exact {
    tables := ht'
    complete := hacts.complete
    opened := fun j hj => by
      refine (hstores j).trans ?_
      by_cases hji : j = i
      · rw [hji, hi]
      · rw [caller_finish, if_neg hji] at hj
        exact h.opened j hj
    inOrder := fun j => by
      rw [caller_finish]
      split
      next hji =>
        rw [hji, ← h.inOrder i, htodo, List.map_append, List.append_assoc]
        rfl
      next => exact h.inOrder j
    serial := by
      obtain ⟨order, history, hbefore, hdone⟩ := h.serial
      have hafter := Disk.run_mapM_perform_concat hbefore (i, call)
      rw [hperform] at hafter
      refine ⟨_, _, hafter, fun j => ?_⟩
      rw [callsOf_concat, caller_finish, hdone]
      split
      next hji => rw [hji]
      next => rfl
    found := hfound
    created := hcreated
    rows := fun id hnot => by
      have hbefore : ¬ t.HasPool id.pool := fun hhas => hnot ((hacts.pools id.pool).mpr (.inl hhas))
      obtain ⟨hdata, hmap⟩ := hacts.rows id hbefore
      obtain ⟨hdata₀, hmap₀⟩ := h.rows id hbefore
      exact ⟨hdata.trans hdata₀, hmap.trans hmap₀⟩ }

/-- What a step adds to the calls that are done was told the truth about
pools: none of them was refused for a pool that had been there. -/
theorem step (h : IsSound n d t₀ program s t) (i : Nat) :
    ∃ t', IsSound n d t₀ program (s.step i) t' ∧ (∀ pool, t.HasPool pool → t'.HasPool pool) ∧
      ∀ j, ∃ new, ((s.step i).caller j).done = (s.caller j).done ++ new ∧
        ∀ a ∈ new, ∀ pool, t.HasPool pool → a.2 ≠ .error (.noSuchPool pool) := by
  rcases h.step_cases i with hstep | ⟨call, todo, pool, htodo, hpool, hhas, hstep⟩ |
    ⟨call, todo, htodo, hstep⟩ <;> rw [hstep]
  · exact ⟨t, h, fun _ hp => hp, fun j => ⟨[], (List.append_nil _).symm, fun a ha => by cases ha⟩⟩
  · refine ⟨t, h.find htodo hpool hhas, fun _ hp => hp, fun j => ⟨[], ?_, fun a ha => by cases ha⟩⟩
    rw [caller_find, List.append_nil]
    split
    next hji => rw [hji]
    next => rfl
  · obtain ⟨r, disk, t', hrun, hacts, hnext⟩ := h.finish htodo
    rw [hrun]
    refine ⟨t', hnext, fun pool hp => (hacts.pools pool).mpr (.inl hp), fun j => ?_⟩
    rw [caller_finish]
    split
    next hji =>
      refine ⟨[(call, r)], by rw [hji], fun a ha pool hhas hrefused => ?_⟩
      rw [List.mem_singleton.mp ha] at hrefused
      exact hacts.refused pool hrefused hhas
    next => exact ⟨[], (List.append_nil _).symm, fun a ha => by cases ha⟩

/-- The same of a whole schedule: it is sound at its end, and no call after
it is refused for want of a pool that was there before. -/
theorem run (h : IsSound n d t₀ program s t) (schedule : List Nat) :
    ∃ t', IsSound n d t₀ program (s.run schedule) t' ∧
      ∀ j, ∃ new, ((s.run schedule).caller j).done = (s.caller j).done ++ new ∧
        ∀ a ∈ new, ∀ pool, t.HasPool pool → a.2 ≠ .error (.noSuchPool pool) := by
  induction schedule generalizing s t with
  | nil => exact ⟨t, h, fun j => ⟨[], (List.append_nil _).symm, fun a ha => by cases ha⟩⟩
  | cons i schedule ih =>
    obtain ⟨t₁, h₁, hgrow, hnew₁⟩ := h.step i
    obtain ⟨t', h', hnew'⟩ := ih h₁
    refine ⟨t', h', fun j => ?_⟩
    obtain ⟨new₁, hdone₁, htold₁⟩ := hnew₁ j
    obtain ⟨new', hdone', htold'⟩ := hnew' j
    refine ⟨new₁ ++ new', ?_, fun a ha pool hhas => ?_⟩
    · rw [← List.append_assoc, ← hdone₁]
      exact hdone'
    · rcases List.mem_append.mp ha with ha | ha
      · exact htold₁ a ha pool hhas
      · exact htold' a ha pool (hgrow pool hhas)

end IsSound

/-- What connections come to on a store, whatever the schedule was. -/
structure Serializes (n : Nat) (d : Disk) (program : Nat → List StoreCall) (s : Sharing) : Prop where
  /-- Each connection makes its calls in their order, -/
  inOrder : ∀ i, (s.caller i).done.map Prod.fst ++ (s.caller i).todo = program i
  /-- and what they come to is what they come to in some order if each is
  made as a whole: the results are those, and so is the disk. -/
  serial : ∃ (order : List (Nat × StoreCall)) (history : List (Nat × StoreCall × CallResult)),
    (order.mapM Disk.perform).run d = (history, s.disk) ∧
      ∀ i, callsOf i history = (s.caller i).done
  /-- Whoever goes on to write does so in a pool that is there. -/
  found : ∀ i call todo pool, (s.caller i).found = true → (s.caller i).todo = call :: todo →
    call.pool? = some pool → ∃ t, s.disk.stores[n]? = some t ∧ t.HasPool pool
  /-- Nothing is written in a pool that isn't there. -/
  lands : ∃ before after, d.stores[n]? = some before ∧ s.disk.stores[n]? = some after ∧
    ∀ id, ¬ after.HasPool id.pool → after.dataOf id = before.dataOf id ∧ after.mapOf id = before.mapOf id
  /-- Once a pool has been created, no call is refused for want of it. -/
  created : ∀ i pool, StoreCall.change (.createPool pool) ∈ (s.caller i).done.map Prod.fst →
    ∀ later j, ∃ new, ((s.run later).caller j).done = (s.caller j).done ++ new ∧
      ∀ a ∈ new, a.2 ≠ .error (.noSuchPool pool)

/-- Connections to one store with all its tables may get in between the
steps of each other's calls as they like. -/
theorem serializes_run (ht : d.stores[n]? = some t) (hcomplete : t.complete = t)
    (hopen : ∀ i, program i ≠ [] → d.storeOf? i = some n) (schedule : List Nat) :
    Serializes n d program ((start d program).run schedule) := by
  obtain ⟨t', h, -⟩ := (isSound_start ht hcomplete hopen).run schedule
  exact {
    inOrder := h.inOrder
    serial := h.serial
    found := fun i call todo pool hfound htodo hpool =>
      ⟨t', h.tables, h.found i call todo pool hfound htodo hpool⟩
    lands := ⟨t, t', ht, h.tables, h.rows⟩
    created := fun i pool hcreate later j => by
      obtain ⟨-, -, hnew⟩ := h.run later
      obtain ⟨new, hdone, htold⟩ := hnew j
      exact ⟨new, hdone, fun a ha => htold a ha pool (h.created i pool hcreate)⟩ }

/-- Two connections to a new store. The second one looks for a pool before
and after the first one has made it, and the first one gets in between
its two steps. -/
theorem serializes_twoConnections :
    let d : Disk := ⟨⟨∅, []⟩, #[.empty], #[⟨0, false⟩, ⟨0, false⟩]⟩
    let program : Nat → List StoreCall := fun
      | 0 => [.change (.createPool "rbd"), .change (.removeObject ⟨"rbd", "hw"⟩)]
      | 1 => [.change (.replaceData ⟨"rbd", "hw"⟩ []), .change (.replaceData ⟨"rbd", "hw"⟩ [])]
      | _ => []
    Serializes 0 d program ((start d program).run [1, 0, 1, 0, 1, 0]) := by
  intro d program
  refine serializes_run (t := .empty) rfl rfl (fun i hi => ?_) _
  match i with
  | 0 => rfl
  | 1 => rfl
  | _ + 2 => exact absurd rfl hi

end Sharing

end MapBench
