import MapBench.Proofs.Run.Counters
import MapBench.Proofs.Store.Atomic
import MapBench.Proofs.Store.Disk

/-!
# `MapBench.Proofs.Run.LocalStore`: what a run leaves in a store file

A run with a store file fails at the first index that is too wide for a
key, or at once if its rows are too long. Up to that point its map grows by
one stretch of pairs per batch, so what a run leaves can be told from its
settings alone.

* `keepsMap_localSession`: a session with a store file keeps a map there,
  whatever tables the file lacks.
* `HoldsRun`: what a store holds after a run that wrote so many pairs.
* `pairRow`, `writablePairs`, `stopAt`: how far a run gets, and what ends
  it there.
* `setup_perform_localStore`: the result and the effect of a whole run.
* `setup_perform_fails`: runs that their settings allow, and that still
  fail.
-/

set_option autoImplicit false

namespace MapBench.Run

open Std

/-- What a store holds after a run that wrote so many pairs: the
object has the data of the setup, its map has exactly the pairs of the
first indexes, and everything else is as it was. -/
structure HoldsRun (settings : Settings) (id : ObjectId) (written : Nat) (before after : Tables) :
    Prop where
  payload : ∃ os, after.objects = some os ∧ os[id]? = some setupPayload
  entries : ∃ es, after.entries = some es ∧ ∀ key value, es[EntryId.mk id key]? = some value ↔
    ∃ i < written, Key.IsOf i key ∧ Pair.IsValueOf settings.valueSize i value
  others : after.without id = before.without id

/-! ### The rows of a run -/

/-- The row of a pair of a run. All of them are equally long, since their
keys and their values are. -/
def pairRow (settings : Settings) (id : ObjectId) : Row :=
  [.text id.pool.utf8ByteSize, .text id.object.utf8ByteSize, .text Key.width,
    .bytes settings.valueSize]

/-- How many pairs of a run a store takes: as many as there are keys, unless
the rows are too long. -/
def writablePairs (settings : Settings) (id : ObjectId) : Nat :=
  if (pairRow settings id).Fits then Key.limit else 0

/-- How many batches that are. A batch is written as a whole, so one that is
in reach only in part doesn't count. -/
def writableBatches (settings : Settings) (id : ObjectId) : Nat :=
  writablePairs settings id / settings.batchSize

/-- What ends a run at an offset where no batch can be written: there are no
keys for it, or the store refuses its rows. -/
def stopAt (settings : Settings) (object : String) (offset : Nat) : RunError :=
  if offset + settings.batchSize ≤ Key.limit then
    .writeFailure offset object (.store (.statement .tooBig))
  else .generate offset (.tooWide (offset + settings.batchSize - 1))

/-- The row of a generated pair has the same size at every index. Keys all
have the same width, and so do the values of one run. -/
theorem ofEntry_generated (settings : Settings) (id : ObjectId) {i : Nat} (h : i < Key.limit) :
    Row.ofEntry id (Pair.generated settings.valueSize i) = pairRow settings id := by
  simp only [Row.ofEntry, pairRow, Pair.generated, Pair.size, Key.utf8ByteSize_text h,
    length_rotatingDigits]

/-- A batch of the settings is refused only for its long rows. Its keys
aren't empty, and its rows all have the same size. -/
theorem refusal?_stretch (settings : Settings) (id : ObjectId) {start : Nat}
    (h : start + settings.batchSize ≤ Key.limit) :
    (Batch.mk (Pair.stretch settings.valueSize start settings.batchSize)).refusal? id =
      if (pairRow settings id).Fits then none else some .tooBig := by
  split
  next hfits =>
    have hpos := settings.batchSize_pos
    have hfirst := ofEntry_generated settings id (show start < Key.limit by omega)
    refine Batch.refusal?_eq_none_iff.mpr
      ⟨⟨Row.ofObject_fits_of_ofEntry _ (hfirst ▸ hfits), fun p hp => ?_⟩, ?_⟩
    · obtain ⟨i, -, hi, rfl⟩ := Pair.mem_stretch.mp hp
      rw [ofEntry_generated settings id (by omega)]
      exact hfits
    · rw [Batch.keys, List.mem_map]
      rintro ⟨p, hp, hempty⟩
      obtain ⟨i, -, hi, rfl⟩ := Pair.mem_stretch.mp hp
      exact Key.text_ne_empty (by omega) hempty
  next hlong =>
    -- The first pair is refused already, if the row of the object isn't.
    obtain ⟨count, hcount⟩ := Nat.exists_eq_succ_of_ne_zero (Nat.ne_of_gt settings.batchSize_pos)
    have hfirst : (Pair.generated settings.valueSize start).refusal? id = some .tooBig := by
      rw [Pair.refusal?, ofEntry_generated settings id (by omega), if_neg hlong]
    rw [Batch.refusal?, hcount, Pair.stretch, List.range'_succ, List.map_cons, List.findSome?_cons,
      hfirst]
    exact ite_self _

section

variable {id : ObjectId} {ps : ExtTreeSet String} {os : Objects} {es : Entries}

/-- The tables after a run that wrote so many pairs. What the object had
before is gone, and all else is as it was. -/
def tablesAfter (settings : Settings) (id : ObjectId) (ps : ExtTreeSet String) (os : Objects)
    (es : Entries) (written : Nat) : Tables :=
  ⟨some ps, some ((os.erase id).insert id setupPayload),
    some ((es.notOf id).write id (Pair.stretch settings.valueSize 0 written))⟩

/-- What these tables hold is what a run should leave. That takes distinct
keys, so the pairs mustn't go beyond the last index that has one. -/
theorem holdsRun_tablesAfter (settings : Settings) {written : Nat} (hfits : written ≤ Key.limit) :
    HoldsRun settings id written ⟨some ps, some os, some es⟩ (tablesAfter settings id ps os es written) where
  payload := ⟨_, rfl, by simp⟩
  entries := by
    refine ⟨_, rfl, fun key value => ?_⟩
    have hnone : (es.notOf id)[EntryId.mk id key]? = none := by
      rw [Entries.getElem?_notOf, if_pos rfl]
    rw [Entries.getElem?_write, if_pos rfl, hnone, Option.or_none]
    exact Pair.lastValue_stretch_eq_some_iff hfits
  others := by
    simp only [tablesAfter, Tables.without, Option.map_some, Objects.erase_insert,
      Objects.erase_erase, Entries.notOf_write, Entries.notOf_notOf]

/-- The size of the map after a run is the number of pairs. No two indexes
have the same key. -/
theorem size_tablesAfter (settings : Settings) (written : Nat) :
    (Entries.ofObject id ((es.notOf id).write id (Pair.stretch settings.valueSize 0 written))).size =
      written := by
  have hempty : (Entries.ofObject id (es.notOf id)).size = 0 := by
    rw [Entries.ofObject_notOf]
    rfl
  rw [Entries.ofObject_write, Entries.size_write (Pair.nodup_stretch _ _ _), hempty,
    Pair.length_stretch, Nat.zero_add]
  intro p _
  rw [Entries.ofObject_notOf]
  exact ExtTreeMap.not_mem_empty

end

section

variable {ρ : Type} {u : Surroundings ρ} {settings : Settings} {pool object : String} {d : Disk}
  {handle : Nat} {c : Connection} {ps : ExtTreeSet String} {os : Objects} {es : Entries}

/-- A run that has written so many pairs to an open store. Which statements
the connection has prepared by then isn't told, as nothing depends on it. -/
def Reached (settings : Settings) (id : ObjectId) (d : Disk) (handle : Nat) (ps : ExtTreeSet String)
    (os : Objects) (es : Entries) (written : Nat) (disk : Disk) : Prop :=
  ∃ ready, disk = d.putBack handle ⟨tablesAfter settings id ps os es written, ready⟩

/-- An operation of the session in the surroundings of a run. It is the
operation on the connection, and the surroundings don't notice. -/
theorem run_session {α : Type} (hopen : d.connection? handle = some c) (pool : String)
    (op : StoreM α) (s : ρ) :
    (onFirst ((LocalSession.mk (some handle) pool).run op)).run (d, s) =
      ((op.run c).1.mapError .store, (d.putBack handle (op.run c).2, s)) := by
  change ((((LocalSession.mk (some handle) pool).run op).run d).1,
    (((LocalSession.mk (some handle) pool).run op).run d).2, s) = _
  rw [LocalSession.run_of_connection? hopen]

/-- The map of an object in an open store. A handle without a store shows
nothing. -/
def mapBehind (handle : Nat) (id : ObjectId) (disk : Disk) : String → Option (List UInt8) :=
  fun key => (disk.connection? handle).bind (·.tables.valueOf id key)

/-- Behind an open connection that is the map in its tables. -/
theorem mapBehind_of_connection? (hopen : d.connection? handle = some c) (id : ObjectId) :
    mapBehind handle id d = c.tables.valueOf id := by
  funext key
  rw [mapBehind, hopen]
  rfl

/-- An operation of the session runs on the store behind the handle. If
there is none, it fails and changes nothing. -/
theorem mapBehind_session {α : Type} (pool : String) (op : StoreM α) {s s' : Disk × ρ}
    {r : Except SessionError α}
    (hrun : (onFirst ((LocalSession.mk (some handle) pool).run op)).run s = (r, s')) (id : ObjectId) :
    (∃ e, r = .error e) ∧ mapBehind handle id s'.1 = mapBehind handle id s.1 ∨
      ∃ c, r = (op.run c).1.mapError .store ∧ mapBehind handle id s.1 = c.tables.valueOf id ∧
        mapBehind handle id s'.1 = (op.run c).2.tables.valueOf id := by
  cases hopen : s.1.connection? handle with
  | some c =>
    obtain ⟨rfl, rfl⟩ := Prod.mk.inj ((run_session hopen pool op s.2).symm.trans hrun)
    exact .inr ⟨c, rfl, mapBehind_of_connection? hopen id,
      mapBehind_of_connection? (Disk.connection?_putBack hopen _) id⟩
  | none =>
    have hfails : ((LocalSession.mk (some handle) pool).run op).run s.1 =
        (.error (.store (.statement .notAStore)), s.1) := by
      rw [LocalSession.run, StateT.run_bind, Disk.run_onStore_of_none hopen]
      rfl
    change ((((LocalSession.mk (some handle) pool).run op).run s.1).1,
      (((LocalSession.mk (some handle) pool).run op).run s.1).2, s.2) = _ at hrun
    rw [hfails] at hrun
    cases hrun
    exact .inl ⟨⟨_, rfl⟩, rfl⟩

/-- An operation that takes place as a whole or not at all does so in a
session, too. After a failure the map is as it was, and after a success it
is that of tables with the effect. -/
theorem mapBehind_of_allOrNothing {α : Type} {op : StoreM α} {needed : String}
    {obstacle : Connection → Prop} {effect : Connection → Tables → Prop}
    (hop : ∀ c, Store.AllOrNothing op needed (obstacle c) (effect c) c) (pool : String)
    {s s' : Disk × ρ} {r : Except SessionError α}
    (hrun : (onFirst ((LocalSession.mk (some handle) pool).run op)).run s = (r, s')) (id : ObjectId) :
    (∃ e, r = .error e) ∧ mapBehind handle id s'.1 = mapBehind handle id s.1 ∨
      (∃ a, r = .ok a) ∧ ∃ (c : Connection) (t : Tables), effect c t ∧
        mapBehind handle id s.1 = c.tables.valueOf id ∧ mapBehind handle id s'.1 = t.valueOf id := by
  rcases mapBehind_session pool op hrun id with hfailed | ⟨c, rfl, hbefore, hafter⟩
  · exact .inl hfailed
  · cases hresult : (op.run c).1 with
    | error e =>
      refine .inl ⟨⟨_, rfl⟩, ?_⟩
      rw [hafter, hbefore, (hop c).tables_of_error e hresult]
    | ok a => exact .inr ⟨⟨a, rfl⟩, c, _, (hop c).effect_of_ok a hresult, hbefore, hafter⟩

/-- A session with a store file does what sessions are for, whatever tables
the file lacks. All three operations take place as a whole or not at all, so
only their effects on the map differ. -/
theorem keepsMap_localSession (u : Surroundings ρ) (handle : Nat) (pool object : String) :
    KeepsMap (u.testbed (LocalSession.mk (some handle) pool).storage) object
      fun s => mapBehind handle ⟨pool, object⟩ s.1 where
  removed s s' hremove := by
    rcases mapBehind_of_allOrNothing (Store.allOrNothing_removeObject ⟨pool, object⟩) pool hremove
      ⟨pool, object⟩ with ⟨⟨e, he⟩, -⟩ | ⟨-, c, t, ht, -, hafter⟩
    · cases he
    · rw [hafter, ht]
      exact funext fun key => Tables.valueOf_without c.tables ⟨pool, object⟩ key
  wrote data s := by
    rcases mapBehind_of_allOrNothing (Store.allOrNothing_replaceData data ⟨pool, object⟩) pool (s := s) rfl
      ⟨pool, object⟩ with ⟨-, hsame⟩ | ⟨-, c, t, ht, hbefore, hafter⟩
    · exact hsame
    · -- The data of an object is in another table than its map.
      refine hafter.trans (Eq.trans ?_ hbefore.symm)
      rw [ht]
      rfl
  prepared _ _ := rfl
  applied batch op s s₁ s₂ hprepare hoperate := by
    cases hprepare
    rcases mapBehind_of_allOrNothing (Store.allOrNothing_writeEntries batch ⟨pool, object⟩) pool hoperate
      ⟨pool, object⟩ with ⟨⟨e, he⟩, -⟩ | ⟨-, c, t, hwrote, hbefore, hafter⟩
    · cases he
    · rw [hafter, hbefore]
      exact funext fun key => (hwrote.valueOf ⟨pool, object⟩ key).trans (if_pos rfl)
  refused batch op e s s₁ s₂ hprepare hoperate := by
    cases hprepare
    rcases mapBehind_of_allOrNothing (Store.allOrNothing_writeEntries batch ⟨pool, object⟩) pool hoperate
      ⟨pool, object⟩ with ⟨-, hsame⟩ | ⟨⟨a, ha⟩, -⟩
    · exact hsame
    · cases ha
  printed _ _ := rfl
  quiet := (quiet_testbed u _).comp (mapBehind handle ⟨pool, object⟩)

/-- The setup in a store that has all its tables and the pool. It only fails
if the object's names are too long for a row. -/
theorem reached_setup (u : Surroundings ρ) (settings : Settings) (object : String)
    (hopen : d.connection? handle = some c) (htables : c.tables = ⟨some ps, some os, some es⟩)
    (hpool : pool ∈ ps) (s : ρ) :
    ∃ r s', (setup (u.testbed (LocalSession.mk (some handle) pool).storage).session object).run (d, s) =
        (r, s')
      ∧ (r = .ok () ↔ (Row.ofObject ⟨pool, object⟩ setupPayload).Fits)
      ∧ (r = .ok () → Reached settings ⟨pool, object⟩ d handle ps os es 0 s'.1) := by
  let id : ObjectId := ⟨pool, object⟩
  let session := (u.testbed (LocalSession.mk (some handle) pool).storage).session
  let removed : Connection := c.withTables ⟨some ps, some (os.erase id), some (es.notOf id)⟩
  -- Removing can't fail here, and writing only for want of room in a row.
  have hremove : (session.removeObject object).run (d, s) = (.ok (), (d.putBack handle removed, s)) := by
    have hrun : (Store.removeObject id).run c = (.ok (), removed) := by
      rw [Store.run_removeObject htables, if_pos hpool]
    refine (run_session hopen pool _ s).trans ?_
    rw [hrun]
    rfl
  have hwrite : (session.writeObject object setupPayload).run (d.putBack handle removed, s) = _ :=
    run_session (Disk.connection?_putBack hopen removed) pool (Store.replaceData id setupPayload) s
  rw [Store.run_replaceData _ rfl, if_pos hpool, Disk.putBack_putBack] at hwrite
  rw [setup, StateT.run_bind, hremove]
  change ∃ r s', (session.writeObject object setupPayload >>= _).run _ = (r, s') ∧ _
  rw [StateT.run_bind, hwrite]
  by_cases hfits : (Row.ofObject id setupPayload).Fits
  · simp only [if_pos hfits]
    exact ⟨_, _, rfl, ⟨fun _ => hfits, fun _ => rfl⟩, fun _ => ⟨c.entryReady, rfl⟩⟩
  · simp only [if_neg hfits]
    exact ⟨_, _, rfl, ⟨(by cases ·), fun h => absurd h hfits⟩, (by cases ·)⟩

/-- Writing a batch of the right stretch goes on from what was written so
far, unless its rows are too long. -/
theorem run_operate (hopen : d.connection? handle = some c) (hpool : pool ∈ ps) {written : Nat}
    (hkeys : written + settings.batchSize ≤ Key.limit) (ready : Bool) (s : ρ) :
    ∃ ready', (onFirst ((LocalSession.mk (some handle) pool).run (Store.writeEntries ⟨pool, object⟩
        ⟨Pair.stretch settings.valueSize written settings.batchSize⟩))).run
        (d.putBack handle ⟨tablesAfter settings ⟨pool, object⟩ ps os es written, ready⟩, s) =
      if (pairRow settings ⟨pool, object⟩).Fits then
        (.ok (), (d.putBack handle ⟨tablesAfter settings ⟨pool, object⟩ ps os es
          (written + settings.batchSize), ready'⟩, s))
      else
        (.error (.store (.statement .tooBig)), (d.putBack handle
          ⟨tablesAfter settings ⟨pool, object⟩ ps os es written, ready'⟩, s)) := by
  rw [run_session (Disk.connection?_putBack hopen _), Store.run_writeEntries _ rfl, if_pos hpool,
    refusal?_stretch settings _ hkeys, Disk.putBack_putBack]
  by_cases hfits : (pairRow settings ⟨pool, object⟩).Fits
  · have hold : ((os.erase ⟨pool, object⟩).insert ⟨pool, object⟩ setupPayload).insertIfNew
        ⟨pool, object⟩ [] = (os.erase ⟨pool, object⟩).insert ⟨pool, object⟩ setupPayload :=
      Objects.insertIfNew_of_mem (by simp) []
    have hstretch := Pair.stretch_append settings.valueSize 0 written settings.batchSize
    rw [Nat.zero_add] at hstretch
    simp only [if_pos hfits, hold, ← Entries.write_append, hstretch]
    exact ⟨true, rfl⟩
  · simp only [if_neg hfits]
    exact ⟨_, rfl⟩

/-- Where every line can be printed, all are, and the store isn't touched. -/
theorem printLines_ok (hprint : ∀ line s, ((u.printLine line).run s).1 = .ok ())
    (session : StorageSession (StateM Disk) Batch) (lines : List String) (s : Disk × ρ) :
    ∃ s', printLines (u.testbed session) lines s = (.ok (), s') ∧ s'.1 = s.1 := by
  induction lines generalizing s with
  | nil => exact ⟨s, rfl, rfl⟩
  | cons line lines ih =>
    have hline : ((u.testbed session).printLine line).run s =
        (.ok (), (s.1, ((u.printLine line).run s.2).2)) := by
      rw [← hprint line s.2]
      rfl
    obtain ⟨s', hrest, hsame⟩ := ih (s.1, ((u.printLine line).run s.2).2)
    refine ⟨s', ?_, hsame⟩
    rw [printLines, hline]
    exact hrest

/-- The same of the lines of a batch. Only settings that ask for lines need
a place to print them. -/
theorem eq_of_printBatch (hprint : settings.debug = true → ∀ line s, ((u.printLine line).run s).1 = .ok ())
    {session : StorageSession (StateM Disk) Batch} {batch : Batch} {s s' : Disk × ρ}
    {r : Except OutputError Unit}
    (printed : printBatch (u.testbed session) settings batch s = (r, s')) : r = .ok () ∧ s'.1 = s.1 := by
  rw [printBatch] at printed
  split at printed
  next hdebug =>
    obtain ⟨t, hok, hsame⟩ := printLines_ok (hprint hdebug) session (batch.pairs.map pairLine) s
    obtain ⟨rfl, rfl⟩ := Prod.mk.inj (hok.symm.trans printed)
    exact ⟨rfl, hsame⟩
  next =>
    cases printed
    exact ⟨rfl, rfl⟩

/-- A batch that could be made up is written behind what was written
so far, unless its rows are too long. -/
theorem reached_operate (hopen : d.connection? handle = some c) (hpool : pool ∈ ps) {offset : Nat}
    {batch : Batch}
    (made : Batch.generate settings.batchSize offset settings.valueSize = .ok batch)
    {s s' : Disk × ρ} (h : Reached settings ⟨pool, object⟩ d handle ps os es offset s.1)
    {r : Except SessionError Unit}
    (operated : (onFirst ((LocalSession.mk (some handle) pool).run
      (Store.writeEntries ⟨pool, object⟩ batch))).run s = (r, s')) :
    if (pairRow settings ⟨pool, object⟩).Fits then
      r = .ok () ∧ Reached settings ⟨pool, object⟩ d handle ps os es (offset + settings.batchSize) s'.1
    else
      r = .error (.store (.statement .tooBig))
        ∧ Reached settings ⟨pool, object⟩ d handle ps os es offset s'.1 := by
  obtain ⟨ready, hs⟩ := h
  have hs : s = (d.putBack handle ⟨tablesAfter settings ⟨pool, object⟩ ps os es offset, ready⟩, s.2) :=
    Prod.ext hs rfl
  obtain ⟨ready', hrun⟩ := run_operate hopen hpool (fits_of_generate made) ready s.2
  rw [eq_of_generate made, hs, hrun] at operated
  split at operated <;> cases operated
  next hfits =>
    rw [if_pos hfits]
    exact ⟨rfl, ready', rfl⟩
  next hfits =>
    rw [if_neg hfits]
    exact ⟨rfl, ready', rfl⟩

/-- With a store file, the write of a batch succeeds, or the batch can't be
made up or be written, which changes nothing. -/
theorem reached_batchRun (hopen : d.connection? handle = some c) (hpool : pool ∈ ps)
    (hprint : settings.debug = true → ∀ line s, ((u.printLine line).run s).1 = .ok ())
    {offset : Nat} {s s' : Disk × ρ} {r : Except RunError Unit}
    (hrun : BatchRun (u.testbed (LocalSession.mk (some handle) pool).storage) Prod.fst settings object
      offset s r s')
    (h : Reached settings ⟨pool, object⟩ d handle ps os es offset s.1) :
    if offset + settings.batchSize ≤ Key.limit ∧ (pairRow settings ⟨pool, object⟩).Fits then
      r = .ok () ∧ Reached settings ⟨pool, object⟩ d handle ps os es (offset + settings.batchSize) s'.1
    else
      r = .error (stopAt settings object offset)
        ∧ Reached settings ⟨pool, object⟩ d handle ps os es offset s'.1 := by
  cases hrun with
  | @generateFailed e s' made same =>
    rw [generate_eq] at made
    split at made
    · cases made
    next hwide =>
      cases made
      rw [if_neg fun hboth => hwide hboth.1, stopAt, if_neg hwide, same]
      exact ⟨rfl, h⟩
  | @outputFailed batch e s₁ s' made before printed => cases (eq_of_printBatch hprint printed).1
  | @prepareFailed batch e s₁ s₂ s₃ s₄ s' made before printed between prepared same =>
    cases prepared
  | @operateFailed batch op e s₁ s₂ s₃ s₄ s₅ s' made before printed between prepared operated same =>
    have hstill : s₃.1 = s.1 := between.trans ((eq_of_printBatch hprint printed).2.trans before)
    cases prepared
    have hend := reached_operate hopen hpool made (hstill ▸ h) operated
    split at hend
    · cases hend.1
    next hfits =>
      obtain ⟨he, hreached⟩ := hend
      cases he
      rw [if_neg fun hboth => hfits hboth.2, stopAt, if_pos (fits_of_generate made), same]
      exact ⟨rfl, hreached⟩
  | @written batch op s₁ s₂ s₃ s₄ s₅ s' made before printed between prepared operated same =>
    have hstill : s₃.1 = s.1 := between.trans ((eq_of_printBatch hprint printed).2.trans before)
    cases prepared
    have hend := reached_operate hopen hpool made (hstill ▸ h) operated
    split at hend
    next hfits =>
      rw [if_pos ⟨fits_of_generate made, hfits⟩, same]
      exact ⟨rfl, hend.2⟩
    · cases hend.1

/-- There is a batch to write at an offset exactly if it is one of those
that can be written. -/
theorem succ_le_writableBatches_iff (settings : Settings) (id : ObjectId) (k : Nat) :
    k + 1 ≤ writableBatches settings id ↔
      k * settings.batchSize + settings.batchSize ≤ Key.limit ∧ (pairRow settings id).Fits := by
  have hpos := settings.batchSize_pos
  rw [writableBatches, Nat.le_div_iff_mul_le hpos, Nat.succ_mul, writablePairs]
  split
  next hfits => rw [and_iff_left hfits]
  next hlong => simp only [hlong, and_false, iff_false]; omega

/-- A run over consecutive batches writes them all, or stops at the
first that can't be written. -/
theorem reached_loopRun (hopen : d.connection? handle = some c) (hpool : pool ∈ ps)
    (hprint : settings.debug = true → ∀ line s, ((u.printLine line).run s).1 = .ok ())
    {m k n : Nat} {s s' : Disk × ρ} {r : Except RunError Unit}
    (hrun : LoopRun (u.testbed (LocalSession.mk (some handle) pool).storage) Prod.fst settings object
      ((List.range' k m).map (· * settings.batchSize)) s r s' n)
    (h : Reached settings ⟨pool, object⟩ d handle ps os es (k * settings.batchSize) s.1)
    (hk : k ≤ writableBatches settings ⟨pool, object⟩) :
    Reached settings ⟨pool, object⟩ d handle ps os es ((k + n) * settings.batchSize) s'.1
      ∧ if k + m ≤ writableBatches settings ⟨pool, object⟩ then r = .ok () ∧ n = m
        else r = .error (stopAt settings object ((k + n) * settings.batchSize))
          ∧ k + n = writableBatches settings ⟨pool, object⟩ := by
  -- By induction on the batches that are left. `k` counts those before
  -- them, all of which were written.
  induction m generalizing k n s with
  | zero =>
    cases hrun
    rw [if_pos (by omega)]
    exact ⟨h, rfl, rfl⟩
  | succ m ih =>
    have hnext := succ_le_writableBatches_iff settings ⟨pool, object⟩ k
    rw [List.range'_succ, List.map_cons] at hrun
    -- The first batch either ends the run or is followed by the others.
    cases hrun with
    | failed batch =>
      have hbatch := reached_batchRun hopen hpool hprint batch h
      simp only [← hnext] at hbatch
      split at hbatch
      · cases hbatch.1
      next hstop =>
        rw [if_neg (by omega), Nat.add_zero]
        exact ⟨hbatch.2, hbatch.1, by omega⟩
    | @next _ _ _ _ _ _ n batch rest =>
      have hbatch := reached_batchRun hopen hpool hprint batch h
      simp only [← hnext] at hbatch
      rw [← Nat.succ_mul] at hbatch
      split at hbatch
      next hgo =>
        have hrest := ih rest hbatch.2 hgo
        rw [show k + 1 + n = k + (n + 1) by omega, show k + 1 + m = k + (m + 1) by omega] at hrest
        refine ⟨hrest.1, ?_⟩
        split
        next hle =>
          rw [if_pos hle] at hrest
          exact ⟨hrest.2.1, by omega⟩
        next hgt =>
          rw [if_neg hgt] at hrest
          exact hrest.2
      · cases hbatch.1

/-- A run reaches the end of its plan, or the first batch that can't be
written. -/
theorem reached_perform (u : Surroundings ρ) (settings : Settings) (object : String)
    (hopen : d.connection? handle = some c) (hpool : pool ∈ ps)
    (hprint : settings.debug = true → ∀ line s, ((u.printLine line).run s).1 = .ok ()) {s : Disk × ρ}
    (h : Reached settings ⟨pool, object⟩ d handle ps os es 0 s.1) :
    ∃ s' result perf n, ((perform (u.testbed (LocalSession.mk (some handle) pool).storage)
        settings object).run .empty).run s = ((result, perf), s')
      ∧ Reached settings ⟨pool, object⟩ d handle ps os es (n * settings.batchSize) s'.1
      ∧ tally perf = tallyOf settings .empty n
      ∧ if settings.plannedBatches ≤ writableBatches settings ⟨pool, object⟩ then
          (∃ elapsed, result = .ok elapsed) ∧ n = settings.plannedBatches
        else result = .error (stopAt settings object (n * settings.batchSize))
          ∧ n = writableBatches settings ⟨pool, object⟩ := by
  let session := (LocalSession.mk (some handle) pool).storage
  obtain ⟨result, perf, s', t₁, t₂, n, hperform, ht₁, hloop, ht₂, hcount⟩ :=
    loopRun_perform settings object (quiet_testbed u session) .empty s
  rw [settings.toList_offsets, List.range_eq_range'] at hloop
  have hbegin : Reached settings ⟨pool, object⟩ d handle ps os es (0 * settings.batchSize) t₁.1 := by
    rw [Nat.zero_mul, ht₁]
    exact h
  obtain ⟨hreached, hresult⟩ := reached_loopRun hopen hpool hprint hloop hbegin (Nat.zero_le _)
  rw [Nat.zero_add, ← ht₂] at hreached
  simp only [Nat.zero_add] at hresult
  refine ⟨s', result, perf, n, hperform, hreached, hcount, ?_⟩
  -- What the loop came to is what the run comes to.
  split at hresult
  next hle =>
    rw [if_pos hle]
    cases result with
    | ok elapsed => exact ⟨⟨elapsed, rfl⟩, hresult.2⟩
    | error e => cases hresult.1
  next hgt =>
    rw [if_neg hgt]
    cases result with
    | ok elapsed => cases hresult.1
    | error e => exact ⟨congrArg Except.error (Except.error.inj hresult.1), hresult.2⟩

/-- The total is in reach exactly if all batches are. Both are told in whole
batches, so rounding makes no difference. -/
theorem roundUp_le_writablePairs_iff (settings : Settings) (id : ObjectId) :
    roundUp settings.totalPairs settings.batchSize ≤ writablePairs settings id ↔
      settings.plannedBatches ≤ writableBatches settings id := by
  rw [settings.plannedBatches_eq, writableBatches, Nat.le_div_iff_mul_le settings.batchSize_pos,
    roundUp]

/-- No run writes more pairs than there are keys. -/
theorem writablePairs_le (settings : Settings) (id : ObjectId) :
    writablePairs settings id ≤ Key.limit := by
  rw [writablePairs]
  split
  · exact Nat.le_refl _
  · exact Nat.zero_le _

/-- The number of pairs that a run writes. It is the total in full batches,
or as many full batches as can be written. -/
def writtenPairs (settings : Settings) (id : ObjectId) : Nat :=
  let total := roundUp settings.totalPairs settings.batchSize
  if total ≤ writablePairs settings id then total
  else settings.batchSize * (writablePairs settings id / settings.batchSize)

/-- A run that ends with its plan, or where no more can be written, has
written that many. -/
theorem min_mul_batchSize (settings : Settings) (id : ObjectId) :
    min settings.plannedBatches (writableBatches settings id) * settings.batchSize =
      writtenPairs settings id := by
  simp only [writtenPairs, roundUp_le_writablePairs_iff]
  split
  next hle => rw [Nat.min_eq_left hle, settings.plannedBatches_eq, roundUp]
  next hgt =>
    rw [Nat.min_eq_right (Nat.le_of_not_le hgt), Nat.mul_comm]
    rfl

/-- There are keys for all of them. -/
theorem writtenPairs_le (settings : Settings) (id : ObjectId) : writtenPairs settings id ≤ Key.limit := by
  refine Nat.le_trans ?_ (writablePairs_le settings id)
  simp only [writtenPairs]
  split
  next hle => exact hle
  next => exact Nat.mul_div_le _ _

/-- A run with a store file can count what it wrote. So a client sees the
same number that its measurements tell. -/
theorem run_mapSize_of_reached (hopen : d.connection? handle = some c) {written : Nat}
    (hfits : written ≤ Key.limit) {disk : Disk}
    (h : Reached settings ⟨pool, object⟩ d handle ps os es written disk) :
    ((LocalSession.mk (some handle) pool).storage.mapSize object).run disk = (.ok written, disk) := by
  obtain ⟨ready, rfl⟩ := h
  have hword : written.toUInt64.toNat = written := by
    have hsize : Key.limit < UInt64.size := by decide
    exact Nat.mod_eq_of_lt (Nat.lt_of_le_of_lt hfits hsize)
  refine (LocalSession.run_of_connection? (Disk.connection?_putBack hopen _) pool
    (Store.mapSize ⟨pool, object⟩)).trans ?_
  rw [Store.run_mapSize rfl, size_tablesAfter, Disk.putBack_putBack, hword]
  rfl

/-- The exact result of a setup and a run with a store file that has all
its tables and the session's pool, where printing doesn't fail and the
object's names aren't too long. A run whose total, rounded up to full
batches, can be written, writes that many pairs. Another run stops at the
first batch that can't, and leaves the batches before it: it is the first
with an index that has no key, or just the first if the rows are too
long. -/
theorem setup_perform_localStore (u : Surroundings ρ) (settings : Settings) (pool object : String)
    (s : ρ) (hopen : d.connection? handle = some c)
    (htables : c.tables = ⟨some ps, some os, some es⟩) (hpool : pool ∈ ps)
    (hobject : (Row.ofObject ⟨pool, object⟩ setupPayload).Fits)
    (hprint : settings.debug = true → ∀ line s, ((u.printLine line).run s).1 = .ok ()) :
    let session := (LocalSession.mk (some handle) pool).storage
    let total := roundUp settings.totalPairs settings.batchSize
    let limit := writablePairs settings ⟨pool, object⟩
    let written := if total ≤ limit then total else settings.batchSize * (limit / settings.batchSize)
    ∃ s₁ s₂ result perf c',
      (setup (u.testbed session).session object).run (d, s) = (.ok (), s₁)
      ∧ ((perform (u.testbed session) settings object).run .empty).run s₁ = ((result, perf), s₂)
      ∧ (if total ≤ limit then ∃ elapsed, result = .ok elapsed
        else result = .error (stopAt settings object written))
      ∧ s₂.1 = d.putBack handle c' ∧ HoldsRun settings ⟨pool, object⟩ written c.tables c'.tables
      ∧ (session.mapSize object).run s₂.1 = (.ok written, s₂.1)
      ∧ tally perf = (written / settings.batchSize, written, written * settings.valueSize)
      ∧ (total ≤ limit → settings.plannedPairs = written) := by
  intro session total limit written
  have hpos := settings.batchSize_pos
  obtain ⟨r, s₁, hsetup, hok, hbegin⟩ := reached_setup u settings object hopen htables hpool s
  obtain rfl := hok.mpr hobject
  obtain ⟨s₂, result, perf, n, hperform, hreached, hcount, hresult⟩ :=
    reached_perform u settings object hopen hpool hprint (hbegin rfl)
  have hfits : total ≤ limit ↔ settings.plannedBatches ≤ writableBatches settings ⟨pool, object⟩ :=
    roundUp_le_writablePairs_iff settings ⟨pool, object⟩
  -- The batches that were written hold the pairs that the settings tell.
  have hbatches : n = min settings.plannedBatches (writableBatches settings ⟨pool, object⟩) := by
    split at hresult <;> omega
  have hwritten : n * settings.batchSize = written := by
    rw [hbatches]
    exact min_mul_batchSize settings ⟨pool, object⟩
  have hn : n = written / settings.batchSize := by
    rw [← hwritten, Nat.mul_div_cancel n hpos]
  have hlimit : written ≤ Key.limit := writtenPairs_le settings ⟨pool, object⟩
  rw [hwritten] at hreached hresult
  have hcounted := run_mapSize_of_reached hopen hlimit hreached
  obtain ⟨ready, hdisk⟩ := hreached
  refine ⟨s₁, s₂, result, perf, _, hsetup, hperform, ?_, hdisk, ?_, hcounted, ?_, ?_⟩
  · simp only [hfits]
    split at hresult
    next hle =>
      rw [if_pos hle]
      exact hresult.1
    next hgt =>
      rw [if_neg hgt]
      exact hresult.1
  · rw [htables]
    exact holdsRun_tablesAfter settings hlimit
  · rw [hcount, tallyOf, ← hn]
    simp only [Performance.empty, Nat.zero_add, Prod.mk.injEq, true_and]
    rw [← hwritten, Nat.mul_assoc]
    exact ⟨rfl, rfl⟩
  · intro hle
    have hword : total ≤ maxWord :=
      Nat.le_trans hle (Nat.le_trans (writablePairs_le settings ⟨pool, object⟩) (by decide))
    simp only [written]
    rw [if_pos hle, settings.plannedPairs_eq]
    exact Nat.min_eq_right hword

end

/-- Three pairs in batches of two take two batches, and leave four
pairs in a store that had none. -/
theorem setup_perform_threePairs :
    let tables : Tables := ⟨some ((∅ : ExtTreeSet String).insert "ben"), some ∅, some ∅⟩
    let d : Disk := ⟨⟨∅, []⟩, #[tables], #[⟨0, false⟩]⟩
    let settings : Settings := ⟨2, 3, 1, true, .zero, by decide, by decide, by decide, by decide⟩
    let bed := Surroundings.still.testbed (LocalSession.mk (some 0) "ben").storage
    ∃ s₁ s₂ elapsed perf c',
      (setup bed.session "hw").run (d, ()) = (.ok (), s₁)
      ∧ ((perform bed settings "hw").run .empty).run s₁ = ((.ok elapsed, perf), s₂)
      ∧ s₂.1 = d.putBack 0 c' ∧ HoldsRun settings ⟨"ben", "hw"⟩ 4 tables c'.tables
      ∧ tally perf = (2, 4, 4) := by
  intro tables d settings bed
  have hopen : d.connection? 0 = some ⟨tables, false⟩ := rfl
  have hpool : "ben" ∈ (∅ : ExtTreeSet String).insert "ben" := by simp
  have hobject : (Row.ofObject ⟨"ben", "hw"⟩ setupPayload).Fits := by decide +kernel
  obtain ⟨s₁, s₂, result, perf, c', hsetup, hperform, hresult, hdisk, hholds, -, htally, -⟩ :=
    setup_perform_localStore Surroundings.still settings "ben" "hw" () hopen rfl hpool hobject
      fun _ _ _ => rfl
  have htotal : roundUp settings.totalPairs settings.batchSize = 4 := by
    change roundUp 3 2 = 4
    decide
  have hlimit : writablePairs settings ⟨"ben", "hw"⟩ = 100000000 := by decide +kernel
  simp only [htotal, hlimit, Nat.reduceLeDiff, if_true] at hresult hholds htally
  obtain ⟨elapsed, rfl⟩ := hresult
  have hcounts : tally perf = (4 / 2, 4, 4 * 1) := htally
  exact ⟨s₁, s₂, elapsed, perf, c', hsetup, hperform, hdisk, hholds, hcounts⟩

/-- Settings alone don't make a run succeed, though the store has all its
tables and the pool. One run has a single value that is too long for a row.
Another is to print its pairs, and nothing can be printed. -/
theorem setup_perform_fails :
    let tables : Tables := ⟨some ((∅ : ExtTreeSet String).insert "ben"), some ∅, some ∅⟩
    let d : Disk := ⟨⟨∅, []⟩, #[tables], #[⟨0, false⟩]⟩
    let session := (LocalSession.mk (some 0) "ben").storage
    let long : Settings := ⟨1, 1, 1000000000, false, .zero, by decide, by decide, by decide, by decide⟩
    let shown : Settings := ⟨2, 3, 1, true, .zero, by decide, by decide, by decide, by decide⟩
    let mute : Surroundings Unit :=
      { Surroundings.still with printLine := fun _ => pure (.error ⟨"disk full"⟩) }
    (∃ s₁ s₂ perf,
      (setup (Surroundings.still.testbed session).session "hw").run (d, ()) = (.ok (), s₁)
      ∧ ((perform (Surroundings.still.testbed session) long "hw").run .empty).run s₁ =
        ((.error (.writeFailure 0 "hw" (.store (.statement .tooBig))), perf), s₂)) ∧
    ∃ s₁ s₂ perf,
      (setup (mute.testbed session).session "hw").run (d, ()) = (.ok (), s₁)
      ∧ ((perform (mute.testbed session) shown "hw").run .empty).run s₁ =
        ((.error (.output ⟨"disk full"⟩), perf), s₂) := by
  intro tables d session long shown mute
  have hopen : d.connection? 0 = some ⟨tables, false⟩ := rfl
  have hpool : "ben" ∈ (∅ : ExtTreeSet String).insert "ben" := by simp
  have hobject : (Row.ofObject ⟨"ben", "hw"⟩ setupPayload).Fits := by decide +kernel
  constructor
  · obtain ⟨r, s₁, hsetup, hok, hbegin⟩ :=
      reached_setup Surroundings.still long "hw" hopen rfl hpool ()
    obtain rfl := hok.mpr hobject
    obtain ⟨s₂, result, perf, n, hperform, -, -, hresult⟩ :=
      reached_perform Surroundings.still long "hw" hopen hpool (fun h => by cases h) (hbegin rfl)
    have hlong : ¬ (pairRow long ⟨"ben", "hw"⟩).Fits :=
      Row.not_fits_of_maxSize_le (c := .bytes 1000000000) (by simp [pairRow, long]) (by decide)
    have hnone : writableBatches long ⟨"ben", "hw"⟩ = 0 := by
      rw [writableBatches, writablePairs, if_neg hlong, Nat.zero_div]
    rw [hnone, if_neg (by decide)] at hresult
    obtain ⟨rfl, rfl⟩ := hresult
    exact ⟨s₁, s₂, perf, hsetup, hperform⟩
  · let s₁ := ((setup (mute.testbed session).session "hw").run (d, ())).2
    have hresult : (((perform (mute.testbed session) shown "hw").run .empty).run s₁).1.1 =
        .error (.output ⟨"disk full"⟩) := by
      rw [run_perform, writeFrom_eq_forM, shown.toList_offsets]
      decide +kernel
    exact ⟨s₁, _, _, rfl, Prod.ext (Prod.ext hresult rfl) rfl⟩

end MapBench.Run
