import MapBench.Proofs.Store.Refusal
import MapBench.Store.Operations

/-!
# `MapBench.Proofs.Store.Operations`: what the operations of a store do

An operation on a store is a chain of statements, and each statement
reads or changes one table. The lemmas here run such a chain on a
connection, one statement at a time.

* `run_bind`, `run_rows`, `run_modifyTables`, `run_transaction`: the
  steps that every statement is made of.
* `run_deleteAll`, `run_setEntries`: the two transactions, on a store that
  may lack any tables.
* `run_replaceData`, `run_removeObject`, `run_writeEntries`,
  `run_mapSize`: the result and the effect of each operation on a
  store with all its tables.
* `Spares`: an operation leaves all rows but one object's alone, in
  any store, also one that lacks tables, and whether it succeeds or
  not. `spares_replaceData`, `spares_removeObject`,
  `spares_writeEntries` and `spares_mapSize` say so of the operations
  on an object.
-/

set_option autoImplicit false

namespace MapBench.Store

open Std

variable {α β : Type}

/-! ### Running a chain of statements -/

/-- A result that is given back changes nothing. -/
@[simp] theorem run_pure (a : α) (c : Connection) : (pure a : StoreM α).run c = (.ok a, c) :=
  rfl

/-- An error changes nothing either. What was done before it is undone
elsewhere, where that is due. -/
@[simp] theorem run_throw (e : StoreError) (c : Connection) :
    (throw e : StoreM α).run c = (.error e, c) :=
  rfl

/-- A chain goes on with the result of its first part, unless that
part failed. -/
theorem run_bind (x : StoreM α) (f : α → StoreM β) (c : Connection) :
    (x >>= f).run c = match x.run c with
      | (.ok a, c') => (f a).run c'
      | (.error e, c') => (.error e, c') := by
  change ExceptT.bindCont f (x.run c).1 (x.run c).2 = _
  rcases x.run c with ⟨_ | _, c'⟩ <;> rfl

/-- A chain succeeds only if all its parts do. -/
theorem run_bind_eq_ok {x : StoreM α} {f : α → StoreM β} {c c' : Connection} {b : β}
    (h : (x >>= f).run c = (.ok b, c')) :
    ∃ a c₁, x.run c = (.ok a, c₁) ∧ (f a).run c₁ = (.ok b, c') := by
  rw [run_bind] at h
  rcases hx : x.run c with ⟨e | a, c₁⟩ <;> rw [hx] at h
  · cases h
  · exact ⟨a, c₁, rfl, h⟩

/-- Catching an error leaves a success as it is. -/
theorem run_tryCatch (x : StoreM α) (handle : StoreError → StoreM α) (c : Connection) :
    (tryCatch x handle).run c = match x.run c with
      | (.ok a, c') => (.ok a, c')
      | (.error e, c') => (handle e).run c' := by
  simp only [tryCatch, tryCatchThe, MonadExceptOf.tryCatch, ExceptT.tryCatch, ExceptT.run_mk]
  simp only [ExceptT.run, bind, StateT.bind]
  rcases (x c : Except StoreError α × Connection) with ⟨_ | _, c'⟩ <;> rfl

/-- Looking at the tables changes nothing, not even what is prepared. -/
@[simp] theorem run_getTables (c : Connection) : getTables.run c = (.ok c.tables, c) :=
  rfl

/-- A change of the tables leaves what the connection has prepared. -/
@[simp] theorem run_modifyTables (change : Tables → Tables) (c : Connection) :
    (modifyTables change).run c = (.ok (), c.withTables (change c.tables)) :=
  rfl

/-- A transaction that fails puts the tables back; what its connection
has prepared stays prepared. -/
theorem run_transaction (body : StoreM α) (c : Connection) :
    (transaction body).run c = match body.run c with
      | (.ok a, c') => (.ok a, c')
      | (.error e, c') => (.error e, c'.withTables c.tables) := by
  simp only [transaction, run_bind, run_getTables, run_tryCatch, run_modifyTables, run_throw]

/-- Reading the rows of a table fails exactly if the table is
missing. -/
theorem run_rows {ρ : Type} (table : Table) (select : Tables → Option ρ) (c : Connection) :
    (rows table select).run c =
      (match select c.tables with
        | some r => .ok r
        | none => .error (.statement (.noSuchTable table)), c) := by
  simp only [rows, run_bind, run_getTables]
  cases select c.tables <;> rfl

/-- A row that is too long ends the chain. Nothing is changed by asking. -/
theorem run_needFit (row : Row) (c : Connection) :
    (needFit row).run c = (if row.Fits then .ok () else .error (.statement .tooBig), c) := by
  change (if !row.Fits then _ else _ : StoreM Unit).run c = _
  by_cases hfits : row.Fits <;> simp [hfits]

/-! ### Single statements

Each of them fails if its table is missing or its row is too long, and
then does nothing. -/

/-- A pool gets its row if there is a table for it. An old one keeps its
own. -/
theorem run_insertPool (pool : String) (c : Connection) :
    (insertPool pool).run c = match c.tables.pools with
      | some ps => (.ok (), c.withTables { c.tables with pools := some (ps.insert pool) })
      | none => (.error (.statement (.noSuchTable .pools)), c) := by
  simp only [insertPool, run_bind, run_rows]
  cases c.tables.pools <;> rfl

/-- The row of an object is written if it fits, over the one that may be
there. -/
theorem run_replaceObject (id : ObjectId) (data : List UInt8) (c : Connection) :
    (replaceObject id data).run c = match c.tables.objects with
      | some os =>
        if (Row.ofObject id data).Fits then
          (.ok (), c.withTables { c.tables with objects := some (os.insert id data) })
        else (.error (.statement .tooBig), c)
      | none => (.error (.statement (.noSuchTable .objects)), c) := by
  simp only [replaceObject, run_bind, run_rows, run_needFit]
  cases c.tables.objects with
  | none => rfl
  | some os => by_cases hfits : (Row.ofObject id data).Fits <;> simp [hfits]

/-- The row of a new object is written if it fits. It has to fit even if the
object has a row already. -/
theorem run_insertObject (id : ObjectId) (data : List UInt8) (c : Connection) :
    (insertObject id data).run c = match c.tables.objects with
      | some os =>
        if (Row.ofObject id data).Fits then
          (.ok (), c.withTables { c.tables with objects := some (os.insertIfNew id data) })
        else (.error (.statement .tooBig), c)
      | none => (.error (.statement (.noSuchTable .objects)), c) := by
  simp only [insertObject, run_bind, run_rows, run_needFit]
  cases c.tables.objects with
  | none => rfl
  | some os => by_cases hfits : (Row.ofObject id data).Fits <;> simp [hfits]

/-- The row of an object is deleted, if it has one. -/
theorem run_deleteObject (id : ObjectId) (c : Connection) :
    (deleteObject id).run c = match c.tables.objects with
      | some os => (.ok (), c.withTables { c.tables with objects := some (os.erase id) })
      | none => (.error (.statement (.noSuchTable .objects)), c) := by
  simp only [deleteObject, run_bind, run_rows]
  cases c.tables.objects <;> rfl

/-- All rows of a map are deleted, and no others. -/
theorem run_deleteEntries (id : ObjectId) (c : Connection) :
    (deleteEntries id).run c = match c.tables.entries with
      | some es => (.ok (), c.withTables { c.tables with entries := some (Entries.notOf id es) })
      | none => (.error (.statement (.noSuchTable .entries)), c) := by
  simp only [deleteEntries, run_bind, run_rows]
  cases c.tables.entries <;> rfl

/-- Preparing the statement that writes entries needs their table, but
only the first time. -/
theorem run_prepareEntries (c : Connection) :
    prepareEntries.run c =
      if c.entryReady then (.ok (), c)
      else match c.tables.entries with
        | some _ => (.ok (), { c with entryReady := true })
        | none => (.error (.statement (.noSuchTable .entries)), c) := by
  change (if !c.entryReady then _ else _ : StoreM Unit).run c = _
  cases hr : c.entryReady with
  | true => rfl
  | false =>
    simp only [Bool.not_false, if_true, run_bind, run_rows]
    cases c.tables.entries <;> rfl

/-- An entry is written if its row fits, there is a table for it and its key
isn't empty. These are asked for in this order. -/
theorem run_replaceEntry (id : ObjectId) (p : Pair) (c : Connection) :
    (replaceEntry id p).run c =
      if (Row.ofEntry id p).Fits then
        match c.tables.entries with
        | some es =>
          if p.key = "" then (.error (.statement .emptyKey), c)
          else (.ok (), c.withTables { c.tables with entries := some (es.insert ⟨id, p.key⟩ p.value) })
        | none => (.error (.statement (.noSuchTable .entries)), c)
      else (.error (.statement .tooBig), c) := by
  simp only [replaceEntry, run_bind, run_needFit]
  by_cases hfits : (Row.ofEntry id p).Fits
  · simp only [if_pos hfits, run_rows]
    cases c.tables.entries with
    | none => rfl
    | some es => by_cases hk : p.key = "" <;> simp [hk]
  · simp only [if_neg hfits]

/-- The rows of a map are counted, in a word. A store without the table
can't count. -/
theorem run_countEntries (id : ObjectId) (c : Connection) :
    (countEntries id).run c =
      (match c.tables.entries with
        | some es => .ok (Entries.ofObject id es).size.toUInt64.toNat
        | none => .error (.statement (.noSuchTable .entries)), c) := by
  simp only [countEntries, run_bind, run_rows]
  cases c.tables.entries <;> rfl

/-- Whoever asks for a pool learns whether it is there. -/
theorem run_hasPool (pool : String) (c : Connection) :
    (hasPool pool).run c =
      (match c.tables.pools with
        | some ps => .ok (ps.contains pool)
        | none => .error (.statement (.noSuchTable .pools)), c) := by
  simp only [hasPool, selectPool, run_bind, run_rows]
  cases c.tables.pools <;> rfl

/-- An operation on an object goes on only if there is its pool. -/
theorem run_needPool (pool : String) (c : Connection) :
    (needPool pool).run c =
      (match c.tables.pools with
        | some ps => if pool ∈ ps then .ok () else .error (.noSuchPool pool)
        | none => .error (.statement (.noSuchTable .pools)), c) := by
  simp only [needPool, run_bind, run_hasPool]
  cases c.tables.pools with
  | none => rfl
  | some ps =>
    simp only [ExtTreeSet.mem_iff_contains]
    cases hp : ps.contains pool <;> simp

/-- Who looks for a pool and goes on has found it. -/
theorem run_hasPool_of_needPool {pool : String} {c c' : Connection}
    (h : (needPool pool).run c = (.ok (), c')) : c' = c ∧ (hasPool pool).run c = (.ok true, c) := by
  rw [run_needPool] at h
  rw [run_hasPool]
  cases hpools : c.tables.pools with
  | none =>
    rw [hpools] at h
    cases h
  | some ps =>
    rw [hpools] at h
    by_cases hmem : pool ∈ ps
    · simp only [if_pos hmem] at h
      cases h
      exact ⟨rfl, by simp only [ExtTreeSet.mem_iff_contains.mp hmem]⟩
    · simp only [if_neg hmem] at h
      cases h

/-- With the pool there, looking for it changes nothing. -/
theorem run_needPool_of_hasPool {pool : String} {c : Connection} (h : c.tables.HasPool pool) :
    (needPool pool).run c = (.ok (), c) := by
  obtain ⟨ps, hpools, hmem⟩ := h
  rw [run_needPool, hpools]
  simp only [if_pos hmem]

/-- Without it, the operation ends here, for one of two reasons. -/
theorem run_needPool_of_not_hasPool {pool : String} {c : Connection} (h : ¬ c.tables.HasPool pool) :
    ∃ e, (needPool pool).run c = (.error e, c) := by
  rw [run_needPool]
  cases hpools : c.tables.pools with
  | none => exact ⟨_, rfl⟩
  | some ps =>
    have hmem : pool ∉ ps := fun hmem => h ⟨ps, hpools, hmem⟩
    simp only [if_neg hmem]
    exact ⟨_, rfl⟩

/-- The size of a map is a word. It is cut to one, so that holds without a
bound on maps. -/
theorem mapSize_lt {id : ObjectId} {c : Connection} {n : Nat}
    (h : ((mapSize id).run c).1 = .ok n) : n < UInt64.size := by
  rw [mapSize, run_countEntries] at h
  cases hentries : c.tables.entries with
  | none => simp [hentries] at h
  | some es =>
    simp only [hentries, Except.ok.injEq] at h
    exact h ▸ (Entries.ofObject id es).size.toUInt64.toNat_lt_size

/-! ### Transactions

They look for no pool, and the store may lack any tables. -/

section

variable {c : Connection} {id : ObjectId}

/-- Removing an object needs both tables that know it. If one of them is
missing, nothing is removed. -/
theorem run_deleteAll (id : ObjectId) (c : Connection) :
    (deleteAll id).run c = match c.tables.entries, c.tables.objects with
      | some _, some _ => (.ok (), c.withTables (c.tables.without id))
      | some _, none => (.error (.statement (.noSuchTable .objects)), c)
      | none, _ => (.error (.statement (.noSuchTable .entries)), c) := by
  simp only [deleteAll, run_bind, run_transaction, run_deleteEntries, run_deleteObject]
  cases hes : c.tables.entries with
  | none => rfl
  | some es => cases hos : c.tables.objects <;> simp [hes, hos, Connection.withTables, Tables.without]

/-- An entry is written unless it is refused, in a store that has the table
for it. -/
theorem run_replaceEntry_of_some (p : Pair) {es : Entries} (h : c.tables.entries = some es) :
    (replaceEntry id p).run c = match p.refusal? id with
      | some cause => (.error (.statement cause), c)
      | none =>
        (.ok (), c.withTables { c.tables with entries := some (es.insert ⟨id, p.key⟩ p.value) }) := by
  rw [run_replaceEntry, h, Pair.refusal?]
  by_cases hfits : (Row.ofEntry id p).Fits <;> by_cases hk : p.key = "" <;> simp [hfits, hk]

/-- Writing pairs one after another fails at the first that is refused,
and otherwise writes all of them. -/
theorem run_replaceEntries (id : ObjectId) (pairs : List Pair) {es : Entries}
    (h : c.tables.entries = some es) :
    ∃ c', (pairs.forM (replaceEntry id)).run c =
        (match pairs.findSome? (Pair.refusal? id) with
          | some cause => .error (.statement cause)
          | none => .ok (), c')
      ∧ c'.entryReady = c.entryReady
      ∧ (pairs.findSome? (Pair.refusal? id) = none →
        c'.tables = { c.tables with entries := some (es.write id pairs) }) := by
  induction pairs generalizing es c with
  | nil => exact ⟨c, rfl, rfl, fun _ => by rw [Entries.write, List.foldl_nil, ← h]⟩
  | cons p rest ih =>
    have hstep : (List.forM (p :: rest) (replaceEntry id)).run c =
        (replaceEntry id p >>= fun _ => rest.forM (replaceEntry id)).run c := rfl
    rw [hstep, run_bind, run_replaceEntry_of_some p h, List.findSome?_cons]
    cases p.refusal? id with
    | some cause => exact ⟨c, rfl, rfl, fun hnone => by cases hnone⟩
    | none =>
      have hnext : (c.withTables
          { c.tables with entries := some (es.insert ⟨id, p.key⟩ p.value) }).tables.entries =
          some (es.insert ⟨id, p.key⟩ p.value) := rfl
      obtain ⟨c', hrun, hready, htables⟩ := ih hnext
      exact ⟨c', hrun, hready, htables⟩

/-- Writing a batch makes the object if there is none, and writes all
pairs of the batch; a pair that is refused keeps all of that from
happening. The statement stays prepared in either case, if the transaction
came that far. -/
theorem run_setEntries (id : ObjectId) (batch : Batch) (c : Connection) :
    (setEntries id batch).run c = match c.refusal? id batch with
      | none => (.ok (), ⟨c.tables.withEntries id batch, true⟩)
      | some cause => (.error (.statement cause), ⟨c.tables, c.entryReady || c.prepares id⟩) := by
  obtain ⟨⟨ps, objects, entries⟩, ready⟩ := c
  simp only [setEntries, run_bind, run_transaction, run_insertObject, Connection.refusal?,
    Connection.prepares, Batch.refusal?]
  -- The three obstacles in their order: no table of objects, a row of the object that is too
  -- long, and no table of maps.
  cases objects with
  | none => simp [Connection.withTables]
  | some os =>
    by_cases hfits : (Row.ofObject id []).Fits
    · cases entries with
      | none =>
        cases ready with
        | false => simp [hfits, run_prepareEntries, Connection.withTables]
        | true =>
          -- A statement that was prepared is only missed by a pair that uses it.
          cases hpairs : batch.pairs with
          | nil => simp [hfits, run_prepareEntries, Connection.withTables, Tables.withEntries, hpairs]
          | cons p rest =>
            by_cases hpair : (Row.ofEntry id p).Fits <;>
              simp [hfits, hpair, run_bind, run_prepareEntries, run_replaceEntry, Connection.withTables]
      | some es =>
        have hprepared : prepareEntries.run ⟨⟨ps, some (os.insertIfNew id []), some es⟩, ready⟩ =
            (.ok (), ⟨⟨ps, some (os.insertIfNew id []), some es⟩, true⟩) := by
          rw [run_prepareEntries]
          cases ready <;> rfl
        have hmade : (Connection.mk ⟨ps, some (os.insertIfNew id []), some es⟩ true).tables.entries =
            some es := rfl
        obtain ⟨⟨tables, _⟩, hrun, rfl, htables⟩ := run_replaceEntries id batch.pairs hmade
        cases hcause : batch.pairs.findSome? (Pair.refusal? id) with
        | some cause =>
          simp only [if_pos hfits, Connection.withTables, hprepared, hrun, hcause]
          simp [hfits]
        | none =>
          obtain rfl := htables hcause
          simp only [if_pos hfits, Connection.withTables, hprepared, hrun, hcause]
          rfl
    · cases entries <;> simp [hfits, Connection.withTables]

end

/-! ### Operations on a store with all its tables -/

section

variable {ps : ExtTreeSet String} {os : Objects} {es : Entries} {c : Connection} {id : ObjectId}

/-- Replacing an object's data changes the one row of the object, unless
that would be too long. -/
theorem run_replaceData (data : List UInt8) (h : c.tables = ⟨some ps, some os, some es⟩) :
    (replaceData id data).run c =
      if id.pool ∈ ps then
        if (Row.ofObject id data).Fits then
          (.ok (), c.withTables ⟨some ps, some (os.insert id data), some es⟩)
        else (.error (.statement .tooBig), c)
      else (.error (.noSuchPool id.pool), c) := by
  simp only [replaceData, putObject, run_bind, run_needPool, run_replaceObject, h]
  by_cases hp : id.pool ∈ ps <;> simp [hp, h]

/-- Removing an object removes its row and its whole map, and nothing of any
other. -/
theorem run_removeObject (h : c.tables = ⟨some ps, some os, some es⟩) :
    (removeObject id).run c =
      if id.pool ∈ ps then
        (.ok (), c.withTables ⟨some ps, some (os.erase id), some (es.notOf id)⟩)
      else (.error (.noSuchPool id.pool), c) := by
  simp only [removeObject, run_bind, run_needPool, run_deleteAll]
  obtain ⟨tables, ready⟩ := c
  obtain rfl : tables = ⟨some ps, some os, some es⟩ := h
  by_cases hp : id.pool ∈ ps <;> simp [hp, Tables.without]

/-- Writing a batch writes the rows of all its pairs and of the object,
or nothing if one of them is refused. -/
theorem run_writeEntries (batch : Batch) (h : c.tables = ⟨some ps, some os, some es⟩) :
    (writeEntries id batch).run c =
      if id.pool ∈ ps then
        match batch.refusal? id with
        | some cause => (.error (.statement cause), ⟨c.tables, c.entryReady || c.prepares id⟩)
        | none =>
          (.ok (), ⟨⟨some ps, some (os.insertIfNew id []), some (es.write id batch.pairs)⟩, true⟩)
      else (.error (.noSuchPool id.pool), c) := by
  have hcause : c.refusal? id batch = batch.refusal? id := by rw [Connection.refusal?, h]
  simp only [writeEntries, run_bind, run_needPool, run_setEntries, h]
  by_cases hp : id.pool ∈ ps
  · cases hrefusal : batch.refusal? id <;> simp [hp, h, hcause, hrefusal, Tables.withEntries]
  · simp [hp]

/-- The size of an object's map is the number of its rows, as a
word. -/
theorem run_mapSize (h : c.tables = ⟨some ps, some os, some es⟩) :
    (mapSize id).run c = (.ok (es.ofObject id).size.toUInt64.toNat, c) := by
  rw [mapSize, run_countEntries, h]

end

/-! ### What an operation on an object leaves alone -/

/-- The operation leaves everything but the rows of one object as it
was. -/
def Spares (id : ObjectId) (op : StoreM α) : Prop :=
  ∀ c : Connection, (op.run c).2.tables.without id = c.tables.without id

namespace Spares

variable {id : ObjectId}

/-- A result leaves all rows alone, as nothing is done for it. -/
theorem pure (a : α) : Spares id (Pure.pure a : StoreM α) :=
  fun _ => rfl

/-- A chain leaves alone what all its parts do, also if it ends early. -/
theorem bind {x : StoreM α} {f : α → StoreM β} (hx : Spares id x) (hf : ∀ a, Spares id (f a)) :
    Spares id (x >>= f) := by
  intro c
  have hc := hx c
  rw [run_bind]
  generalize x.run c = r at hc ⊢
  rcases r with ⟨e | a, c'⟩
  · exact hc
  · exact (hf a c').trans hc

/-- A transaction puts the tables back or leaves alone what its body
does. -/
theorem transaction {body : StoreM α} (hb : Spares id body) :
    Spares id (Store.transaction body) := by
  intro c
  have hc := hb c
  rw [run_transaction]
  generalize body.run c = r at hc ⊢
  rcases r with ⟨e | a, c'⟩
  · rfl
  · exact hc

/-- So does a chain of many parts, by induction on the chain. -/
theorem forM {f : α → StoreM Unit} (hf : ∀ a, Spares id (f a)) :
    (as : List α) → Spares id (as.forM f)
  | [] => pure ()
  | a :: as => bind (hf a) fun _ => forM hf as

end Spares

variable (id : ObjectId)

/-- Looking for a pool leaves everything as it is. -/
theorem spares_needPool (pool : String) : Spares id (needPool pool) := by
  intro c
  rw [run_needPool]

/-- So does counting the keys of a map, which only looks. -/
theorem spares_mapSize : Spares id (mapSize id) := by
  intro c
  rw [mapSize, run_countEntries]

/-- The statements about an object change its own row only. Replacing its
data is one of them. -/
theorem spares_replaceObject (data : List UInt8) : Spares id (replaceObject id data) := by
  intro c
  rw [run_replaceObject]
  cases h : c.tables.objects with
  | none => rfl
  | some os =>
    by_cases hfits : (Row.ofObject id data).Fits
    · simp [hfits, Connection.withTables, Tables.without, h, Objects.erase_insert]
    · simp [hfits]

/-- To write an object leaves all others, also if it is only made for want
of one. -/
theorem spares_insertObject (data : List UInt8) : Spares id (insertObject id data) := by
  intro c
  rw [run_insertObject]
  cases h : c.tables.objects with
  | none => rfl
  | some os =>
    by_cases hfits : (Row.ofObject id data).Fits
    · simp [hfits, Connection.withTables, Tables.without, h, Objects.erase_insertIfNew]
    · simp [hfits]

/-- To delete it leaves all others, too. -/
theorem spares_deleteObject : Spares id (deleteObject id) := by
  intro c
  rw [run_deleteObject]
  cases h : c.tables.objects with
  | none => rfl
  | some os => simp [Connection.withTables, Tables.without, h, Objects.erase_erase]

/-- Deleting a map leaves all other maps. Which rows go is told by the
object that they name. -/
theorem spares_deleteEntries : Spares id (deleteEntries id) := by
  intro c
  rw [run_deleteEntries]
  cases h : c.tables.entries with
  | none => rfl
  | some es => simp [Connection.withTables, Tables.without, h, Entries.notOf_notOf]

/-- Preparing a statement changes no rows at all. -/
theorem spares_prepareEntries : Spares id prepareEntries := by
  intro c
  rw [run_prepareEntries]
  split
  · rfl
  · cases c.tables.entries <;> rfl

/-- An entry is a row of its own object, so writing it leaves the rows of
all others. -/
theorem spares_replaceEntry (p : Pair) : Spares id (replaceEntry id p) := by
  intro c
  cases h : c.tables.entries with
  | none =>
    rw [run_replaceEntry, h]
    split <;> rfl
  | some es =>
    rw [run_replaceEntry_of_some p h]
    cases p.refusal? id with
    | some cause => rfl
    | none => simp [Connection.withTables, Tables.without, h, Entries.notOf_insert]

/-- Replacing an object's data leaves all other rows alone, on any store and
however it ends. -/
theorem spares_replaceData (data : List UInt8) : Spares id (replaceData id data) :=
  .bind (spares_needPool id id.pool) fun _ => spares_replaceObject id data

/-- Removing an object leaves all other rows alone, in the same way. -/
theorem spares_removeObject : Spares id (removeObject id) :=
  .bind (spares_needPool id id.pool) fun _ =>
    .transaction (.bind (spares_deleteEntries id) fun _ => spares_deleteObject id)

/-- Writing into an object's map leaves all other rows alone, whatever is in
the batch. -/
theorem spares_writeEntries (batch : Batch) : Spares id (writeEntries id batch) :=
  .bind (spares_needPool id id.pool) fun _ =>
    .transaction (.bind (spares_insertObject id []) fun _ =>
      .bind (spares_prepareEntries id) fun _ => .forM (spares_replaceEntry id) batch.pairs)

end MapBench.Store
