import MapBench.Proofs.Store.Operations
import MapBench.Store.Journal

/-!
# `MapBench.Proofs.Store.Contents`: what the tables stand for

Whoever uses a store thinks of pools, of objects in them, and of data
and a map for each object. The three tables are a way to keep that.

* `Contents`: pools with their objects, each with data and a map.
* `Contents.change`, `Contents.mapSize`: what a store does, said of its
  contents. `Contents.change_cases`: what a change can do.
* `Represents`: the tables that keep some contents. They keep no others
  (`Represents.unique`).
* `IsIntact`: no row of the tables is there without the rows that it
  needs.
* `ActsOnRows`: which rows a change may touch, and what it leaves of the
  object that it is about.
* `Tables.Holds.run_change`, `Tables.Holds.run_hasPool`,
  `Tables.Holds.run_mapSize`: an operation on the tables is the operation
  on the contents.
-/

set_option autoImplicit false

namespace MapBench

open Std

/-- An object as its users see it: it always has data and a map, though both
may be empty. -/
structure StoredObject where
  data : List UInt8
  map : ExtTreeMap String (List UInt8)

namespace StoredObject

/-- An object that was made for want of one. A write into its map makes it,
and so does its data. -/
def blank : StoredObject := ⟨[], ∅⟩

/-- The object with other data. Its map stays. -/
def withData (data : List UInt8) (o : StoredObject) : StoredObject :=
  { o with data }

/-- The object after pairs were written into its map, one after
another. -/
def withPairs (pairs : List Pair) (o : StoredObject) : StoredObject :=
  { o with map := pairs.foldl (fun m p => m.insert p.key p.value) o.map }

/-- A key that was written has its last value. -/
theorem getElem?_withPairs (pairs : List Pair) (o : StoredObject) (key : String) :
    (o.withPairs pairs).map[key]? = (Entries.lastValue key pairs).or o.map[key]? := by
  induction pairs generalizing o with
  | nil => rfl
  | cons p ps ih =>
    have hstep : o.withPairs (p :: ps) =
        StoredObject.withPairs ps { o with map := o.map.insert p.key p.value } := rfl
    rw [hstep, ih, ExtTreeMap.getElem?_insert, Entries.lastValue]
    simp only [Std.compare_eq_iff_eq]
    by_cases hk : p.key = key <;> cases Entries.lastValue key ps <;> simp [hk]

/-- No key is written that no pair has. The other keys were there before. -/
theorem mem_withPairs {pairs : List Pair} {o : StoredObject} {key : String}
    (h : key ∈ (o.withPairs pairs).map) : key ∈ pairs.map Pair.key ∨ key ∈ o.map := by
  rw [ExtTreeMap.mem_iff_isSome_getElem?, getElem?_withPairs] at h
  cases hlast : Entries.lastValue key pairs with
  | some value =>
    exact .inl (List.mem_map.mpr ⟨⟨key, value⟩, Entries.mem_of_lastValue hlast, rfl⟩)
  | none =>
    rw [hlast, Option.none_or] at h
    exact .inr (ExtTreeMap.mem_iff_isSome_getElem?.mpr h)

end StoredObject

/-- The object that a change is about. Making a pool is about none. -/
def StoreChange.target? : StoreChange → Option ObjectId
  | .createPool _ => none
  | .replaceData id _ | .removeObject id | .writeEntries id _ => some id

/-- What a change makes of that object, if it isn't refused. There may be no
such object before, or none after. -/
def StoreChange.edit : StoreChange → Option StoredObject → Option StoredObject
  | .createPool _, o => o
  | .replaceData _ data, o => some ((o.getD .blank).withData data)
  | .removeObject _, _ => none
  | .writeEntries _ batch, o => some ((o.getD .blank).withPairs batch.pairs)

/-- Why a store that has the pool doesn't make the change, if it
doesn't. -/
def StoreChange.refusal? : StoreChange → Option StatementError
  | .createPool _ | .removeObject _ => none
  | .replaceData id data => if (Row.ofObject id data).Fits then none else some .tooBig
  | .writeEntries id batch => batch.refusal? id

/-- What a store holds: pools, and the objects in each. There is no way to
have an object without its pool or an entry without its object. -/
abbrev Contents := ExtTreeMap String (ExtTreeMap String StoredObject)

namespace Contents

/-- An object, if its pool is there and has it. -/
def object? (A : Contents) (id : ObjectId) : Option StoredObject :=
  A[id.pool]?.bind (·[id.object]?)

/-- Change, make or remove an object of a pool that is there. -/
def alter (A : Contents) (id : ObjectId) (f : Option StoredObject → Option StoredObject) : Contents :=
  A.modify id.pool (·.alter id.object f)

/-- The number of keys in an object's map, zero if there is no such
object. -/
def mapSize (A : Contents) (id : ObjectId) : Nat :=
  (A.object? id).elim 0 (·.map.size)

/-- What a change makes of the contents, or why it makes nothing. It is
refused if the pool is missing, or if a row that it needs is too long or has
an empty key. -/
def change (A : Contents) (ch : StoreChange) : Except StoreError Contents :=
  match ch with
  | .createPool pool => .ok (A.insertIfNew pool ∅)
  | .replaceData id _ | .removeObject id | .writeEntries id _ =>
    if id.pool ∈ A then
      match ch.refusal? with
      | some cause => .error (.statement cause)
      | none => .ok (A.alter id ch.edit)
    else .error (.noSuchPool id.pool)

/-- The contents after a change. One that fails changes nothing. -/
def after (A : Contents) (ch : StoreChange) : Contents :=
  (A.change ch).toOption.getD A

/-- No map has an empty key. This is kept by all changes, as a batch with
one is refused. -/
def HasKeys (A : Contents) : Prop :=
  ∀ id o, A.object? id = some o → "" ∉ o.map

variable {A B : Contents} {id : ObjectId}

/-- An object has its pool. There is no place for it otherwise. -/
theorem pool_mem_of_object? {o : StoredObject} (h : A.object? id = some o) : id.pool ∈ A := by
  rw [object?, Option.bind_eq_some_iff] at h
  obtain ⟨objects, hobjects, -⟩ := h
  exact ExtTreeMap.mem_iff_isSome_getElem?.mpr (by rw [hobjects]; rfl)

/-- What is done to an object leaves the pools as they are. -/
theorem mem_alter {f : Option StoredObject → Option StoredObject} {pool : String} :
    pool ∈ A.alter id f ↔ pool ∈ A :=
  ExtTreeMap.mem_modify

/-- Only the object that is meant changes, also among those of its pool. -/
theorem object?_alter (hpool : id.pool ∈ A) (f : Option StoredObject → Option StoredObject)
    (other : ObjectId) :
    (A.alter id f).object? other = if other = id then f (A.object? id) else A.object? other := by
  obtain ⟨objects, hobjects⟩ := Option.isSome_iff_exists.mp (ExtTreeMap.mem_iff_isSome_getElem?.mp hpool)
  obtain ⟨pool, object⟩ := id
  obtain ⟨pool', object'⟩ := other
  simp only [object?, alter, ExtTreeMap.getElem?_modify, Std.compare_eq_iff_eq, ObjectId.mk.injEq] at *
  by_cases hp : pool = pool'
  · subst hp
    by_cases ho : object = object'
    · subst ho
      simp [hobjects, ExtTreeMap.getElem?_alter_self]
    · simp [hobjects, ExtTreeMap.getElem?_alter, ho, Ne.symm ho]
  · simp [hp, Ne.symm hp]

/-- A new pool has no objects, and all others are as they were. -/
theorem object?_insertIfNew (pool : String) (other : ObjectId) :
    object? (A.insertIfNew pool ∅) other = A.object? other := by
  rw [object?, object?, ExtTreeMap.getElem?_insertIfNew]
  split
  next h =>
    obtain rfl := Std.compare_eq_iff_eq.mp h.1
    simp [ExtTreeMap.getElem?_eq_none h.2]
  next => rfl

/-- A change of an object is made if the pool is there and nothing in it is
refused. -/
theorem change_of_target {ch : StoreChange} (h : ch.target? = some id) :
    A.change ch =
      if id.pool ∈ A then
        match ch.refusal? with
        | some cause => .error (.statement cause)
        | none => .ok (A.alter id ch.edit)
      else .error (.noSuchPool id.pool) := by
  cases ch with
  | createPool pool => cases h
  | _ =>
    obtain rfl := Option.some.inj h
    rfl

/-- A change that succeeds makes a pool, or alters the object that it is
about. Nothing in it is refused. -/
theorem change_cases {ch : StoreChange} (hch : A.change ch = .ok B) :
    (∃ pool, ch = .createPool pool ∧ B = A.insertIfNew pool ∅) ∨
      ∃ id, ch.target? = some id ∧ id.pool ∈ A ∧ B = A.alter id ch.edit ∧ ch.refusal? = none := by
  cases htarget : ch.target? with
  | none =>
    cases ch with
    | createPool pool =>
      cases hch
      exact .inl ⟨pool, rfl, rfl⟩
    | _ => cases htarget
  | some id =>
    rw [change_of_target htarget] at hch
    split at hch
    next hpool =>
      cases hrefusal : ch.refusal? with
      | some cause =>
        rw [hrefusal] at hch
        cases hch
      | none =>
        rw [hrefusal] at hch
        cases hch
        exact .inr ⟨id, rfl, hpool, rfl, rfl⟩
    next => cases hch

/-- A change keeps empty keys out, since a batch that has one is refused. -/
theorem HasKeys.change (h : A.HasKeys) {ch : StoreChange} (hch : A.change ch = .ok B) :
    B.HasKeys := by
  intro other o ho
  obtain ⟨pool, rfl, rfl⟩ | ⟨id, htarget, hpool, rfl, hrefusal⟩ := change_cases hch
  · exact h other o ((object?_insertIfNew pool other).symm.trans ho)
  · rw [object?_alter hpool] at ho
    split at ho
    next =>
      -- Only the object that is written could get one.
      have hbefore : "" ∉ ((A.object? id).getD .blank).map := by
        cases hid : A.object? id with
        | none => exact ExtTreeMap.not_mem_empty
        | some o => exact h id o hid
      cases ch with
      | createPool pool => cases htarget
      | replaceData id' data =>
        cases ho
        exact hbefore
      | removeObject id' => cases ho
      | writeEntries id' batch =>
        cases htarget
        cases ho
        have hkeys : "" ∉ batch.keys := (Batch.refusal?_eq_none_iff.mp hrefusal).2
        exact fun hmem => (StoredObject.mem_withPairs hmem).elim hkeys hbefore
    next => exact h other o ho

/-- So it does if it is refused, since then nothing has changed. -/
theorem HasKeys.after (h : A.HasKeys) (ch : StoreChange) : (A.after ch).HasKeys := by
  rw [Contents.after]
  cases hch : A.change ch with
  | error e => exact h
  | ok B => exact h.change hch

/-- Other objects are left alone, whether the change is made or refused. -/
theorem object?_after_of_ne (A : Contents) {ch : StoreChange} (h : ch.target? ≠ some id) :
    (A.after ch).object? id = A.object? id := by
  rw [after]
  cases hch : A.change ch with
  | error e => rfl
  | ok B =>
    rw [Except.toOption, Option.getD_some]
    obtain ⟨pool, rfl, rfl⟩ | ⟨id', htarget, hpool, rfl, -⟩ := change_cases hch
    · exact object?_insertIfNew pool id
    · have hne : id ≠ id' := fun heq => h (heq ▸ htarget)
      rw [object?_alter hpool, if_neg hne]

/-- Pools are made and never removed. No other change makes one. -/
theorem mem_after {ch : StoreChange} {pool : String} :
    pool ∈ A.after ch ↔ pool ∈ A ∨ ch = .createPool pool := by
  rw [after]
  cases hch : A.change ch with
  | error e =>
    have hnot : ch ≠ .createPool pool := by
      rintro rfl
      cases hch
    rw [Except.toOption, Option.getD_none, or_iff_left hnot]
  | ok B =>
    rw [Except.toOption, Option.getD_some]
    obtain ⟨pool', rfl, rfl⟩ | ⟨id, htarget, -, rfl, -⟩ := change_cases hch
    · rw [ExtTreeMap.mem_insertIfNew, Std.compare_eq_iff_eq, StoreChange.createPool.injEq, or_comm]
    · have hnot : ch ≠ .createPool pool := by
        rintro rfl
        cases htarget
      rw [mem_alter, or_iff_left hnot]

end Contents

/-! ### Tables that keep contents -/

/-- The tables keep the contents: a row for each pool, one for the data
of each object, and one for each key of its map. -/
structure Represents (ps : ExtTreeSet String) (os : Objects) (es : Entries) (A : Contents) : Prop where
  pools : ∀ pool, pool ∈ ps ↔ pool ∈ A
  objects : ∀ id : ObjectId, os[id]? = (A.object? id).map (·.data)
  entries : ∀ e : EntryId, es[e]? = (A.object? e.target).bind (·.map[e.key]?)

/-- Every row has the rows that it needs, no map has an empty key, and no
two rows of a table agree in their key columns. -/
structure IsIntact (ps : ExtTreeSet String) (os : Objects) (es : Entries) : Prop where
  object_of_entry : ∀ e ∈ es, e.target ∈ os
  pool_of_object : ∀ id ∈ os, id.pool ∈ ps
  key_ne_empty : ∀ e ∈ es, e.key ≠ ""
  nodup_pools : ps.toList.Nodup
  nodup_objects : os.keys.Nodup
  nodup_entries : es.keys.Nodup

namespace Represents

variable {ps : ExtTreeSet String} {os : Objects} {es : Entries} {A B : Contents} {id : ObjectId}

/-- A new store has three empty tables, which keep no pools at all. -/
theorem empty : Represents ∅ ∅ ∅ ∅ where
  pools pool := by simp
  objects id := by simp [Contents.object?]
  entries e := by simp [Contents.object?]

/-- The tables tell what an object is: its row has the data, and the rows
with its name have the map. -/
theorem object?_unique (hA : Represents ps os es A) (hB : Represents ps os es B) (id : ObjectId) :
    A.object? id = B.object? id := by
  have hdata : (A.object? id).map (·.data) = (B.object? id).map (·.data) :=
    (hA.objects id).symm.trans (hB.objects id)
  have hvalue (key : String) : (A.object? id).bind (·.map[key]?) = (B.object? id).bind (·.map[key]?) :=
    (hA.entries ⟨id, key⟩).symm.trans (hB.entries ⟨id, key⟩)
  cases hoA : A.object? id with
  | none =>
    rw [hoA] at hdata
    exact (Option.map_eq_none_iff.mp hdata.symm).symm
  | some o =>
    cases hoB : B.object? id with
    | none =>
      rw [hoA, hoB] at hdata
      cases hdata
    | some o' =>
      rw [hoA, hoB] at hdata
      simp only [hoA, hoB, Option.bind_some] at hvalue
      obtain ⟨data, map⟩ := o
      obtain ⟨data', map'⟩ := o'
      obtain rfl : data = data' := Option.some.inj hdata
      obtain rfl : map = map' := ExtTreeMap.ext_getElem? hvalue
      rfl

/-- Tables keep one content. So nothing has to be remembered besides them. -/
theorem unique (hA : Represents ps os es A) (hB : Represents ps os es B) : A = B := by
  refine ExtTreeMap.ext_getElem? fun {pool} => ?_
  have hpool : pool ∈ A ↔ pool ∈ B := (hA.pools pool).symm.trans (hB.pools pool)
  cases hobjA : A[pool]? with
  | none =>
    have hnot : pool ∉ B := fun hmem => by
      simpa [hobjA] using ExtTreeMap.mem_iff_isSome_getElem?.mp (hpool.mpr hmem)
    exact (ExtTreeMap.getElem?_eq_none hnot).symm
  | some objects =>
    have hmem : pool ∈ B := hpool.mp (ExtTreeMap.mem_iff_isSome_getElem?.mpr (by rw [hobjA]; rfl))
    obtain ⟨objects', hobjB⟩ := Option.isSome_iff_exists.mp (ExtTreeMap.mem_iff_isSome_getElem?.mp hmem)
    have hobject (object : String) : objects[object]? = objects'[object]? := by
      have hsame := hA.object?_unique hB ⟨pool, object⟩
      simpa only [Contents.object?, hobjA, hobjB, Option.bind_some] using hsame
    rw [hobjB, ExtTreeMap.ext_getElem? hobject]

/-- Tables that keep contents are intact, because contents can't be
otherwise. -/
theorem isIntact (h : Represents ps os es A) (hkeys : A.HasKeys) : IsIntact ps os es where
  object_of_entry e he := by
    rw [ExtTreeMap.mem_iff_isSome_getElem?, h.entries] at he
    rw [ExtTreeMap.mem_iff_isSome_getElem?, h.objects]
    cases ho : A.object? e.target with
    | none => simp [ho] at he
    | some o => rfl
  pool_of_object id hid := by
    rw [ExtTreeMap.mem_iff_isSome_getElem?, h.objects] at hid
    cases ho : A.object? id with
    | none => simp [ho] at hid
    | some o => exact (h.pools id.pool).mpr (Contents.pool_mem_of_object? ho)
  key_ne_empty e he hempty := by
    rw [ExtTreeMap.mem_iff_isSome_getElem?, h.entries] at he
    cases ho : A.object? e.target with
    | none => simp [ho] at he
    | some o =>
      refine hkeys _ o ho ?_
      rw [ExtTreeMap.mem_iff_isSome_getElem?, ← hempty]
      simpa [ho] using he
  nodup_pools := ExtTreeSet.distinct_toList.imp fun hne heq => hne (Std.compare_eq_iff_eq.mpr heq)
  nodup_objects := ExtTreeMap.nodup_keys
  nodup_entries := ExtTreeMap.nodup_keys

/-- What is not there has no map. A map without its object can't be in a
store that holds contents. -/
theorem ofObject_eq_empty (h : Represents ps os es A) (hnone : A.object? id = none) :
    es.ofObject id = ∅ := by
  ext e v
  rw [Entries.getElem?_ofObject, h.entries]
  split
  next ht => simp [ht, hnone]
  next => simp

/-- A map has as many rows as keys, so counting rows counts keys. -/
theorem size_ofObject (h : Represents ps os es A) (id : ObjectId) :
    (es.ofObject id).size = A.mapSize id := by
  cases ho : A.object? id with
  | none =>
    simp [h.ofObject_eq_empty ho, Contents.mapSize, ho]
  | some o =>
    -- The rows are what writing the map's pairs into an empty table gives.
    let pairs := o.map.toList.map fun p => Pair.mk p.1 p.2
    have hkeys : pairs.map Pair.key = o.map.keys := by
      rw [← ExtTreeMap.map_fst_toList_eq_keys, List.map_map]
      rfl
    have hnodup : (pairs.map Pair.key).Nodup := hkeys ▸ ExtTreeMap.nodup_keys
    have hlast (key : String) : Entries.lastValue key pairs = o.map[key]? := by
      ext value
      rw [Entries.lastValue_eq_some_iff hnodup, List.mem_map,
        ← ExtTreeMap.mem_toList_iff_getElem?_eq_some]
      constructor
      · rintro ⟨⟨k, v⟩, hmem, heq⟩
        cases heq
        exact hmem
      · exact fun hmem => ⟨_, hmem, rfl⟩
    have hrows : es.ofObject id = Entries.write id ∅ pairs := by
      refine ExtTreeMap.ext_getElem? fun {e} => ?_
      rw [Entries.getElem?_ofObject, Entries.getElem?_write, hlast, h.entries]
      split
      next ht => simp [ht, ho]
      next => simp
    rw [hrows, Entries.size_write hnodup fun _ _ => ExtTreeMap.not_mem_empty, List.length_map,
      ExtTreeMap.length_toList, Contents.mapSize, ho]
    exact Nat.zero_add _

/-- A new pool gets a row. That of an old one is there already. -/
theorem insertPool (h : Represents ps os es A) (pool : String) :
    Represents (ps.insert pool) os es (A.insertIfNew pool ∅) where
  pools other := by
    rw [ExtTreeSet.mem_insert, ExtTreeMap.mem_insertIfNew, h.pools]
  objects id := by rw [h.objects, Contents.object?_insertIfNew]
  entries e := by rw [h.entries, Contents.object?_insertIfNew]

/-- An object's rows change with the object, and no others. The three
operations on objects are cases of this. -/
theorem alter (h : Represents ps os es A) (hpool : id.pool ∈ ps)
    {f : Option StoredObject → Option StoredObject} {os' : Objects} {es' : Entries}
    (hobjects : ∀ o : ObjectId, os'[o]? =
      if o = id then (f (A.object? id)).map (·.data) else os[o]?)
    (hentries : ∀ e : EntryId, es'[e]? =
      if e.target = id then (f (A.object? id)).bind (·.map[e.key]?) else es[e]?) :
    Represents ps os' es' (A.alter id f) where
  pools pool := (h.pools pool).trans Contents.mem_alter.symm
  objects o := by
    rw [hobjects, Contents.object?_alter ((h.pools _).mp hpool), h.objects]
    split <;> rfl
  entries e := by
    rw [hentries, Contents.object?_alter ((h.pools _).mp hpool), h.entries]
    split <;> rfl

/-- The row of an object with other data, made if it wasn't there. -/
theorem replaceData (h : Represents ps os es A) (hpool : id.pool ∈ ps) (data : List UInt8) :
    Represents ps (os.insert id data) es
      (A.alter id fun o => some ((o.getD .blank).withData data)) := by
  refine h.alter hpool (fun o => ?_) fun e => ?_
  · rw [ExtTreeMap.getElem?_insert]
    simp only [Std.compare_eq_iff_eq, eq_comm (a := id)]
    rfl
  · rw [h.entries]
    split
    next ht =>
      rw [ht]
      cases A.object? id with
      | none => exact ExtTreeMap.getElem?_empty.symm
      | some o => rfl
    next => rfl

/-- An object that is removed leaves no rows behind. -/
theorem removeObject (h : Represents ps os es A) (hpool : id.pool ∈ ps) :
    Represents ps (os.erase id) (es.notOf id) (A.alter id fun _ => none) := by
  refine h.alter hpool (fun o => ?_) fun e => Entries.getElem?_notOf id es e
  rw [ExtTreeMap.getElem?_erase]
  simp only [Std.compare_eq_iff_eq, eq_comm (a := id)]
  rfl

/-- The rows of a map after a batch, and the row of its object, made if it
wasn't there. -/
theorem writeEntries (h : Represents ps os es A) (hpool : id.pool ∈ ps) (pairs : List Pair) :
    Represents ps (os.insertIfNew id []) (es.write id pairs)
      (A.alter id fun o => some ((o.getD .blank).withPairs pairs)) := by
  refine h.alter hpool (fun o => ?_) fun e => ?_
  · rw [Objects.getElem?_insertIfNew, h.objects id]
    cases A.object? id <;> rfl
  · rw [Entries.getElem?_write, Option.bind_some, StoredObject.getElem?_withPairs]
    split
    next ht =>
      rw [h.entries, ht]
      cases A.object? id with
      | none => rw [Option.getD_none, StoredObject.blank, ExtTreeMap.getElem?_empty]; rfl
      | some o => rfl
    next => rfl

end Represents

/-! ### Operations -/

/-- The store has all its tables, and they keep the contents. -/
def Tables.Holds (t : Tables) (A : Contents) : Prop :=
  ∃ ps os es, t = ⟨some ps, some os, some es⟩ ∧ Represents ps os es A

/-- The store has all its tables, and they are intact and keep these
contents and no others. -/
def Tables.HoldsExactly (t : Tables) (A : Contents) : Prop :=
  ∃ ps os es, t = ⟨some ps, some os, some es⟩ ∧ Represents ps os es A ∧
    (∀ B, Represents ps os es B → B = A) ∧ IsIntact ps os es

/-- The data of an object, if it has a row. In a store without a table of
objects there is none. -/
def Tables.dataOf (t : Tables) (id : ObjectId) : Option (List UInt8) :=
  t.objects.bind (·[id]?)

/-- The rows of an object's map, if there is a table for them. -/
def Tables.mapOf (t : Tables) (id : ObjectId) : Option Entries :=
  t.entries.map (Entries.ofObject id)

/-- Leaving out an object leaves the data of all others. -/
theorem Tables.dataOf_without {id other : ObjectId} (h : other ≠ id) (t : Tables) :
    (t.without id).dataOf other = t.dataOf other := by
  simp only [dataOf, without]
  cases t.objects with
  | none => rfl
  | some os =>
    have hne : ¬ compare id other = .eq := fun heq => h (Std.compare_eq_iff_eq.mp heq).symm
    exact ExtTreeMap.getElem?_erase.trans (if_neg hne)

/-- It leaves their maps, too. Each row of a map names its object. -/
theorem Tables.mapOf_without {id other : ObjectId} (h : other ≠ id) (t : Tables) :
    (t.without id).mapOf other = t.mapOf other := by
  simp only [mapOf, without]
  cases t.entries with
  | none => rfl
  | some es => exact congrArg some (Entries.ofObject_notOf_of_ne h es)

namespace Tables.Holds

variable {t t' : Tables} {c : Connection} {A B : Contents}

/-- Tables that hold contents without empty keys hold exactly these, and are
intact. -/
theorem exactly (h : t.Holds A) (hkeys : A.HasKeys) : t.HoldsExactly A := by
  obtain ⟨ps, os, es, htables, hrep⟩ := h
  exact ⟨ps, os, es, htables, hrep, fun _ hrep' => hrep'.unique hrep, hrep.isIntact hkeys⟩

/-- A store that lacks no table stays as it is when it is opened. -/
theorem complete (h : t.Holds A) : t.complete = t := by
  obtain ⟨ps, os, es, rfl, -⟩ := h
  rfl

/-- The tables have the pools of the contents. -/
theorem hasPool_iff (h : t.Holds A) (pool : String) : t.HasPool pool ↔ pool ∈ A := by
  obtain ⟨ps, os, es, rfl, hrep⟩ := h
  rw [Tables.hasPool_iff_mem rfl, hrep.pools]

/-- They have the data of its objects, and none for those that aren't there. -/
theorem dataOf_eq (h : t.Holds A) (id : ObjectId) : t.dataOf id = (A.object? id).map (·.data) := by
  obtain ⟨ps, os, es, rfl, hrep⟩ := h
  exact hrep.objects id

/-- What is not there has no map in the tables. -/
theorem mapOf_eq_empty (h : t.Holds A) {id : ObjectId} (hnone : A.object? id = none) :
    t.mapOf id = some ∅ := by
  obtain ⟨ps, os, es, rfl, hrep⟩ := h
  exact congrArg some (hrep.ofObject_eq_empty hnone)

/-- A map has as many rows as keys, and there is a table for them. -/
theorem size_mapOf (h : t.Holds A) (id : ObjectId) :
    ∃ rows, t.mapOf id = some rows ∧ rows.size = A.mapSize id := by
  obtain ⟨ps, os, es, rfl, hrep⟩ := h
  exact ⟨_, rfl, hrep.size_ofObject id⟩

/-- A change of the tables is the change of the contents: it ends in the
same way, and leaves tables that keep the contents after it. -/
theorem run_change (h : c.tables.Holds A) (ch : StoreChange) :
    (ch.run.run c).1 = (A.change ch).map (fun _ => ()) ∧
      (ch.run.run c).2.tables.Holds (A.after ch) := by
  obtain ⟨ps, os, es, htables, hrep⟩ := h
  -- Each change is run on the tables, and the same conditions decide on both sides.
  cases ch with
  | createPool pool =>
    simp only [StoreChange.run, Store.createPool, Store.run_insertPool, htables]
    exact ⟨rfl, _, _, _, rfl, hrep.insertPool pool⟩
  | replaceData id data =>
    simp only [StoreChange.run, Store.run_replaceData data htables, Contents.after, Contents.change,
      ← hrep.pools, StoreChange.refusal?]
    split
    next hpool =>
      by_cases hfits : (Row.ofObject id data).Fits
      · simp only [if_pos hfits]
        exact ⟨rfl, _, _, _, rfl, hrep.replaceData hpool data⟩
      · simp only [if_neg hfits]
        exact ⟨rfl, ps, os, es, htables, hrep⟩
    next => exact ⟨rfl, ps, os, es, htables, hrep⟩
  | removeObject id =>
    simp only [StoreChange.run, Store.run_removeObject htables, Contents.after, Contents.change,
      ← hrep.pools]
    split
    next hpool => exact ⟨rfl, _, _, _, rfl, hrep.removeObject hpool⟩
    next => exact ⟨rfl, ps, os, es, htables, hrep⟩
  | writeEntries id batch =>
    simp only [StoreChange.run, Store.run_writeEntries batch htables, Contents.after,
      Contents.change, ← hrep.pools, StoreChange.refusal?]
    split
    next hpool =>
      cases batch.refusal? id with
      | some cause => exact ⟨rfl, ps, os, es, htables, hrep⟩
      | none => exact ⟨rfl, _, _, _, rfl, hrep.writeEntries hpool batch.pairs⟩
    next => exact ⟨rfl, ps, os, es, htables, hrep⟩

/-- Whether the tables have a pool is whether the contents have it. Asking
changes nothing. -/
theorem run_hasPool (h : c.tables.Holds A) (pool : String) :
    (Store.hasPool pool).run c = (.ok (A.contains pool), c) := by
  obtain ⟨ps, os, es, htables, hrep⟩ := h
  rw [Store.run_hasPool, htables]
  refine Prod.ext (congrArg Except.ok (Bool.eq_iff_iff.mpr ?_)) rfl
  exact hrep.pools pool

/-- The number that is told of a map is the number of its keys. It is a
word of 64 bits. -/
theorem run_mapSize (h : c.tables.Holds A) (id : ObjectId) :
    (Store.mapSize id).run c = (.ok (A.mapSize id % UInt64.size), c) := by
  obtain ⟨ps, os, es, htables, hrep⟩ := h
  rw [Store.run_mapSize htables, hrep.size_ofObject]
  rfl

end Tables.Holds

end MapBench
