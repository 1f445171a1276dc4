import MapBench.Batch.Basic
import MapBench.Store.Tables

/-!
# `MapBench.Proofs.Store.Rows`: the rows of one object

Most operations on a store are about one object, so the rows of a
table fall into two parts: those of the object, and all others. This
module has the two parts as functions of the tables, and says how
each way of changing a table acts on them.

* `Entries.ofObject`, `Entries.notOf`: the rows of an object's map,
  and the rows of all other maps.
* `Entries.write`: the rows after pairs were written into a map, with
  `getElem?_write` for what they are.
* `Tables.without`: everything in a store but one object. Two stores
  with the same `without id` differ at most in the rows of `id`.
-/

set_option autoImplicit false

namespace MapBench

open Std

/-- The rows of the map table. -/
abbrev Entries := ExtTreeMap EntryId (List UInt8)

/-- The rows of the object table. -/
abbrev Objects := ExtTreeMap ObjectId (List UInt8)

namespace Entries

/-- The rows of one object's map. -/
def ofObject (id : ObjectId) (es : Entries) : Entries :=
  es.filter fun e _ => e.target == id

/-- The rows of all maps but one object's. -/
def notOf (id : ObjectId) (es : Entries) : Entries :=
  es.filter fun e _ => e.target != id

/-- The rows after pairs were written one after another. A later pair
replaces an earlier one with the same key. -/
def write (id : ObjectId) (es : Entries) (pairs : List Pair) : Entries :=
  pairs.foldl (fun es p => es.insert ⟨id, p.key⟩ p.value) es

/-- A row of an object's map is a row of the table with that object as
its target. -/
theorem getElem?_ofObject (id : ObjectId) (es : Entries) (e : EntryId) :
    (es.ofObject id)[e]? = if e.target = id then es[e]? else none := by
  rw [ofObject, ExtTreeMap.getElem?_filter']
  by_cases h : e.target = id <;> cases es[e]? <;> simp [h]

/-- A row of another map is a row of the table with another target. -/
theorem getElem?_notOf (id : ObjectId) (es : Entries) (e : EntryId) :
    (es.notOf id)[e]? = if e.target = id then none else es[e]? := by
  rw [notOf, ExtTreeMap.getElem?_filter']
  by_cases h : e.target = id <;> cases es[e]? <;> simp [h]

/-- A row that is added to a map shows among the rows of that map. -/
theorem ofObject_insert (id : ObjectId) (es : Entries) (key : String) (value : List UInt8) :
    ofObject id (es.insert ⟨id, key⟩ value) = (es.ofObject id).insert ⟨id, key⟩ value := by
  ext e v
  simp only [getElem?_ofObject, ExtTreeMap.getElem?_insert, Std.compare_eq_iff_eq]
  by_cases h : EntryId.mk id key = e
  · subst h
    simp
  · simp [h]

/-- A row that is added to a map doesn't show among the others. -/
theorem notOf_insert (id : ObjectId) (es : Entries) (key : String) (value : List UInt8) :
    notOf id (es.insert ⟨id, key⟩ value) = es.notOf id := by
  ext e v
  simp only [getElem?_notOf, ExtTreeMap.getElem?_insert, Std.compare_eq_iff_eq]
  by_cases h : EntryId.mk id key = e
  · subst h
    simp
  · simp [h]

/-- What is left without a map has no rows of that map. -/
theorem ofObject_notOf (id : ObjectId) (es : Entries) : ofObject id (es.notOf id) = ∅ := by
  ext e v
  rw [getElem?_ofObject, getElem?_notOf]
  split <;> simp

/-- The rows of other maps are still there when a map is left out. -/
theorem ofObject_notOf_of_ne {id other : ObjectId} (h : other ≠ id) (es : Entries) :
    ofObject other (es.notOf id) = es.ofObject other := by
  ext e v
  rw [getElem?_ofObject, getElem?_ofObject, getElem?_notOf]
  by_cases ht : e.target = other
  · rw [if_pos ht, if_pos ht, if_neg (ht ▸ h)]
  · rw [if_neg ht, if_neg ht]

/-- Leaving out a map twice is leaving it out once. -/
theorem notOf_notOf (id : ObjectId) (es : Entries) : notOf id (es.notOf id) = es.notOf id := by
  ext e v
  rw [getElem?_notOf, getElem?_notOf]
  split <;> simp

/-- Writing into a map acts on the rows of that map as it does on the
whole table. -/
theorem ofObject_write (id : ObjectId) (es : Entries) (pairs : List Pair) :
    ofObject id (es.write id pairs) = (es.ofObject id).write id pairs := by
  induction pairs generalizing es with
  | nil => rfl
  | cons p ps ih =>
    change ofObject id (write id (es.insert ⟨id, p.key⟩ p.value) ps) = _
    rw [ih, ofObject_insert]
    rfl

/-- Writing into a map leaves all other maps alone, however many pairs there
are. -/
theorem notOf_write (id : ObjectId) (es : Entries) (pairs : List Pair) :
    notOf id (es.write id pairs) = es.notOf id := by
  induction pairs generalizing es with
  | nil => rfl
  | cons p ps ih =>
    change notOf id (write id (es.insert ⟨id, p.key⟩ p.value) ps) = _
    rw [ih, notOf_insert]

/-- Writing pairs and then more is writing all of them. -/
theorem write_append (id : ObjectId) (es : Entries) (ps qs : List Pair) :
    es.write id (ps ++ qs) = (es.write id ps).write id qs :=
  List.foldl_append

/-- The value of the last pair with a key. Pairs that come later overwrite
those before. -/
def lastValue (key : String) : List Pair → Option (List UInt8)
  | [] => none
  | p :: ps => (lastValue key ps).or (if p.key = key then some p.value else none)

/-- A row that was written has the value of the last pair with its
key. A row that wasn't is as it was. -/
theorem getElem?_write (id : ObjectId) (es : Entries) (pairs : List Pair) (e : EntryId) :
    (es.write id pairs)[e]? =
      if e.target = id then (lastValue e.key pairs).or es[e]? else es[e]? := by
  induction pairs generalizing es with
  | nil => simp [write, lastValue]
  | cons p ps ih =>
    change (write id (es.insert ⟨id, p.key⟩ p.value) ps)[e]? = _
    rw [ih, ExtTreeMap.getElem?_insert]
    obtain ⟨target, key⟩ := e
    by_cases ht : target = id
    · subst ht
      by_cases hk : p.key = key <;> cases hlast : lastValue key ps <;> simp [lastValue, hk, hlast]
    · simp [ht, Ne.symm ht]

/-- Pairs that come later decide, if they have the key at all. -/
theorem lastValue_append (key : String) (ps qs : List Pair) :
    lastValue key (ps ++ qs) = (lastValue key qs).or (lastValue key ps) := by
  induction ps with
  | nil => rw [List.nil_append, lastValue, Option.or_none]
  | cons p ps ih => rw [List.cons_append, lastValue, ih, lastValue, Option.or_assoc]

/-- The last value of a key is that of a pair. -/
theorem mem_of_lastValue {key : String} {pairs : List Pair} {value : List UInt8}
    (h : lastValue key pairs = some value) : Pair.mk key value ∈ pairs := by
  induction pairs with
  | nil => cases h
  | cons p ps ih =>
    rw [lastValue, Option.or_eq_some_iff] at h
    rcases h with h | ⟨-, h⟩
    · exact List.mem_cons_of_mem _ (ih h)
    · split at h
      next hk =>
        cases h
        rw [← hk]
        exact List.mem_cons_self
      next => cases h

/-- A key that a pair has, has a last value. A batch may give several, and
the last one stays. -/
theorem exists_lastValue {key : String} {pairs : List Pair} (h : key ∈ pairs.map Pair.key) :
    ∃ value, lastValue key pairs = some value := by
  induction pairs with
  | nil => cases h
  | cons p ps ih =>
    rw [lastValue]
    cases hlast : lastValue key ps with
    | some value => exact ⟨value, rfl⟩
    | none =>
      rcases List.mem_cons.mp h with rfl | hmem
      · exact ⟨p.value, by simp⟩
      · obtain ⟨value, hvalue⟩ := ih hmem
        simp [hlast] at hvalue

/-- Among pairs with different keys, the last pair with a key is the
only one. -/
theorem lastValue_eq_some_iff {pairs : List Pair} (h : (pairs.map Pair.key).Nodup) {key : String}
    {value : List UInt8} : lastValue key pairs = some value ↔ Pair.mk key value ∈ pairs := by
  refine ⟨mem_of_lastValue, fun hmem => ?_⟩
  induction pairs with
  | nil => cases hmem
  | cons p ps ih =>
    rw [List.map_cons, List.nodup_cons] at h
    rcases List.mem_cons.mp hmem with rfl | hmem
    · have hnone : lastValue key ps = none := by
        cases hlast : lastValue key ps with
        | none => rfl
        | some v => exact absurd (List.mem_map_of_mem (mem_of_lastValue hlast)) h.1
      simp [lastValue, hnone]
    · rw [lastValue, ih h.2 hmem, Option.some_or]

/-- Pairs with different keys that are all new add a row each. This is what
the batches of a run do. -/
theorem size_write {id : ObjectId} {es : Entries} {pairs : List Pair}
    (h : (pairs.map Pair.key).Nodup) (hnew : ∀ p ∈ pairs, (EntryId.mk id p.key) ∉ es) :
    (es.write id pairs).size = es.size + pairs.length := by
  induction pairs generalizing es with
  | nil => rfl
  | cons p ps ih =>
    rw [List.map_cons, List.nodup_cons] at h
    have hrest : ∀ q ∈ ps, (EntryId.mk id q.key) ∉ es.insert ⟨id, p.key⟩ p.value := by
      intro q hq hin
      rw [ExtTreeMap.mem_insert, Std.compare_eq_iff_eq, EntryId.mk.injEq] at hin
      rcases hin with ⟨-, hkey⟩ | hin
      · exact h.1 (hkey ▸ List.mem_map_of_mem hq)
      · exact hnew q (List.mem_cons_of_mem _ hq) hin
    change (write id (es.insert ⟨id, p.key⟩ p.value) ps).size = _
    have hfirst : ¬ es.contains ⟨id, p.key⟩ = true := fun hin =>
      hnew p List.mem_cons_self (ExtTreeMap.mem_iff_contains.mpr hin)
    rw [ih h.2 hrest, ExtTreeMap.size_insert, if_neg hfirst, List.length_cons]
    omega

end Entries

namespace Objects

/-- An object's new row doesn't show once the object is left out. -/
theorem erase_insert (id : ObjectId) (os : Objects) (data : List UInt8) :
    (os.insert id data).erase id = os.erase id := by
  ext o d
  simp only [ExtTreeMap.getElem?_erase, ExtTreeMap.getElem?_insert, Std.compare_eq_iff_eq]
  split <;> simp_all

/-- Nor does a row that is made for want of one. -/
theorem erase_insertIfNew (id : ObjectId) (os : Objects) (data : List UInt8) :
    (os.insertIfNew id data).erase id = os.erase id := by
  ext o d
  simp only [ExtTreeMap.getElem?_erase, ExtTreeMap.getElem?_insertIfNew, Std.compare_eq_iff_eq]
  split <;> simp_all

/-- The new object has no data, and a row that is there stays. -/
theorem getElem?_insertIfNew (id : ObjectId) (os : Objects) (o : ObjectId) :
    (os.insertIfNew id [])[o]? = if o = id then some (os[id]?.getD []) else os[o]? := by
  rw [ExtTreeMap.getElem?_insertIfNew]
  simp only [Std.compare_eq_iff_eq]
  by_cases ho : o = id
  · subst ho
    by_cases hmem : o ∈ os <;> simp [hmem]
  · simp [ho, Ne.symm ho]

/-- No row is made for want of one if there is one. -/
theorem insertIfNew_of_mem {id : ObjectId} {os : Objects} (h : id ∈ os) (data : List UInt8) :
    os.insertIfNew id data = os := by
  ext o d
  simp [ExtTreeMap.getElem?_insertIfNew, h]

/-- Leaving out an object twice is leaving it out once. -/
theorem erase_erase (id : ObjectId) (os : Objects) : (os.erase id).erase id = os.erase id := by
  ext o d
  simp only [ExtTreeMap.getElem?_erase, Std.compare_eq_iff_eq]
  split <;> simp_all

end Objects

/-- A store lacks no table if completing it makes none. -/
theorem Tables.complete_eq_iff {t : Tables} :
    t.complete = t ↔ ∃ (ps : ExtTreeSet String) (os : Objects) (es : Entries),
      t = ⟨some ps, some os, some es⟩ := by
  constructor
  · intro h
    exact ⟨_, _, _, h.symm⟩
  · rintro ⟨ps, os, es, rfl⟩
    rfl

/-- Everything in a store but the rows of one object. What an operation on
that object leaves alone is said with it. -/
def Tables.without (id : ObjectId) (t : Tables) : Tables :=
  ⟨t.pools, t.objects.map (·.erase id), t.entries.map (Entries.notOf id)⟩

/-- The rows after a batch was written into the map of an object. A table
that is missing is still missing. -/
def Tables.withEntries (id : ObjectId) (batch : Batch) (t : Tables) : Tables :=
  ⟨t.pools, t.objects.map (·.insertIfNew id []), t.entries.map (Entries.write id · batch.pairs)⟩

/-- Whether a store has a pool. A store without the table of pools has
none. -/
def Tables.HasPool (t : Tables) (pool : String) : Prop :=
  ∃ ps, t.pools = some ps ∧ pool ∈ ps

/-- A store has the pools of its table. Without the table it has none, and
can't say so. -/
theorem Tables.hasPool_iff_mem {t : Tables} {ps : ExtTreeSet String} (h : t.pools = some ps)
    (pool : String) : t.HasPool pool ↔ pool ∈ ps := by
  simp only [HasPool, h, Option.some.injEq, exists_eq_left']

/-- Whether a store has a row for a key of an object's map. -/
def Tables.HasEntry (t : Tables) (e : EntryId) : Prop :=
  ∃ es, t.entries = some es ∧ e ∈ es

/-- The value of a key in an object's map. There is none without the table
of maps. -/
def Tables.valueOf (t : Tables) (id : ObjectId) (key : String) : Option (List UInt8) :=
  t.entries.bind (·[EntryId.mk id key]?)

/-- An object that was left out has no map, so no key has a value there. -/
theorem Tables.valueOf_without (t : Tables) (id : ObjectId) (key : String) :
    (t.without id).valueOf id key = none := by
  rw [valueOf, without]
  cases t.entries with
  | none => rfl
  | some es => exact (Entries.getElem?_notOf id es ⟨id, key⟩).trans (if_pos rfl)

end MapBench
