import MapBench.Proofs.Store.Contents

/-!
# `MapBench.Proofs.Store.Lasting`: what a write leaves until it is overwritten

A write leaves something that can be found later: an object, its data, a
value in its map, or that there is no object any more. It can be found
until a change overwrites or removes just that.

* `Mark`: what a write can leave. `Mark.IsIn`: the tables show it.
* `StoreChange.Writes`, `StoreChange.Overwrites`: the changes that leave
  it, and those after which it may be gone.
* `Contents.made`: the changes of a list that a store doesn't refuse.
* `Contents.bears_after_of_writes`, `Contents.Bears.foldl_after`: it is
  there after the change, and stays until one that is made overwrites it.
* `Tables.Holds.isIn_iff`: tables show what their contents bear.
-/

set_option autoImplicit false

namespace MapBench

open Std

/-- Something that a write leaves in a store. That an object is gone is left
by a write, too. -/
inductive Mark
  /-- There is an object of this name. -/
  | present (id : ObjectId)
  /-- It has this data. -/
  | data (id : ObjectId) (bytes : List UInt8)
  /-- Its map has this value under a key. -/
  | entry (id : ObjectId) (key : String) (value : List UInt8)
  /-- There is no such object. -/
  | absent (id : ObjectId)
  deriving Repr, DecidableEq

namespace Mark

/-- The object that a mark is about. Changes of other objects can't touch
it. -/
def target : Mark → ObjectId
  | present id | data id _ | entry id _ _ | absent id => id

/-- The object is as the mark says. Only the part that the mark is about is
looked at. -/
def Fits : Mark → Option StoredObject → Prop
  | present _, o => o.isSome = true
  | data _ bytes, o => o.map (·.data) = some bytes
  | entry _ key value, o => o.bind (·.map[key]?) = some value
  | absent _, o => o = none

/-- The tables show the mark. This is said of rows, and not of the contents
that they hold. -/
def IsIn : Mark → Tables → Prop
  | present id, t => (t.dataOf id).isSome = true
  | data id bytes, t => t.dataOf id = some bytes
  | entry id key value, t => t.valueOf id key = some value
  | absent id, t => t.dataOf id = none ∧ t.mapOf id = some ∅

end Mark

/-- If the change succeeds, it leaves the mark. Of several values for a
key, the last one is left. -/
inductive StoreChange.Writes : StoreChange → Mark → Prop
  | object (id : ObjectId) (data : List UInt8) : Writes (.replaceData id data) (.present id)
  | data (id : ObjectId) (data : List UInt8) : Writes (.replaceData id data) (.data id data)
  | mapped (id : ObjectId) (batch : Batch) : Writes (.writeEntries id batch) (.present id)
  | entry (id : ObjectId) {batch : Batch} {key : String} {value : List UInt8}
      (h : Entries.lastValue key batch.pairs = some value) :
      Writes (.writeEntries id batch) (.entry id key value)
  | absent (id : ObjectId) : Writes (.removeObject id) (.absent id)

/-- The change overwrites or removes what the mark tells. Other data leaves
the map alone, and a batch only its own keys. -/
inductive StoreChange.Overwrites : StoreChange → Mark → Prop
  | data (id : ObjectId) (old new : List UInt8) : Overwrites (.replaceData id new) (.data id old)
  | entry (id : ObjectId) {batch : Batch} {key : String} (value : List UInt8)
      (h : key ∈ batch.keys) : Overwrites (.writeEntries id batch) (.entry id key value)
  | removed {mark : Mark} (h : mark ≠ .absent mark.target) :
      Overwrites (.removeObject mark.target) mark
  | object (id : ObjectId) (data : List UInt8) : Overwrites (.replaceData id data) (.absent id)
  | mapped (id : ObjectId) (batch : Batch) : Overwrites (.writeEntries id batch) (.absent id)

namespace Mark

variable {mark : Mark} {ch : StoreChange}

/-- Whatever the object was before, it is as written afterwards. -/
theorem fits_edit_of_writes (h : ch.Writes mark) (o : Option StoredObject) :
    ch.target? = some mark.target ∧ mark.Fits (ch.edit o) := by
  cases h with
  | object id data => exact ⟨rfl, rfl⟩
  | data id data => exact ⟨rfl, rfl⟩
  | mapped id batch => exact ⟨rfl, rfl⟩
  | entry id hlast =>
    refine ⟨rfl, ?_⟩
    simp only [Fits, StoreChange.edit, Option.bind_some, StoredObject.getElem?_withPairs, hlast,
      Option.some_or]
  | absent id => exact ⟨rfl, rfl⟩

/-- Unless it is overwritten, an object that is edited still is as it was
written. -/
theorem Fits.edit {o : Option StoredObject} (h : mark.Fits o) (htarget : ch.target? = some mark.target)
    (hnot : ¬ ch.Overwrites mark) : mark.Fits (ch.edit o) := by
  -- The change is of the same object as the mark, so all that is left is which part of it
  -- changes.
  cases ch with
  | createPool pool => cases htarget
  | replaceData id data =>
    obtain rfl : id = mark.target := Option.some.inj htarget
    cases mark with
    | present id => rfl
    | data id old => exact absurd (.data id old data) hnot
    | entry id key value =>
      cases o with
      | none => cases h
      | some o => exact h
    | absent id => exact absurd (.object id data) hnot
  | removeObject id =>
    obtain rfl : id = mark.target := Option.some.inj htarget
    cases mark with
    | absent id => rfl
    | _ => exact absurd (.removed (by simp)) hnot
  | writeEntries id batch =>
    obtain rfl : id = mark.target := Option.some.inj htarget
    cases mark with
    | present id => rfl
    | data id old =>
      cases o with
      | none => cases h
      | some o => exact h
    | entry id key value =>
      have hlast : Entries.lastValue key batch.pairs = none := by
        refine Option.eq_none_iff_forall_ne_some.mpr fun new hnew => hnot (.entry id value ?_)
        exact List.mem_map.mpr ⟨_, Entries.mem_of_lastValue hnew, rfl⟩
      cases o with
      | none => cases h
      | some o =>
        simp only [Fits, StoreChange.edit, Option.bind_some, Option.getD_some,
          StoredObject.getElem?_withPairs, hlast, Option.none_or]
        exact h
    | absent id => exact absurd (.mapped id batch) hnot

end Mark

/-! ### Contents -/

/-- The contents bear the mark: its object is there as the mark says, or is
gone if it says that. -/
def Contents.Bears (A : Contents) (mark : Mark) : Prop :=
  mark.Fits (A.object? mark.target)

namespace Contents

variable {A B : Contents} {mark : Mark} {ch : StoreChange}

/-- A change that is made leaves what it makes. -/
theorem after_of_ok (hch : A.change ch = .ok B) : A.after ch = B := by
  rw [after, hch]
  rfl

/-- A change that is refused leaves everything as it was. -/
theorem after_of_error {e : StoreError} (hch : A.change ch = .error e) : A.after ch = A := by
  rw [after, hch]
  rfl

/-- What a change wrote is there after it, if it wasn't refused. -/
theorem bears_after_of_writes (hch : A.change ch = .ok B) (hwrites : ch.Writes mark) :
    (A.after ch).Bears mark := by
  rw [after_of_ok hch, Bears]
  obtain ⟨htarget, hfits⟩ := Mark.fits_edit_of_writes hwrites (A.object? mark.target)
  obtain ⟨pool, rfl, -⟩ | ⟨id, hid, hpool, rfl, -⟩ := change_cases hch
  · cases htarget
  · obtain rfl : id = mark.target := Option.some.inj (hid.symm.trans htarget)
    rwa [object?_alter hpool, if_pos rfl]

/-- What is there stays until a change overwrites it. A change that is
refused can't. -/
theorem Bears.after (h : A.Bears mark) (hnot : ¬ ch.Overwrites mark) : (A.after ch).Bears mark := by
  by_cases htarget : ch.target? = some mark.target
  · cases hch : A.change ch with
    | error e =>
      rw [after_of_error hch]
      exact h
    | ok B =>
      rw [after_of_ok hch, Bears]
      obtain ⟨pool, rfl, -⟩ | ⟨id, hid, hpool, rfl, -⟩ := change_cases hch
      · cases htarget
      · obtain rfl : id = mark.target := Option.some.inj (hid.symm.trans htarget)
        rw [object?_alter hpool, if_pos rfl]
        exact h.edit htarget hnot
  · rw [Bears, object?_after_of_ne A htarget]
    exact h

/-- The changes of a list that are made, where the others are refused. Which
ones these are depends on what was made before: a pool that isn't there is
there once it was created. -/
def made : Contents → List StoreChange → List StoreChange
  | _, [] => []
  | A, ch :: changes =>
    match A.change ch with
    | .ok B => ch :: B.made changes
    | .error _ => A.made changes

/-- A change that is made is the first of those that are. -/
theorem made_cons_of_ok (hch : A.change ch = .ok B) (changes : List StoreChange) :
    A.made (ch :: changes) = ch :: (A.after ch).made changes := by
  rw [after_of_ok hch, made, hch]

/-- One that is refused is none of them. It leaves the contents as they were
for the next. -/
theorem made_cons_of_error {e : StoreError} (hch : A.change ch = .error e)
    (changes : List StoreChange) : A.made (ch :: changes) = A.made changes := by
  rw [made, hch]

/-- What is refused makes no difference. So only the changes that are made
have to be looked at. -/
theorem foldl_after_made (A : Contents) (changes : List StoreChange) :
    (A.made changes).foldl Contents.after A = changes.foldl Contents.after A := by
  induction changes generalizing A with
  | nil => rfl
  | cons ch changes ih =>
    cases hch : A.change ch with
    | ok B =>
      rw [made_cons_of_ok hch]
      exact ih _
    | error e =>
      rw [made_cons_of_error hch, List.foldl_cons, after_of_error hch]
      exact ih A

/-- What is there stays through any number of changes, if those of them that
are made don't overwrite it. A change that is refused may be any. -/
theorem Bears.foldl_after (h : A.Bears mark) {changes : List StoreChange}
    (hnot : ∀ ch ∈ A.made changes, ¬ ch.Overwrites mark) :
    (changes.foldl Contents.after A).Bears mark := by
  induction changes generalizing A with
  | nil => exact h
  | cons ch changes ih =>
    cases hch : A.change ch with
    | ok B =>
      rw [made_cons_of_ok hch, List.forall_mem_cons] at hnot
      exact ih (h.after hnot.1) hnot.2
    | error e =>
      rw [made_cons_of_error hch] at hnot
      rw [List.foldl_cons, after_of_error hch]
      exact ih h hnot

/-- A write that leaves a mark needs its pool. -/
theorem pool_mem_of_writes (hch : A.change ch = .ok B) (hwrites : ch.Writes mark) :
    mark.target.pool ∈ A := by
  obtain ⟨htarget, -⟩ := Mark.fits_edit_of_writes hwrites none
  obtain ⟨pool, rfl, -⟩ | ⟨id, hid, hpool, -, -⟩ := change_cases hch
  · cases htarget
  · obtain rfl : id = mark.target := Option.some.inj (hid.symm.trans htarget)
    exact hpool

/-- Pools stay, so the pool of a write is still there after any changes. -/
theorem mem_foldl_after {pool : String} (h : pool ∈ A) (changes : List StoreChange) :
    pool ∈ changes.foldl Contents.after A := by
  induction changes generalizing A with
  | nil => exact h
  | cons ch changes ih => exact ih (mem_after.mpr (.inl h))

end Contents

/-- Tables show exactly the marks that their contents bear. -/
theorem Tables.Holds.isIn_iff {t : Tables} {A : Contents} (h : t.Holds A) (mark : Mark) :
    mark.IsIn t ↔ A.Bears mark := by
  cases mark with
  | present id =>
    rw [Mark.IsIn, h.dataOf_eq, Option.isSome_map]
    rfl
  | data id data =>
    rw [Mark.IsIn, h.dataOf_eq]
    rfl
  | entry id key value =>
    obtain ⟨ps, os, es, rfl, hrep⟩ := h
    show es[EntryId.mk id key]? = some value ↔ _
    rw [hrep.entries]
    rfl
  | absent id =>
    rw [Mark.IsIn, h.dataOf_eq, Option.map_eq_none_iff]
    exact ⟨fun hnone => hnone.1, fun hnone => ⟨hnone, h.mapOf_eq_empty hnone⟩⟩

end MapBench
