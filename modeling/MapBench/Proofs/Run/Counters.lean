import MapBench.Proofs.Run.Loop
import MapBench.Proofs.Store.Rows

/-!
# `MapBench.Proofs.Run.Counters`: the counters of a run and the map it writes

A run may end in many ways: a batch can't be made up, a line can't be
printed, or the session fails while it prepares a write or while it
applies one. However it ends, the counters tell which pairs are in the
map, as long as the session does what sessions are for.

* `KeepsMap`: what a session and its surroundings do to the map of an
  object.
* `Pair.lastValue_stretch_eq_some_iff`: the map after a stretch of pairs.
* `KeepsMap.batchRun`, `KeepsMap.loopRun`: what a batch and what a run
  over offsets leave in the map.
* `counters_perform`: the map and the counters after a whole run.
-/

set_option autoImplicit false

namespace MapBench

/-- Up to an index that has a key, the map of a stretch holds the pairs of
its indexes. -/
theorem Pair.lastValue_stretch_eq_some_iff {size count : Nat} (hfits : count ≤ Key.limit)
    {key : String} {value : List UInt8} :
    Entries.lastValue key (stretch size 0 count) = some value ↔
      ∃ i < count, Key.IsOf i key ∧ IsValueOf size i value := by
  rw [Entries.lastValue_eq_some_iff (nodup_stretch size 0 count), mem_stretch]
  simp only [Nat.zero_le, true_and, Nat.zero_add]
  refine exists_congr fun i => and_congr_right fun hi => ?_
  rw [Key.isOf_iff (by omega), isValueOf_iff, generated, Pair.mk.injEq]

namespace Run

variable {σ ω : Type}

/-- A map after a batch was stored in it. Keys of the batch have the value
that comes last for them, and the other keys keep theirs. -/
def stored (batch : Batch) (map : String → Option (List UInt8)) : String → Option (List UInt8) :=
  fun key => (Entries.lastValue key batch.pairs).or (map key)

/-- The session keeps a map for an object, which `view` shows. A removal
that succeeds empties it. A write that was prepared stores its whole batch
or fails and stores nothing. Nothing else changes it, and any call may
fail at any time. -/
structure KeepsMap (bed : Testbed (StateM σ) ω) (object : String)
    (view : σ → String → Option (List UInt8)) : Prop where
  removed : ∀ s s', (bed.session.removeObject object).run s = (.ok (), s') → view s' = fun _ => none
  wrote : ∀ data s, view ((bed.session.writeObject object data).run s).2 = view s
  prepared : ∀ batch s, view ((bed.session.prepare batch).run s).2 = view s
  applied : ∀ batch op s s₁ s₂, (bed.session.prepare batch).run s = (.ok op, s₁) →
    (bed.session.operate object op).run s₁ = (.ok (), s₂) → view s₂ = stored batch (view s₁)
  refused : ∀ batch op e s s₁ s₂, (bed.session.prepare batch).run s = (.ok op, s₁) →
    (bed.session.operate object op).run s₁ = (.error e, s₂) → view s₂ = view s₁
  printed : ∀ line s, view ((bed.printLine line).run s).2 = view s
  quiet : Quiet bed view

/-- The map of the pairs with the first indexes. A run is said to have
written so many if the map of its object is this one. -/
def firstPairs (settings : Settings) (count : Nat) : String → Option (List UInt8) :=
  fun key => Entries.lastValue key (Pair.stretch settings.valueSize 0 count)

/-- A batch that follows on the first pairs makes them more. So the offsets
of a run add up to one stretch from zero. -/
theorem stored_firstPairs (settings : Settings) (count more : Nat) :
    stored ⟨Pair.stretch settings.valueSize count more⟩ (firstPairs settings count) =
      firstPairs settings (count + more) := by
  have hstretch := Pair.stretch_append settings.valueSize 0 count more
  rw [Nat.zero_add] at hstretch
  funext key
  rw [firstPairs, ← hstretch, Entries.lastValue_append]
  rfl

namespace KeepsMap

variable {bed : Testbed (StateM σ) ω} {object : String} {view : σ → String → Option (List UInt8)}
  {settings : Settings}

/-- After a setup that succeeded the map is empty. The object is removed
first, and its payload is no entry of the map. -/
theorem setup (h : KeepsMap bed object view) {s s' : σ}
    (hsetup : (Run.setup bed.session object).run s = (.ok (), s')) : view s' = fun _ => none := by
  rw [Run.setup, StateT.run_bind] at hsetup
  rcases hremove : (bed.session.removeObject object).run s with ⟨e | _, s₁⟩
  · rw [hremove] at hsetup
    cases hsetup
  · rw [hremove] at hsetup
    change (bed.session.writeObject object setupPayload >>= _).run s₁ = _ at hsetup
    rw [StateT.run_bind] at hsetup
    have hwrote := h.wrote setupPayload s₁
    rcases hwrite : (bed.session.writeObject object setupPayload).run s₁ with ⟨e | _, s₂⟩
    · rw [hwrite] at hsetup
      cases hsetup
    · rw [hwrite] at hsetup hwrote
      cases hsetup
      rw [hwrote, h.removed s s₁ hremove]

/-- The write of a batch that ends in any of its five ways has stored the
batch, which then had keys, or nothing. -/
theorem batchRun (h : KeepsMap bed object view) {offset : Nat} {s s' : σ}
    {r : Except RunError Unit} (hrun : BatchRun bed view settings object offset s r s') :
    if r.isOk then offset + settings.batchSize ≤ Key.limit ∧
        view s' = stored ⟨Pair.stretch settings.valueSize offset settings.batchSize⟩ (view s)
      else view s' = view s := by
  -- Up to the operate, the map is what it was.
  have hbefore {batch : Batch} {result : Except OutputError Unit} {s₁ s₂ : σ} (before : view s₁ = view s)
      (printed : Run.printBatch bed settings batch s₁ = (result, s₂)) : view s₂ = view s := by
    have hkept := view_printBatch h.printed settings batch s₁
    rw [printed] at hkept
    exact hkept.trans before
  have hprepared {batch : Batch} {result : Except SessionError ω} {s₃ s₄ : σ} (before : view s₃ = view s)
      (prepared : (bed.session.prepare batch).run s₃ = (result, s₄)) : view s₄ = view s := by
    have hkept := h.prepared batch s₃
    rw [prepared] at hkept
    exact hkept.trans before
  cases hrun with
  | generateFailed made same => exact same
  | outputFailed made before printed => exact hbefore before printed
  | prepareFailed made before printed between prepared same =>
    exact same.trans (hprepared (between.trans (hbefore before printed)) prepared)
  | operateFailed made before printed between prepared operated same =>
    have hkept := h.refused _ _ _ _ _ _ prepared operated
    exact same.trans (hkept.trans (hprepared (between.trans (hbefore before printed)) prepared))
  | written made before printed between prepared operated same =>
    have hstored := h.applied _ _ _ _ _ prepared operated
    rw [hprepared (between.trans (hbefore before printed)) prepared] at hstored
    obtain rfl := eq_of_generate made
    exact ⟨fits_of_generate made, same.trans hstored⟩

/-- A run over consecutive batches, from the first pairs on, leaves more of
the first pairs: those of the batches that it wrote. It wrote them all
exactly if it didn't fail. -/
theorem loopRun (h : KeepsMap bed object view) {m k n : Nat} {s s' : σ} {r : Except RunError Unit}
    (hrun : LoopRun bed view settings object ((List.range' k m).map (· * settings.batchSize)) s r s' n)
    (hmap : view s = firstPairs settings (k * settings.batchSize))
    (hfits : k * settings.batchSize ≤ Key.limit) :
    view s' = firstPairs settings ((k + n) * settings.batchSize) ∧
      (k + n) * settings.batchSize ≤ Key.limit ∧ n ≤ m ∧ (r.isOk = true ↔ n = m) := by
  -- By induction on the batches that are left; `k` counts those that are
  -- in the map.
  induction m generalizing k n s with
  | zero =>
    cases hrun
    exact ⟨hmap, hfits, Nat.le_refl 0, by simp [Except.isOk, Except.toBool]⟩
  | succ m ih =>
    rw [List.range'_succ, List.map_cons] at hrun
    cases hrun with
    | failed batch =>
      have hsame : view s' = view s := h.batchRun batch
      refine ⟨hsame.trans hmap, hfits, Nat.zero_le _, ?_⟩
      simp [Except.isOk, Except.toBool]
    | @next _ _ _ _ _ _ n batch rest =>
      obtain ⟨hnext, hstored⟩ :
          k * settings.batchSize + settings.batchSize ≤ Key.limit ∧ _ := h.batchRun batch
      rw [hmap, stored_firstPairs, ← Nat.succ_mul] at hstored
      rw [← Nat.succ_mul] at hnext
      obtain ⟨hmap', hfits', hle, hok⟩ := ih rest hstored hnext
      rw [show k + 1 + n = k + (n + 1) by omega] at hmap' hfits'
      exact ⟨hmap', hfits', by omega, by rw [hok]; omega⟩

end KeepsMap

/-- However a run ends after a setup that succeeded, and whatever fails in
it, the map holds exactly the generated pairs with the indexes below the
number of pairs that were counted. These are full batches, at most the
planned ones, and all of them exactly if the run didn't fail. -/
theorem counters_perform {bed : Testbed (StateM σ) ω} {object : String}
    {view : σ → String → Option (List UInt8)} (h : KeepsMap bed object view) (settings : Settings)
    {s s₁ : σ} (hsetup : (setup bed.session object).run s = (.ok (), s₁)) :
    ∃ result perf s₂, ((perform bed settings object).run .empty).run s₁ = ((result, perf), s₂) ∧
      (∀ key value, view s₂ key = some value ↔
        ∃ i < perf.pairs, Key.IsOf i key ∧ Pair.IsValueOf settings.valueSize i value) ∧
      perf.pairs = settings.batchSize * perf.batches ∧ perf.pairs ≤ settings.plannedPairs ∧
      (perf.pairs = settings.plannedPairs ↔ ∃ elapsed, result = .ok elapsed) := by
  obtain ⟨result, perf, s₂, t₁, t₂, n, hperform, ht₁, hloop, ht₂, hcount⟩ :=
    loopRun_perform settings object h.quiet .empty s₁
  rw [settings.toList_offsets, List.range_eq_range'] at hloop
  have hbegin : view t₁ = firstPairs settings (0 * settings.batchSize) := by
    rw [ht₁, h.setup hsetup, Nat.zero_mul]
    rfl
  obtain ⟨hmap, hfits, hle, hok⟩ := h.loopRun hloop hbegin (by simp)
  rw [Nat.zero_add] at hmap hfits
  simp only [tally, tallyOf, Performance.empty, Nat.zero_add, Prod.mk.injEq] at hcount
  obtain ⟨hbatches, hpairs, -⟩ := hcount
  -- A word holds every number of pairs that have keys.
  have hword : n * settings.batchSize < maxWord := Nat.lt_of_le_of_lt hfits (by decide)
  have hplanned : settings.plannedPairs = min maxWord (settings.plannedBatches * settings.batchSize) := by
    rw [settings.plannedPairs_eq, settings.plannedBatches_eq, roundUp]
  have hmore : n < settings.plannedBatches ↔
      n * settings.batchSize < settings.plannedBatches * settings.batchSize :=
    (Nat.mul_lt_mul_right settings.batchSize_pos).symm
  have hresult : (∃ elapsed, result = .ok elapsed) ↔ n = settings.plannedBatches := by
    rw [← hok]
    cases result <;> simp [Except.map, Except.isOk, Except.toBool]
  refine ⟨result, perf, s₂, hperform, fun key value => ?_, ?_, ?_, ?_⟩
  · rw [ht₂, hmap, hpairs]
    exact Pair.lastValue_stretch_eq_some_iff hfits
  · rw [hpairs, hbatches, Nat.mul_comm]
  · have := Nat.mul_le_mul_right settings.batchSize hle
    omega
  -- Too few batches are too few pairs, so the counter alone tells whether the run was
  -- complete.
  · rw [hresult]
    constructor
    · intro hall
      -- Fewer batches would be fewer pairs, since no word was exceeded.
      have hnot : ¬ n < settings.plannedBatches := fun hfewer => by
        have := hmore.mp hfewer
        omega
      omega
    · rintro rfl
      omega

/-- A session with a map in memory. Its writes succeed and fail as a list
tells, and those behind the list succeed. -/
def remembering : StorageSession
    (StateM ((String → Option (List UInt8)) × List (Option SessionError))) Batch where
  removeObject _ := fun (_, script) => (.ok (), (fun _ => none, script))
  writeObject _ _ := pure (.ok ())
  prepare batch := pure (.ok batch)
  operate _ batch := fun (map, script) =>
    match script with
    | some e :: script => (.error e, (map, script))
    | _ => (.ok (), (stored batch map, script.tail))
  mapSize _ := pure (.error .closed)

/-- It keeps its map. So what is proved of sessions in general can be tried
out on one that only remembers. -/
theorem keepsMap_remembering {ρ : Type} (u : Surroundings ρ) (object : String) :
    KeepsMap (u.testbed remembering) object fun s => s.1.1 where
  removed s s' hremove := by
    cases hremove
    rfl
  wrote _ _ := rfl
  prepared _ _ := rfl
  applied batch op s s₁ s₂ hprepare hoperate := by
    cases hprepare
    obtain ⟨⟨map, script⟩, outer⟩ := s
    rcases script with _ | ⟨_ | e, script⟩ <;> cases hoperate <;> rfl
  refused batch op e s s₁ s₂ hprepare hoperate := by
    cases hprepare
    obtain ⟨⟨map, script⟩, outer⟩ := s
    rcases script with _ | ⟨_ | e, script⟩ <;> cases hoperate
    rfl
  printed _ _ := rfl
  quiet := (quiet_testbed u remembering).comp Prod.fst

/-- Six pairs in batches of two, where the second write fails: the map has
the first two pairs, and two were counted. -/
theorem counters_perform_secondFails :
    let settings : Settings := ⟨2, 6, 1, false, .zero, by decide, by decide, by decide, by decide⟩
    let bed := Surroundings.still.testbed remembering
    let start := (((fun _ => none, [none, some .closed]), ()) :
      ((String → Option (List UInt8)) × List (Option SessionError)) × Unit)
    KeepsMap bed "hw" (fun s => s.1.1) ∧ ((setup bed.session "hw").run start).1 = .ok () ∧
      ∃ e perf s₂, ((perform bed settings "hw").run .empty).run ((setup bed.session "hw").run start).2 =
          ((.error e, perf), s₂) ∧ perf.pairs = 2 ∧ perf.batches = 1 ∧
        ∀ key value, s₂.1.1 key = some value ↔ ∃ i < 2, Key.IsOf i key ∧ Pair.IsValueOf 1 i value := by
  intro settings bed start
  have hkeeps := keepsMap_remembering Surroundings.still "hw"
  have hsetup : (setup bed.session "hw").run start = (.ok (), start) := rfl
  have hcounted : (((perform bed settings "hw").run .empty).run start).1.2.pairs = 2 := by
    rw [run_perform, writeFrom_eq_forM, settings.toList_offsets]
    decide +kernel
  obtain ⟨result, perf, s₂, hperform, hmap, hfull, -, hall⟩ := counters_perform hkeeps settings hsetup
  rw [hperform] at hcounted
  replace hcounted : perf.pairs = 2 := hcounted
  rw [hcounted] at hmap hfull hall
  have hbatches : 2 = 2 * perf.batches := hfull
  cases result with
  | ok elapsed => exact absurd (hall.mpr ⟨elapsed, rfl⟩) (by decide)
  | error e => exact ⟨hkeeps, rfl, e, perf, s₂, hperform, hcounted, by omega, hmap⟩

end Run

end MapBench
