import MapBench.Settings.Basic

/-!
# `MapBench.Proofs.Batch.Offsets`: the offsets of a run

A run's offsets are the multiples of its batch size below its goal,
each of them once and in order. That the addition of words saturates
makes no difference: where it does, the goal has been passed.

* `Offsets.toList`: all offsets that are still due.
* `Offsets.toList_upTo`: the offsets of a whole run.
* `le_roundUp`: a number rounded up to a multiple is no smaller.
* `Settings.plannedPairs_eq`: the planned pairs are the total rounded
  up to full batches, as far as a word can hold that.
-/

set_option autoImplicit false

namespace MapBench

/-- How many steps it takes to reach a goal. The last one may go beyond it. -/
def stepsTo (goal step : Nat) : Nat :=
  (goal + step - 1) / step

/-- A number rounded up to a multiple of `step`. A run writes so many pairs,
since its last batch is as full as the others. -/
def roundUp (n step : Nat) : Nat :=
  stepsTo n step * step

/-- A multiple lies below the goal exactly if it is one of the steps
to the goal. -/
theorem lt_stepsTo_iff {goal step k : Nat} (h : 0 < step) : k < stepsTo goal step ↔ k * step < goal := by
  rw [stepsTo, Nat.lt_div_iff_mul_lt h]
  have : step * k = k * step := Nat.mul_comm ..
  omega

/-- The other multiples reach the goal. So these steps are as few as
possible. -/
theorem stepsTo_le_iff {goal step k : Nat} (h : 0 < step) : stepsTo goal step ≤ k ↔ goal ≤ k * step := by
  rw [← Nat.not_lt, lt_stepsTo_iff h, Nat.not_lt]

/-- Rounding up leaves nothing out: the last batch that is planned reaches the
goal. -/
theorem le_roundUp {n step : Nat} (h : 0 < step) : n ≤ roundUp n step :=
  (stepsTo_le_iff h).mp (Nat.le_refl _)

namespace Offsets

/-- The offsets that are still due. There are finitely many, since each step
leaves less to the goal. -/
def toList (o : Offsets) : List Nat :=
  match h : o.next? with
  | none => []
  | some (offset, rest) =>
    have := remaining_lt_of_next? h
    offset :: rest.toList
termination_by o.remaining

/-- When there is no next offset, none is due. -/
theorem toList_of_next?_none {o : Offsets} (h : o.next? = none) : o.toList = [] := by
  rw [toList]
  split
  · rfl
  · simp_all

/-- The next offset comes before those that are due after it. -/
theorem toList_of_next?_some {o rest : Offsets} {offset : Nat} (h : o.next? = some (offset, rest)) :
    o.toList = offset :: rest.toList := by
  rw [toList]
  split <;> simp_all

/-- After `k` steps the offsets that are due begin at the `k`-th
multiple. Where the next offset is not that multiple but the largest
word, both have passed the goal. -/
theorem toList_of_next {o : Offsets} (m k : Nat) (hnext : o.next = min maxWord (k * o.step))
    (hm : stepsTo o.goal o.step = k + m) : o.toList = (List.range' k m).map (· * o.step) := by
  have hstep := o.step_pos
  have hgoal := o.goal_le
  induction m generalizing o k with
  | zero =>
    have := (stepsTo_le_iff hstep).mp (show stepsTo o.goal o.step ≤ k by omega)
    have hdue : o.next? = none := if_pos (by omega)
    rw [toList_of_next?_none hdue]
    rfl
  | succ m ih =>
    have hbelow := (lt_stepsTo_iff hstep).mp (show k < stepsTo o.goal o.step by omega)
    have hthis : o.next = k * o.step := by omega
    have hdue : o.next? = some (k * o.step, { o with next := saturatingAdd o.next o.step }) := by
      rw [next?, if_neg (by omega), hthis]
    have hrest : saturatingAdd o.next o.step = min maxWord ((k + 1) * o.step) := by
      rw [saturatingAdd, hthis, Nat.succ_mul]
    have hafter : Offsets.toList { o with next := saturatingAdd o.next o.step } =
        (List.range' (k + 1) m).map (· * o.step) :=
      ih (k + 1) hrest (show stepsTo o.goal o.step = k + 1 + m by omega) hstep hgoal
    rw [toList_of_next?_some hdue, hafter]
    rfl

/-- The offsets of a run are the multiples of the step below the
goal. -/
theorem toList_upTo {goal step : Nat} (hstep : 0 < step) (hgoal : goal ≤ maxWord) :
    (upTo goal step hstep hgoal).toList = (List.range (stepsTo goal step)).map (· * step) := by
  rw [toList_of_next (stepsTo goal step) 0 (by simp [upTo]) (by simp [upTo]),
    List.range_eq_range']
  rfl

end Offsets

namespace Settings

variable (s : Settings)

/-- A run plans a batch for every offset. It is planned by a division that
rounds up, in words, and that never leaves them. -/
theorem plannedBatches_eq : s.plannedBatches = stepsTo s.totalPairs s.batchSize := by
  have hpos := s.batchSize_pos
  -- Either number of batches is the least that reaches the total.
  refine Nat.le_antisymm (Nat.not_lt.mp fun h => ?_) (Nat.not_lt.mp fun h => ?_)
  · have hreach := (stepsTo_le_iff hpos).mp (Nat.le_refl (stepsTo s.totalPairs s.batchSize))
    rw [plannedBatches] at h
    have hsplit := Nat.div_add_mod s.totalPairs s.batchSize
    split at h
    · have := Nat.mul_le_mul_right s.batchSize h
      rw [Nat.succ_mul, Nat.add_zero, Nat.mul_comm (s.totalPairs / s.batchSize)] at this
      omega
    · have := Nat.mul_le_mul_right s.batchSize (Nat.lt_succ_iff.mp h)
      rw [Nat.mul_comm (s.totalPairs / s.batchSize)] at this
      omega
  · have hbelow := (lt_stepsTo_iff hpos).mp h
    have hsplit := Nat.div_add_mod s.totalPairs s.batchSize
    have hmod := Nat.mod_lt s.totalPairs hpos
    rw [plannedBatches, Nat.add_mul, Nat.mul_comm (s.totalPairs / s.batchSize)] at hbelow
    split at hbelow <;> omega

/-- The planned pairs are the total rounded up to full batches, as far
as a word can hold that. -/
theorem plannedPairs_eq : s.plannedPairs = min maxWord (roundUp s.totalPairs s.batchSize) := by
  rw [plannedPairs, plannedBatches_eq, saturatingMul, roundUp]

/-- The offsets of a run: one multiple of the batch size for each planned
batch. -/
theorem toList_offsets : s.offsets.toList = (List.range s.plannedBatches).map (· * s.batchSize) := by
  rw [plannedBatches_eq]
  exact Offsets.toList_upTo s.batchSize_pos s.totalPairs_le

end Settings

end MapBench
