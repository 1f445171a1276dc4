import MapBench.Proofs.Batch.Offsets
import Mathlib.Algebra.Order.Floor.Div
import Mathlib.Data.Set.Lattice
import Mathlib.Order.Interval.Set.Basic

/-!
# `MapBench.Proofs.Batch.Tiling`: batches tile the indexes

A batch takes up the indexes from its offset to one step further. The
batches of a run lie side by side, from zero to the goal rounded up to
full batches, and the plan counts their pairs.

Indexes are numbers here, not words: only the goal has to fit into a
word, and what a batch takes up beyond the largest word counts as
well.

* `Offsets.answers`: what asking for offsets again and again gives.
* `Offsets.IsTiling`: what it means that offsets tile the indexes up
  to a goal.
* `isTiling_and_plannedPairs`: they do, and the plan agrees.
-/

set_option autoImplicit false

namespace MapBench

/-- The indexes of the batch at an offset. All batches of a run are full,
also the last one. -/
def extent (step offset : Nat) : Set Nat :=
  Set.Ico offset (offset + step)

/-- Batches at different multiples have no index in common. The earlier one
ends where the next begins, or before. -/
theorem extent_inter_extent {step i j : Nat} (h : i < j) :
    extent step (i * step) ∩ extent step (j * step) = ∅ := by
  have hnext : (i + 1) * step ≤ j * step := Nat.mul_le_mul_right step h
  rw [Nat.succ_mul] at hnext
  refine Set.eq_empty_of_forall_notMem fun x hx => ?_
  have hfirst : x < i * step + step := hx.1.2
  have hsecond : j * step ≤ x := hx.2.1
  omega

/-- An index belongs to the batch that its quotient by the step
numbers. -/
theorem mem_extent_iff {step i x : Nat} (h : 0 < step) : x ∈ extent step (i * step) ↔ x / step = i := by
  rw [extent, Set.mem_Ico, Nat.div_eq_iff h]
  omega

namespace Offsets

/-- What the first `n` questions for an offset give. Where none is due
the sequence stays as it is. -/
def answers : Nat → Offsets → List (Option Nat)
  | 0, _ => []
  | n + 1, o =>
    match o.next? with
    | none => none :: answers n o
    | some (offset, rest) => some offset :: answers n rest

/-- Once there is no offset left, there never is one again. -/
theorem answers_of_next?_none {o : Offsets} (h : o.next? = none) (n : Nat) :
    o.answers n = List.replicate n none := by
  induction n with
  | zero => rfl
  | succ n ih => rw [answers, h, List.replicate_succ, ih]

/-- The offsets come first, and then there is none however often one
asks. -/
theorem answers_eq (n : Nat) (o : Offsets) :
    o.answers n = (o.toList.take n).map some ++ List.replicate (n - o.toList.length) none := by
  induction n generalizing o with
  | zero => simp [answers]
  | succ n ih =>
    rcases hnext : o.next? with - | ⟨offset, rest⟩
    · rw [answers_of_next?_none hnext, toList_of_next?_none hnext]
      rfl
    · rw [answers, hnext, toList_of_next?_some hnext]
      show some offset :: answers n rest = _
      rw [ih]
      simp only [List.take_succ_cons, List.map_cons, List.length_cons, Nat.add_sub_add_right,
        List.cons_append]

/-- Offsets that tile the indexes up to a goal. Taken together these say
what a run needs of its offsets, without mentioning how they are found. -/
structure IsTiling (goal step : Nat) (o : Offsets) : Prop where
  /-- Asking for offsets gives them one after another, and none from
  then on. -/
  answers : ∀ n, o.answers n =
    (o.toList.take n).map some ++ List.replicate (n - o.toList.length) none
  /-- The offsets are the multiples of the step below the goal. -/
  mem_iff : ∀ x, x ∈ o.toList ↔ step ∣ x ∧ x < goal
  /-- They increase, so none comes twice. -/
  increasing : o.toList.Pairwise (· < ·)
  length : o.toList.length = goal ⌈/⌉ step
  /-- Batches have no index in common, -/
  disjoint : o.toList.Pairwise fun a b => extent step a ∩ extent step b = ∅
  /-- leave none out on the way, -/
  covers : ⋃ a ∈ o.toList, extent step a = Set.Ico 0 (goal ⌈/⌉ step * step)
  /-- and reach the goal. -/
  reaches : Set.Ico 0 goal ⊆ ⋃ a ∈ o.toList, extent step a

variable {goal step : Nat} (hstep : 0 < step) (hgoal : goal ≤ maxWord)

/-- The offsets up to a goal are the multiples of the step below it. -/
theorem mem_toList_upTo {x : Nat} :
    x ∈ (upTo goal step hstep hgoal).toList ↔ step ∣ x ∧ x < goal := by
  rw [toList_upTo hstep hgoal, List.mem_map]
  constructor
  · rintro ⟨k, hk, rfl⟩
    exact ⟨Nat.dvd_mul_left step k, (lt_stepsTo_iff hstep).mp (List.mem_range.mp hk)⟩
  · rintro ⟨⟨k, rfl⟩, hbelow⟩
    rw [Nat.mul_comm] at hbelow
    exact ⟨k, List.mem_range.mpr ((lt_stepsTo_iff hstep).mpr hbelow), Nat.mul_comm ..⟩

/-- What holds of any two multiples in order holds along the offsets
of a run. -/
theorem pairwise_toList_upTo {R : Nat → Nat → Prop} (h : ∀ i j, i < j → R (i * step) (j * step)) :
    (upTo goal step hstep hgoal).toList.Pairwise R := by
  rw [toList_upTo hstep hgoal, List.pairwise_map]
  exact List.pairwise_lt_range.imp (h _ _)

/-- The batches at these offsets take up the indexes from zero on, up to a
full batch. -/
theorem iUnion_extent_upTo :
    ⋃ a ∈ (upTo goal step hstep hgoal).toList, extent step a = Set.Ico 0 (roundUp goal step) := by
  ext x
  rw [toList_upTo hstep hgoal, roundUp, Set.mem_Ico, ← Nat.div_lt_iff_lt_mul hstep]
  simp only [List.mem_map, List.mem_range, Set.mem_iUnion, exists_prop]
  constructor
  · rintro ⟨-, ⟨i, hi, rfl⟩, hx⟩
    rw [(mem_extent_iff hstep).mp hx]
    exact ⟨Nat.zero_le x, hi⟩
  · rintro ⟨-, hx⟩
    exact ⟨x / step * step, ⟨x / step, hx, rfl⟩, (mem_extent_iff hstep).mpr rfl⟩

end Offsets

/-- The offsets of a run tile the indexes up to its goal, wherever in
a word the goal lies, and a run plans the pairs of all its batches as
far as a word can hold that. -/
theorem isTiling_and_plannedPairs :
    (∀ (goal step : Nat) (hstep : 0 < step) (hgoal : goal ≤ maxWord),
      Offsets.IsTiling goal step (.upTo goal step hstep hgoal)) ∧
    ∀ s : Settings, s.plannedPairs = min maxWord (s.offsets.toList.length * s.batchSize) := by
  constructor
  · intro goal step hstep hgoal
    have hceil : goal ⌈/⌉ step = stepsTo goal step := Nat.ceilDiv_eq_add_pred_div goal step
    have hcovers := Offsets.iUnion_extent_upTo hstep hgoal
    have hround : goal ≤ roundUp goal step := le_roundUp hstep
    exact {
      answers := fun n => Offsets.answers_eq n _
      mem_iff := fun _ => Offsets.mem_toList_upTo hstep hgoal
      increasing := Offsets.pairwise_toList_upTo hstep hgoal fun _ _ h =>
        Nat.mul_lt_mul_of_pos_right h hstep
      length := by rw [Offsets.toList_upTo hstep hgoal, List.length_map, List.length_range, hceil]
      disjoint := Offsets.pairwise_toList_upTo hstep hgoal fun _ _ h => extent_inter_extent h
      covers := by rw [hcovers, hceil, roundUp]
      reaches := by
        rw [hcovers]
        exact Set.Ico_subset_Ico_right hround }
  · intro s
    have hlength : s.offsets.toList.length = s.plannedBatches := by
      rw [s.toList_offsets, List.length_map, List.length_range]
    rw [hlength, Settings.plannedPairs, saturatingMul]

/-- Steps of half the words' range up to the largest word: the second
addition saturates, and yet there are two offsets and no third. -/
theorem isTiling_of_saturating :
    (Offsets.upTo maxWord 0x8000000000000000 (by decide) (by decide)).answers 4 =
      [some 0, some 0x8000000000000000, none, none] ∧
    Offsets.IsTiling maxWord 0x8000000000000000
      (.upTo maxWord 0x8000000000000000 (by decide) (by decide)) :=
  ⟨by decide +kernel,
    isTiling_and_plannedPairs.1 maxWord 0x8000000000000000 (by decide) (by decide)⟩

end MapBench
