/-!
# `MapBench.Batch.Offsets`: where batches begin

A run of batches begins a batch at zero and then at every further
multiple of the batch size that lies below the goal. Each of them is
a full batch, so the last one may reach past the goal.

Offsets are kept in words of 64 bits. The addition stops at the
largest word instead of starting over, which ends the sequence, since
no goal lies above it.

* `Offsets.next?`: the offset that is due and what follows it.
* `Offsets.remaining_lt_of_next?`: the way to the goal gets shorter, so
  a loop over offsets ends.
-/

set_option autoImplicit false

namespace MapBench

/-- The largest word of 64 bits. -/
def maxWord : Nat := 0xFFFFFFFFFFFFFFFF

/-- The sum of two words, or the largest word if that is exceeded. -/
def saturatingAdd (a b : Nat) : Nat :=
  min maxWord (a + b)

/-- The product of two words, or the largest word if that is
exceeded. -/
def saturatingMul (a b : Nat) : Nat :=
  min maxWord (a * b)

/-- A sequence of offsets that has come as far as `next`. -/
structure Offsets where
  goal : Nat
  step : Nat
  next : Nat
  step_pos : 0 < step
  goal_le : goal ≤ maxWord

namespace Offsets

/-- The offsets below a goal. -/
def upTo (goal step : Nat) (step_pos : 0 < step) (goal_le : goal ≤ maxWord) : Offsets :=
  ⟨goal, step, 0, step_pos, goal_le⟩

/-- The offset that is due, and the offsets after it. -/
def next? (o : Offsets) : Option (Nat × Offsets) :=
  if o.goal ≤ o.next then none
  else some (o.next, { o with next := saturatingAdd o.next o.step })

/-- How far it is to the goal. -/
def remaining (o : Offsets) : Nat :=
  o.goal - o.next

/-- Each offset shortens the way to the goal. It does so also where the
addition saturates, since no goal lies above the largest word. -/
theorem remaining_lt_of_next? {o rest : Offsets} {offset : Nat}
    (h : o.next? = some (offset, rest)) : rest.remaining < o.remaining := by
  have hs := o.step_pos
  have hg := o.goal_le
  unfold next? at h
  split at h
  · simp at h
  · simp only [Option.some.injEq, Prod.mk.injEq] at h
    obtain ⟨-, rfl⟩ := h
    simp only [remaining, saturatingAdd]
    omega

/-- The first `n` offsets that are still due, and what follows
them. -/
def take : Nat → Offsets → List Nat × Offsets
  | 0, o => ([], o)
  | n + 1, o =>
    match o.next? with
    | none => ([], o)
    | some (offset, rest) =>
      let (offsets, last) := take n rest
      (offset :: offsets, last)

end Offsets

end MapBench
