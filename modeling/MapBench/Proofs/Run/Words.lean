import MapBench.Proofs.Batch.Words
import MapBench.Proofs.Run.Recording
import Mathlib.Logic.Relation

/-!
# `MapBench.Proofs.Run.Words`: a run stays in its words

Making up a batch needs an index behind the batch, and going on needs the
next offset. Neither is checked, and for arbitrary words either may leave the
range. In a run neither does: it only comes to an offset other than zero if
the batch before it could be made up, and then both that offset and the size
of a batch are at most the number of keys.

* `Head`, `Advances`, `Reaches`: where a run stands between two batches.
* `exists_ends`: a run ends at a head that it reaches.
* `Head.Fits`: what holds of every head, by induction on the way to it.
* `writeFrom_staysInWords`: no number leaves its range in a run.
-/

set_option autoImplicit false

namespace MapBench.Run

variable {σ ω : Type}

/-- Where a run stands when it looks for its next offset. These are the
values of its loop. -/
structure Head (σ : Type) where
  offsets : Offsets
  performance : Performance
  state : σ

section

variable (bed : Testbed (StateM σ) ω) (settings : Settings) (object : String)

/-- From one head to the next: an offset was due, and its batch was
written. -/
def Advances (h h' : Head σ) : Prop :=
  ∃ offset, h.offsets.next? = some (offset, h'.offsets) ∧
    exec (writeBatch bed settings object offset) h.performance h.state =
      (.ok (), h'.performance, h'.state)

/-- From one head to any later one. Every head of a run is reached from the
first, so an invariant has to hold there and at each advance. -/
def Reaches : Head σ → Head σ → Prop :=
  Relation.ReflTransGen (Advances bed settings object)

/-- The ways in which a run can end at a head: no offset is due, or the batch
of the one that is due can't be written. -/
inductive Ends (h : Head σ) : Except RunError Unit × Performance × σ → Prop
  | done (noneDue : h.offsets.next? = none) : Ends h (.ok (), h.performance, h.state)
  | failed {offset : Nat} {rest : Offsets} {e : RunError} {p : Performance} {s : σ}
      (due : h.offsets.next? = some (offset, rest))
      (failed : exec (writeBatch bed settings object offset) h.performance h.state = (.error e, p, s)) :
      Ends h (.error e, p, s)

variable {bed settings object}

/-- Without a next offset a run over offsets is done. -/
theorem exec_writeFrom_of_none {o : Offsets} (noneDue : o.next? = none) (p : Performance) (s : σ) :
    exec (writeFrom bed settings object o) p s = (.ok (), p, s) := by
  rw [writeFrom_eq_forM, Offsets.toList_of_next?_none noneDue]
  rfl

/-- With one, the batch there is written first, and the run goes on behind
it. -/
theorem exec_writeFrom_of_some {o rest : Offsets} {offset : Nat} (due : o.next? = some (offset, rest))
    (p : Performance) (s : σ) :
    exec (writeFrom bed settings object o) p s =
      match exec (writeBatch bed settings object offset) p s with
      | (.ok (), p, s) => exec (writeFrom bed settings object rest) p s
      | (.error e, p, s) => (.error e, p, s) := by
  rw [writeFrom_eq_forM, writeFrom_eq_forM, Offsets.toList_of_next?_some due]
  change exec (writeBatch bed settings object offset >>= fun _ =>
    rest.toList.forM (writeBatch bed settings object)) p s = _
  rw [exec_bind]
  rcases exec (writeBatch bed settings object offset) p s with ⟨_ | _, p', s'⟩ <;> rfl

/-- A run ends at a head that it reaches. There are only finitely many
offsets, so this is an induction on those that are left. -/
theorem exists_ends (o : Offsets) (p : Performance) (s : σ) :
    ∃ last, Reaches bed settings object ⟨o, p, s⟩ last ∧
      Ends bed settings object last (exec (writeFrom bed settings object o) p s) := by
  -- By induction on the offsets that are due: a batch that is written makes the way one step longer.
  induction o using writeFrom.induct generalizing p s with
  | case1 o noneDue =>
    rw [exec_writeFrom_of_none noneDue]
    exact ⟨⟨o, p, s⟩, .refl, .done noneDue⟩
  | case2 o offset rest due _ ih =>
    rw [exec_writeFrom_of_some due]
    rcases written : exec (writeBatch bed settings object offset) p s with ⟨e | _, p', s'⟩
    · exact ⟨⟨o, p, s⟩, .refl, .failed due written⟩
    · obtain ⟨last, hreaches, hends⟩ := ih p' s'
      exact ⟨last, .head ⟨offset, due, written⟩ hreaches, hends⟩

/-- A batch that was written could be made up. Making it up comes first, and
a failure would have ended the run. -/
theorem exists_made_of_written {offset : Nat} {p p' : Performance} {s s' : σ}
    (written : exec (writeBatch bed settings object offset) p s = (.ok (), p', s')) :
    ∃ batch, Batch.generate settings.batchSize offset settings.valueSize = .ok batch := by
  -- Nothing of the surroundings matters here, so a view that shows nothing will do.
  have hquiet : Quiet bed fun _ => () := ⟨fun _ => rfl, fun _ => rfl, fun _ _ => rfl,
    fun _ _ _ _ => rfl, fun _ _ _ => rfl⟩
  obtain ⟨r, p₁, s₁, hexec, hrun, -⟩ := batchRun_exec settings object hquiet offset p s
  rw [written, Prod.mk.injEq] at hexec
  obtain ⟨rfl, -⟩ := hexec
  cases hrun with
  | written made => exact ⟨_, made⟩

/-! ### The invariant -/

/-- What holds of every head. At the first one the size of a batch may be any
word, since the offset is zero. -/
structure Head.Fits (settings : Settings) (h : Head σ) : Prop where
  step : h.offsets.step = settings.batchSize
  next_le : h.offsets.next ≤ Key.limit
  batchSize_le : h.offsets.next ≠ 0 → settings.batchSize ≤ Key.limit

namespace Head

/-- A run begins with an offset of zero, where nothing can be exceeded. -/
theorem fits_start (settings : Settings) (p : Performance) (s : σ) :
    Fits settings ⟨settings.offsets, p, s⟩ where
  step := rfl
  next_le := Nat.zero_le _
  batchSize_le hnext := absurd rfl hnext

variable {h h' : Head σ}

/-- The index behind a batch is a word. At the first head it is the size of
a batch. Later on both offset and size are at most the number of keys, and
twice that is far below the limit. -/
theorem Fits.add_le (hfits : h.Fits settings) : h.offsets.next + settings.batchSize ≤ maxWord := by
  rcases Nat.eq_zero_or_pos h.offsets.next with hzero | hpos
  · rw [hzero, Nat.zero_add]
    exact settings.batchSize_le
  · -- Twice the number of keys is far from the largest word.
    have hkeys : Key.limit + Key.limit ≤ maxWord := by decide
    exact Nat.le_trans (Nat.add_le_add hfits.next_le (hfits.batchSize_le (Nat.ne_of_gt hpos))) hkeys

/-- So the offset that follows is a sum that doesn't saturate. The words of
the loop count like numbers. -/
theorem Fits.next_eq (hfits : h.Fits settings) {offset : Nat} {rest : Offsets}
    (due : h.offsets.next? = some (offset, rest)) :
    offset = h.offsets.next ∧ rest.step = h.offsets.step ∧ rest.next = offset + settings.batchSize := by
  have hword := hfits.add_le
  rw [Offsets.next?] at due
  split at due
  · cases due
  · obtain ⟨rfl, rfl⟩ := due
    refine ⟨rfl, rfl, ?_⟩
    change saturatingAdd h.offsets.next h.offsets.step = _
    rw [saturatingAdd, hfits.step, Nat.min_eq_right hword]

/-- A batch that was written had keys for all its indexes, so the offset that
follows and the size of a batch are at most the number of keys. -/
theorem Fits.of_advances (hfits : h.Fits settings) (hstep : Advances bed settings object h h') :
    h'.Fits settings := by
  obtain ⟨offset, due, written⟩ := hstep
  obtain ⟨-, hstep, hnext⟩ := hfits.next_eq due
  obtain ⟨batch, made⟩ := exists_made_of_written written
  have hkeys := fits_of_generate made
  exact ⟨hstep.trans hfits.step, hnext ▸ hkeys,
    fun _ => Nat.le_trans (Nat.le_add_left _ _) hkeys⟩

/-- What holds of the first head holds of every later one. -/
theorem Fits.of_reaches (hfits : h.Fits settings) (hreaches : Reaches bed settings object h h') :
    h'.Fits settings := by
  induction hreaches with
  | refl => exact hfits
  | tail _ hstep ih => exact ih.of_advances hstep

end Head

/-! ### What happens in words -/

/-- No number leaves its range where a batch is made up at an offset and the
run goes on behind it. Where the run comes to an offset, and where room for a
batch is reserved, there are bounds far below the largest word. -/
structure StaysInWords (settings : Settings) (offset : Nat) (rest : Offsets) : Prop where
  generated : (Batch.generateInWords settings.batchSize offset settings.valueSize).run =
    some (Batch.generate settings.batchSize offset settings.valueSize)
  advanced : sum? maxWord offset settings.batchSize = some rest.next
  offset_le : offset ≤ 100000000
  batchSize_le : offset ≠ 0 → settings.batchSize ≤ 100000000
  reserved : Batch.checkLast settings.batchSize offset = pure () →
    offset + settings.batchSize ≤ 100000000

/-- At a head like that no operation on words leaves its range, neither in
the batch nor in going on. -/
theorem Head.Fits.staysInWords {h : Head σ} (hfits : h.Fits settings) {offset : Nat} {rest : Offsets}
    (due : h.offsets.next? = some (offset, rest)) : StaysInWords settings offset rest := by
  obtain ⟨rfl, -, hnext⟩ := hfits.next_eq due
  have hword := hfits.add_le
  refine ⟨?_, ?_, hfits.next_le, hfits.batchSize_le, Batch.fits_of_checkLast settings.batchSize_pos⟩
  · rw [Batch.run_generateInWords settings.valueSize (Nat.le_trans (Nat.le_add_right _ _) hword),
      if_neg (Nat.not_lt.mpr hword)]
  · rw [sum?_eq_some hword, hnext]

end

/-- By itself, making up a batch leaves the words exactly if the index behind
the batch isn't one. In a run it never does, whatever surrounds the run: that
ends at a head that it reaches, and wherever it reaches a head with an offset
that is due, it stays in its words. -/
theorem writeFrom_staysInWords :
    (∀ count start size, start ≤ maxWord →
      ((Batch.generateInWords count start size).run = none ↔ maxWord < start + count)) ∧
    ∀ (bed : Testbed (StateM σ) ω) (settings : Settings) (object : String) (p : Performance) (s : σ),
      (∃ last, Reaches bed settings object ⟨settings.offsets, p, s⟩ last ∧
        Ends bed settings object last (exec (writeFrom bed settings object settings.offsets) p s)) ∧
      ∀ head offset rest, Reaches bed settings object ⟨settings.offsets, p, s⟩ head →
        head.offsets.next? = some (offset, rest) → StaysInWords settings offset rest := by
  refine ⟨fun count start size hstart => ?_, fun bed settings object p s => ⟨exists_ends _ p s, ?_⟩⟩
  · rw [Batch.run_generateInWords size hstart]
    split <;> simp_all
  · intro head offset rest hreaches due
    exact ((Head.fits_start settings p s).of_reaches hreaches).staysInWords due

/-- After one batch of two pairs a run comes to the second. A batch that
begins at the largest word can't be made up in words. -/
theorem writeFrom_staysInWords_two :
    let session : StorageSession (StateM Unit) Batch := {
      removeObject := fun _ => pure (.ok ())
      writeObject := fun _ _ => pure (.ok ())
      prepare := fun batch => pure (.ok batch)
      operate := fun _ _ => pure (.ok ())
      mapSize := fun _ => pure (.ok 0) }
    let settings : Settings := ⟨2, 3, 1, false, .zero, by decide, by decide, by decide, by decide⟩
    (Batch.generateInWords 1 maxWord 1).run = none ∧
      ∃ head rest, Reaches (Surroundings.still.testbed session) settings "hw"
          ⟨settings.offsets, .empty, ((), ())⟩ head ∧
        head.offsets.next? = some (2, rest) ∧ StaysInWords settings 2 rest := by
  intro session settings
  let bed := Surroundings.still.testbed session
  obtain ⟨hover, hruns⟩ := @writeFrom_staysInWords (Unit × Unit) Batch
  have hfirst : (exec (writeBatch bed settings "hw" 0) .empty ((), ())).1.isOk := by decide +kernel
  rcases written : exec (writeBatch bed settings "hw" 0) .empty ((), ()) with ⟨_ | _, p, s⟩
  · rw [written] at hfirst
    cases hfirst
  · have hreaches : Reaches bed settings "hw" ⟨settings.offsets, .empty, ((), ())⟩
        ⟨{ settings.offsets with next := 2 }, p, s⟩ := .single ⟨0, rfl, written⟩
    exact ⟨(hover 1 maxWord 1 (Nat.le_refl _)).mpr (by decide), _, _, hreaches, rfl,
      (hruns bed settings "hw" .empty ((), ())).2 _ 2 _ hreaches rfl⟩

end MapBench.Run
