import MapBench.Proofs.Run.Recording
import MapBench.Proofs.Text.Utf8

/-!
# `MapBench.Proofs.Run.FailFast`: a run stops at its first failure

The settings of a run fix its plan: for every offset the batch is
made up, its lines are printed if that is asked for, its write is
prepared, and the prepared write is applied. What a run really does is
a beginning of its plan, up to and including the first step that
fails.

* `Planned`, `plan`: the plan of a run.
* `Step`: a step that was done, with what came of it.
* `FailsFast`: what it means that a run stopped at its first failure.
* `perform_failsFast`: every run did, whatever its session and its
  output answer.
-/

set_option autoImplicit false

namespace MapBench.Run

/-! ### The plan -/

/-- The line that shows the pair of an index. It is told in terms of the
index alone, without the batch that the pair is in. -/
def lineAt (valueSize index : Nat) : String :=
  " key " ++ Key.text index
    ++ " val " ++ String.ofList ((List.range valueSize).map fun k => Nat.digitChar ((index + k) % 10))
    ++ " len " ++ Decimal.text valueSize

/-- A step that is to be done. What comes of it isn't known yet, so a plan
can be made from the settings. -/
inductive Planned
  /-- Make up the batch at an offset. -/
  | generate (offset : Nat)
  /-- Print a line. -/
  | print (line : String)
  /-- Prepare the write of the batch at an offset. -/
  | prepare (offset : Nat) (batch : Batch)
  /-- Apply the prepared write to an object. -/
  | operate (offset : Nat) (object : String)

/-- The lines of the batch at an offset, if the settings ask for
them. -/
def planLines (settings : Settings) (offset : Nat) : List String :=
  if settings.debug then
    (List.range' offset settings.batchSize).map (lineAt settings.valueSize)
  else []

/-- The steps at an offset. Lines come before the write, so a run that can't
print them doesn't write, either. -/
def planBatch (settings : Settings) (object : String) (offset : Nat) : List Planned :=
  [.generate offset] ++ (planLines settings offset).map .print ++
    [.prepare offset ⟨Pair.stretch settings.valueSize offset settings.batchSize⟩,
      .operate offset object]

/-- The steps of a whole run: those at every multiple of the batch size
below the total, in order. -/
def plan (settings : Settings) (object : String) : List Planned :=
  ((List.range (stepsTo settings.totalPairs settings.batchSize)).map (· * settings.batchSize)).flatMap
    (planBatch settings object)

/-! ### The steps that were done -/

/-- A step that was done, and what came of it. For a step that calls the
session or prints, that is the answer to the call. -/
inductive Step (ω : Type)
  | generate (offset : Nat) (made : Except KeyError Batch)
  | print (line : String) (answer : Except OutputError Unit)
  | prepare (offset : Nat) (batch : Batch) (answer : Except SessionError ω)
  | operate (offset : Nat) (object : String) (op : ω) (answer : Except SessionError Unit)

namespace Step

variable {ω : Type}

/-- The step without what came of it. That is how a trace is compared with a
plan. -/
def planned : Step ω → Planned
  | generate offset _ => .generate offset
  | print line _ => .print line
  | prepare offset batch _ => .prepare offset batch
  | operate offset object _ _ => .operate offset object

/-- The call of the step. Making up a batch needs none, so it leaves nothing
in a record of calls. -/
def call? : Step ω → Option (Call ω)
  | generate _ _ => none
  | print line answer => some (.print line answer)
  | prepare _ batch answer => some (.prepare batch answer)
  | operate _ object op answer => some (.operate object op answer)

/-- How a run ends that stops at this step, if the step failed. Each kind of
step has an error of its own, which names the offset where there is one. -/
def failure : Step ω → Option RunError
  | generate offset (.error e) => some (.generate offset e)
  | print _ (.error e) => some (.output e)
  | prepare offset _ (.error e) => some (.writeOpCreation offset e)
  | operate offset object _ (.error e) => some (.writeFailure offset object e)
  | _ => none

/-- Whether the step wrote a batch. Only the application of a prepared write
does, and only if it succeeds. -/
def wrote : Step ω → Bool
  | operate _ _ _ (.ok ()) => true
  | _ => false

end Step

/-- A run stopped at its first failure. -/
structure FailsFast {ω : Type} (settings : Settings) (object : String) (steps : List (Step ω))
    (result : Except RunError Elapsed) (perf : Performance) : Prop where
  /-- The steps are a beginning of the plan. -/
  planned : steps.map Step.planned <+: plan settings object
  /-- A batch is what its offset makes it. -/
  generated : ∀ offset made, .generate offset made ∈ steps →
    made = Batch.generate settings.batchSize offset settings.valueSize
  /-- What is prepared is the batch that was made up at its offset. -/
  prepared : ∀ offset batch answer, .prepare offset batch answer ∈ steps →
    Batch.generate settings.batchSize offset settings.valueSize = .ok batch
  /-- What is applied was prepared by the step right before. -/
  operated : ∀ before offset object op answer after,
    steps = before ++ .operate offset object op answer :: after →
      ∃ earlier batch, before = earlier ++ [.prepare offset batch (.ok op)]
  /-- No step but the last failed. -/
  stopped : ∀ step ∈ steps.dropLast, step.failure = none
  /-- The run succeeds exactly if no step failed. -/
  succeeded : (∃ elapsed, result = .ok elapsed) ↔ ∀ step ∈ steps, step.failure = none
  /-- A run that succeeds does its whole plan. -/
  whole : (∃ elapsed, result = .ok elapsed) → steps.map Step.planned = plan settings object
  /-- A run that fails does so the way its last step did. -/
  failed : ∀ e, result = .error e → ∃ last, steps.getLast? = some last ∧ last.failure = some e
  /-- The measurements count the batches that were written, with their
  pairs and value bytes. -/
  counted : tally perf = tallyOf settings .empty (steps.countP Step.wrote)

/-! ### Traces -/

/-- Steps that follow a plan and end at the first failure. Traces of the
parts of a run are put together as the run is. -/
structure Trace {ω : Type} (plan : List Planned) (steps : List (Step ω)) (failure : Option RunError) :
    Prop where
  planned : steps.map Step.planned <+: plan
  whole : failure = none → steps.map Step.planned = plan
  succeeded : failure = none → ∀ step ∈ steps, step.failure = none
  failed : ∀ e, failure = some e → ∃ front last, steps = front ++ [last] ∧ last.failure = some e ∧
    ∀ step ∈ front, step.failure = none

namespace Trace

variable {ω : Type} {plan plan' : List Planned} {steps steps' : List (Step ω)}
  {failure : Option RunError}

/-- Nothing is the trace of an empty plan. -/
theorem nil : Trace [] ([] : List (Step ω)) none where
  planned := List.nil_prefix
  whole _ := rfl
  succeeded _ _ h := by cases h
  failed _ h := by cases h

/-- A single step follows its own plan, whether it failed or not. -/
theorem single (step : Step ω) : Trace [step.planned] [step] step.failure where
  planned := List.prefix_rfl
  whole _ := rfl
  succeeded h := by simpa using h
  failed e h := ⟨[], step, rfl, h, by simp⟩

/-- After steps none of which failed, others may follow. The second part of
the plan only begins once the first is done. -/
theorem append (h : Trace plan steps none) (h' : Trace plan' steps' failure) :
    Trace (plan ++ plan') (steps ++ steps') failure where
  planned := by
    rw [List.map_append, h.whole rfl]
    exact List.prefix_append_right_inj _ |>.mpr h'.planned
  whole hn := by rw [List.map_append, h.whole rfl, h'.whole hn]
  succeeded hn step hstep := by
    rcases List.mem_append.mp hstep with hstep | hstep
    · exact h.succeeded rfl step hstep
    · exact h'.succeeded hn step hstep
  failed e he := by
    obtain ⟨front, last, rfl, hlast, hfront⟩ := h'.failed e he
    refine ⟨steps ++ front, last, (List.append_assoc ..).symm, hlast, fun step hstep => ?_⟩
    rcases List.mem_append.mp hstep with hstep | hstep
    · exact h.succeeded rfl step hstep
    · exact hfront step hstep

/-- After a failure nothing follows, whatever else was planned. The steps
are a beginning of the longer plan, too. -/
theorem stop {e : RunError} (h : Trace plan steps (some e)) (rest : List Planned) :
    Trace (plan ++ rest) steps (some e) where
  planned := h.planned.trans (List.prefix_append plan rest)
  whole hn := by cases hn
  succeeded hn := by cases hn
  failed := h.failed

end Trace

/-- What holds of the steps of a run besides their order. Each of them works
on what an earlier one has made. -/
structure Sound {ω : Type} (settings : Settings) (steps : List (Step ω)) : Prop where
  generated : ∀ offset made, .generate offset made ∈ steps →
    made = Batch.generate settings.batchSize offset settings.valueSize
  prepared : ∀ offset batch answer, .prepare offset batch answer ∈ steps →
    Batch.generate settings.batchSize offset settings.valueSize = .ok batch
  operated : ∀ before offset object op answer after,
    steps = before ++ .operate offset object op answer :: after →
      ∃ earlier batch, before = earlier ++ [.prepare offset batch (.ok op)]

/-- Steps that are sound one after another are sound together. A write is
applied right after it was prepared, so the two never fall into different
parts. -/
theorem Sound.append {ω : Type} {settings : Settings} {steps steps' : List (Step ω)}
    (h : Sound settings steps) (h' : Sound settings steps') : Sound settings (steps ++ steps') where
  generated offset made hmem := by
    rcases List.mem_append.mp hmem with hmem | hmem
    · exact h.generated offset made hmem
    · exact h'.generated offset made hmem
  prepared offset batch answer hmem := by
    rcases List.mem_append.mp hmem with hmem | hmem
    · exact h.prepared offset batch answer hmem
    · exact h'.prepared offset batch answer hmem
  operated before offset object op answer after heq := by
    rcases List.append_eq_append_iff.mp heq with ⟨more, rfl, hsteps'⟩ | ⟨more, rfl, hmore⟩
    · obtain ⟨earlier, batch, rfl⟩ := h'.operated more offset object op answer after hsteps'
      exact ⟨steps ++ earlier, batch, (List.append_assoc ..).symm⟩
    · cases more with
      | nil =>
        obtain ⟨earlier, batch, hnil⟩ := h'.operated [] offset object op answer after hmore.symm
        simp at hnil
      | cons first more =>
        obtain ⟨rfl, -⟩ := List.cons.inj hmore
        exact h.operated before offset object op answer more rfl

/-- Steps none of which applies a write. For these nothing has to be said
about what came before. -/
theorem Sound.of_forall {ω : Type} {settings : Settings} {steps : List (Step ω)}
    (hgenerate : ∀ offset made, .generate offset made ∈ steps →
      made = Batch.generate settings.batchSize offset settings.valueSize)
    (hprepare : ∀ offset batch answer, .prepare offset batch answer ∈ steps →
      Batch.generate settings.batchSize offset settings.valueSize = .ok batch)
    (hoperate : ∀ offset object op answer, .operate offset object op answer ∉ steps) :
    Sound settings steps where
  generated := hgenerate
  prepared := hprepare
  operated _ offset object op answer _ heq :=
    absurd (heq ▸ List.mem_append_right _ List.mem_cons_self) (hoperate offset object op answer)

/-! ### What a run does is such a trace -/

/-- How a run ends early that comes to a result. A success is no end in this
sense, since something may follow. -/
def failureOf {α : Type} : Except RunError α → Option RunError
  | .ok _ => none
  | .error e => some e

/-- A made-up value reads as its digits. They are all ASCII, so nothing is
lost when it is printed as text. -/
theorem decodeLossy_rotatingDigits (index size : Nat) :
    Utf8.decodeLossy (rotatingDigits index size) =
      String.ofList ((List.range size).map fun k => Nat.digitChar ((index + k) % 10)) := by
  have hdigit : ∀ d < 10, [(48 + d).toUInt8] = Utf8.encodeChar (Nat.digitChar d) := by decide
  have hbytes : rotatingDigits index size =
      Utf8.encodeChars ((List.range size).map fun k => Nat.digitChar ((index + k) % 10)) := by
    rw [rotatingDigits, Utf8.encodeChars, List.flatMap_map, List.map_eq_flatMap]
    congr 1
    funext k
    exact hdigit _ (Nat.mod_lt _ (by decide))
  rw [hbytes, Utf8.decodeLossy, Utf8.decodeCharsLossy_encodeChars]

/-- The line that a run prints for a pair is the one that its index tells. -/
theorem pairLine_generated (size index : Nat) :
    pairLine (Pair.generated size index) = lineAt size index := by
  rw [pairLine, lineAt, Pair.generated, Pair.valueText, Pair.size, decodeLossy_rotatingDigits,
    length_rotatingDigits]

/-- The lines of a stretch of pairs are those of its indexes, in order. -/
theorem map_pairLine_stretch (size start count : Nat) :
    (Pair.stretch size start count).map pairLine = (List.range' start count).map (lineAt size) := by
  rw [Pair.stretch, List.map_map]
  exact List.map_congr_left fun i _ => pairLine_generated size i

variable {σ ω : Type} {bed : Testbed (StateM σ) ω} {settings : Settings} {object : String}

/-- Lines are printed one after another until one fails. The induction is on
the lines, and the first that fails is the last call. -/
theorem trace_printLines (lines : List String) {r : Except OutputError Unit}
    {s s' : σ × List (Call ω)} (h : printLines (recorded bed) lines s = (r, s')) :
    ∃ steps : List (Step ω), s'.2 = s.2 ++ steps.filterMap Step.call?
      ∧ Trace (lines.map .print) steps (failureOf (r.mapError .output))
      ∧ ∀ step ∈ steps, ∃ line answer, step = .print line answer := by
  induction lines generalizing s with
  | nil =>
    cases h
    exact ⟨[], (List.append_nil _).symm, .nil, by simp⟩
  | cons line lines ih =>
    rw [printLines] at h
    rcases hprint : ((recorded bed).printLine line).run s with ⟨answer, s₁⟩
    have hrecord : s₁.2 = s.2 ++ [.print line answer] := log_of_record hprint
    have htrace := Trace.single (Step.print (ω := ω) line answer)
    rw [hprint] at h
    cases answer with
    | error e =>
      cases h
      exact ⟨[.print line (.error e)], hrecord, htrace.stop (lines.map .print), by simp⟩
    | ok _ =>
      obtain ⟨steps, hlog, hrest, hprints⟩ := ih h
      refine ⟨.print line (.ok ()) :: steps, ?_, htrace.append hrest, ?_⟩
      · rw [hlog, hrecord, List.append_assoc]
        rfl
      · simpa using hprints

/-- The lines of a made-up batch are the planned ones. There are none if the
settings don't ask for them. -/
theorem trace_printBatch {offset : Nat} {batch : Batch}
    (made : Batch.generate settings.batchSize offset settings.valueSize = .ok batch)
    {r : Except OutputError Unit} {s s' : σ × List (Call ω)}
    (h : printBatch (recorded bed) settings batch s = (r, s')) :
    ∃ steps : List (Step ω), s'.2 = s.2 ++ steps.filterMap Step.call?
      ∧ Trace ((planLines settings offset).map .print) steps (failureOf (r.mapError .output))
      ∧ ∀ step ∈ steps, ∃ line answer, step = .print line answer := by
  rw [printBatch] at h
  rw [planLines]
  split at h
  next hdebug =>
    have hlines : batch.pairs.map pairLine =
        (List.range' offset settings.batchSize).map (lineAt settings.valueSize) := by
      obtain rfl := eq_of_generate made
      exact map_pairLine_stretch settings.valueSize offset settings.batchSize
    rw [if_pos hdebug, ← hlines]
    exact trace_printLines _ h
  next hdebug =>
    cases h
    rw [if_neg hdebug]
    exact ⟨[], (List.append_nil _).symm, .nil, by simp⟩

/-- The steps that begin with a batch that could be made up, up to its
last line. -/
theorem trace_begin {offset : Nat} {batch : Batch}
    (made : Batch.generate settings.batchSize offset settings.valueSize = .ok batch)
    {r : Except OutputError Unit} {s s₁ s₂ : σ × List (Call ω)} (before : s₁.2 = s.2)
    (printed : printBatch (recorded bed) settings batch s₁ = (r, s₂)) :
    ∃ steps : List (Step ω), s₂.2 = s.2 ++ steps.filterMap Step.call?
      ∧ Trace ([.generate offset] ++ (planLines settings offset).map .print) steps
        (failureOf (r.mapError .output))
      ∧ Sound settings steps ∧ steps.countP Step.wrote = 0 := by
  obtain ⟨steps, hlog, htrace, hprints⟩ := trace_printBatch made printed
  refine ⟨.generate offset (.ok batch) :: steps, ?_,
    (Trace.single (Step.generate (ω := ω) offset (.ok batch))).append htrace, ?_, ?_⟩
  · rw [hlog, before]
    rfl
  -- None of these steps prepares or applies anything, so only the batch has to be looked at.
  · refine .of_forall (fun o m hmem => ?_) (fun o b a hmem => ?_) (fun o b op a hmem => ?_)
    · rcases List.mem_cons.mp hmem with heq | hmem
      · cases heq
        exact made.symm
      · obtain ⟨line, answer, heq⟩ := hprints _ hmem
        cases heq
    · rcases List.mem_cons.mp hmem with heq | hmem
      · cases heq
      · obtain ⟨line, answer, heq⟩ := hprints _ hmem
        cases heq
    · rcases List.mem_cons.mp hmem with heq | hmem
      · cases heq
      · obtain ⟨line, answer, heq⟩ := hprints _ hmem
        cases heq
  · rw [List.countP_eq_zero]
    intro step hstep
    rcases List.mem_cons.mp hstep with rfl | hstep
    · simp [Step.wrote]
    · obtain ⟨line, answer, rfl⟩ := hprints step hstep
      simp [Step.wrote]

/-- A prepared write and its application belong together. Both are about the
batch that was made up at the offset. -/
theorem sound_submit {offset : Nat} {batch : Batch}
    (made : Batch.generate settings.batchSize offset settings.valueSize = .ok batch) (object : String)
    (op : ω) (answer : Except SessionError Unit) :
    Sound settings [.prepare offset batch (.ok op), .operate offset object op answer] where
  generated o m hmem := by simp at hmem
  prepared o b a hmem := by
    simp only [List.mem_cons, Step.prepare.injEq, reduceCtorEq, List.not_mem_nil, or_false] at hmem
    obtain ⟨rfl, rfl, -⟩ := hmem
    exact made
  operated before o b op' a after heq := by
    rcases before with _ | ⟨first, _ | ⟨second, before⟩⟩
    · simp at heq
    · simp only [List.cons_append, List.nil_append, List.cons.injEq, Step.operate.injEq] at heq
      obtain ⟨rfl, ⟨rfl, rfl, rfl, rfl⟩, -⟩ := heq
      exact ⟨[], batch, rfl⟩
    · simp at heq

/-- The steps of a batch whose write was prepared, whatever the session
answered to the write itself. -/
theorem trace_operate {offset : Nat} {batch : Batch} {op : ω} {answer : Except SessionError Unit}
    {s s₁ s₂ s₃ s₄ s₅ : σ × List (Call ω)}
    (made : Batch.generate settings.batchSize offset settings.valueSize = .ok batch)
    (before : s₁.2 = s.2) (printed : printBatch (recorded bed) settings batch s₁ = (.ok (), s₂))
    (between : s₃.2 = s₂.2)
    (prepared : ((recorded bed).session.prepare batch).run s₃ = (.ok op, s₄))
    (operated : ((recorded bed).session.operate object op).run s₄ = (answer, s₅)) :
    ∃ steps : List (Step ω), s₅.2 = s.2 ++ steps.filterMap Step.call?
      ∧ Trace (planBatch settings object offset) steps
        (failureOf (answer.mapError (.writeFailure offset object)))
      ∧ Sound settings steps ∧ steps.countP Step.wrote = answer.isOk.toNat := by
  obtain ⟨steps, hlog, htrace, hsound, hwrote⟩ := trace_begin made before printed
  have hprepare : s₄.2 = s₃.2 ++ [.prepare batch (.ok op)] := log_of_record prepared
  have hoperate : s₅.2 = s₄.2 ++ [.operate object op answer] := log_of_record operated
  refine ⟨steps ++ [.prepare offset batch (.ok op), .operate offset object op answer], ?_, ?_,
    hsound.append (sound_submit made object op answer), ?_⟩
  · rw [hoperate, hprepare, between, hlog, List.filterMap_append, List.append_assoc, List.append_assoc]
    rfl
  · rw [planBatch, ← eq_of_generate made]
    have hsubmit := (Trace.single (Step.prepare offset batch (.ok op))).append
      (Trace.single (Step.operate offset object op answer))
    cases answer <;> exact htrace.append hsubmit
  · rw [List.countP_append, hwrote]
    cases answer <;> rfl

/-- The write of a batch is a trace of the steps at its offset. It may end
in five ways, and each stops at another place of the plan or at its end. -/
theorem trace_batchRun {offset : Nat} {s s' : σ × List (Call ω)} {r : Except RunError Unit}
    (h : BatchRun (recorded bed) Prod.snd settings object offset s r s') :
    ∃ steps : List (Step ω), s'.2 = s.2 ++ steps.filterMap Step.call?
      ∧ Trace (planBatch settings object offset) steps (failureOf r)
      ∧ Sound settings steps ∧ steps.countP Step.wrote = r.isOk.toNat := by
  cases h with
  | @generateFailed e s' made same =>
    refine ⟨[.generate offset (.error e)], ?_, ?_, ?_, rfl⟩
    · rw [same]
      exact (List.append_nil _).symm
    · exact ((Trace.single (Step.generate (ω := ω) offset (.error e))).stop _).stop _
    · refine .of_forall (fun o m hmem => ?_) (by simp) (by simp)
      cases List.mem_singleton.mp hmem
      exact made.symm
  | @outputFailed batch e s₁ s' made before printed =>
    obtain ⟨steps, hlog, htrace, hsound, hwrote⟩ := trace_begin made before printed
    exact ⟨steps, hlog, htrace.stop _, hsound, hwrote⟩
  -- The last step of the plan is left out.
  | @prepareFailed batch e s₁ s₂ s₃ s₄ s' made before printed between prepared same =>
    obtain ⟨steps, hlog, htrace, hsound, hwrote⟩ := trace_begin made before printed
    have hprepare : s₄.2 = s₃.2 ++ [.prepare batch (.error e)] := log_of_record prepared
    have hsingle := Trace.single (Step.prepare (ω := ω) offset batch (.error e))
    refine ⟨steps ++ [.prepare offset batch (.error e)], ?_, ?_, hsound.append ?_, ?_⟩
    · rw [same, hprepare, between, hlog, List.filterMap_append, List.append_assoc]
      rfl
    · rw [planBatch, ← eq_of_generate made]
      exact htrace.append (hsingle.stop [.operate offset object])
    · refine .of_forall (by simp) (fun o b a hmem => ?_) (by simp)
      cases List.mem_singleton.mp hmem
      exact made
    · rw [List.countP_append, hwrote]
      rfl
  | @operateFailed batch op e s₁ s₂ s₃ s₄ s₅ s' made before printed between prepared operated same =>
    rw [same]
    exact trace_operate made before printed between prepared operated
  | @written batch op s₁ s₂ s₃ s₄ s₅ s' made before printed between prepared operated same =>
    rw [same]
    exact trace_operate made before printed between prepared operated

/-- A run over offsets is a trace of the steps at all of them, and
writes a batch with each write that succeeds. -/
theorem trace_loopRun {offsets : List Nat} {s s' : σ × List (Call ω)} {r : Except RunError Unit}
    {n : Nat} (h : LoopRun (recorded bed) Prod.snd settings object offsets s r s' n) :
    ∃ steps : List (Step ω), s'.2 = s.2 ++ steps.filterMap Step.call?
      ∧ Trace (offsets.flatMap (planBatch settings object)) steps (failureOf r)
      ∧ Sound settings steps ∧ steps.countP Step.wrote = n := by
  induction h with
  | done =>
    exact ⟨[], (List.append_nil _).symm, .nil, .of_forall (by simp) (by simp) (by simp), rfl⟩
  | failed batch =>
    obtain ⟨steps, hlog, htrace, hsound, hwrote⟩ := trace_batchRun batch
    exact ⟨steps, hlog, htrace.stop _, hsound, hwrote⟩
  | next batch rest ih =>
    obtain ⟨steps, hlog, htrace, hsound, hwrote⟩ := trace_batchRun batch
    obtain ⟨steps', hlog', htrace', hsound', hwrote'⟩ := ih
    refine ⟨steps ++ steps', ?_, htrace.append htrace', hsound.append hsound', ?_⟩
    · rw [hlog', hlog, List.filterMap_append, List.append_assoc]
    · rw [List.countP_append, hwrote, hwrote', Nat.add_comm]
      rfl

/-- A run that is a trace of its plan stopped at its first failure. Here
what was said of parts of a run is said of the whole. -/
theorem FailsFast.of_trace {steps : List (Step ω)} {result : Except RunError Elapsed}
    {perf : Performance} (htrace : Trace (plan settings object) steps (failureOf result))
    (hsound : Sound settings steps)
    (hcount : tally perf = tallyOf settings .empty (steps.countP Step.wrote)) :
    FailsFast settings object steps result perf := by
  refine ⟨htrace.planned, hsound.generated, hsound.prepared, hsound.operated, ?_, ?_, ?_, ?_,
    hcount⟩
  · intro step hstep
    cases result with
    | ok elapsed => exact htrace.succeeded rfl step (List.dropLast_subset steps hstep)
    | error e =>
      obtain ⟨front, last, rfl, -, hfront⟩ := htrace.failed e rfl
      rw [List.dropLast_concat] at hstep
      exact hfront step hstep
  · constructor
    · rintro ⟨elapsed, rfl⟩
      exact htrace.succeeded rfl
    · intro hnone
      cases result with
      | ok elapsed => exact ⟨elapsed, rfl⟩
      | error e =>
        obtain ⟨front, last, rfl, hlast, -⟩ := htrace.failed e rfl
        rw [hnone last (by simp)] at hlast
        cases hlast
  · rintro ⟨elapsed, rfl⟩
    exact htrace.whole rfl
  · rintro e rfl
    obtain ⟨front, last, rfl, hlast, -⟩ := htrace.failed e rfl
    exact ⟨last, List.getLast?_concat, hlast⟩

/-- Every run stops at its first failure, whatever its session and its
output answer to the calls made so far. The steps are those whose
calls a record of the run shows. -/
theorem perform_failsFast (bed : Testbed (StateM σ) ω) (settings : Settings) (object : String)
    (s : σ) :
    ∃ (steps : List (Step ω)) (result : Except RunError Elapsed) (perf : Performance) (s' : σ),
      ((perform bed settings object).run .empty).run s = ((result, perf), s')
      ∧ ((perform (recorded bed) settings object).run .empty).run (s, []) =
        ((result, perf), (s', steps.filterMap Step.call?))
      ∧ FailsFast settings object steps result perf := by
  obtain ⟨result, perf, t, s₁, s₂, n, hrun, hs₁, hloop, ht, hcount⟩ :=
    loopRun_perform settings object (quiet_recorded bed) .empty (s, [])
  obtain ⟨steps, hlog, htrace, hsound, hwrote⟩ := trace_loopRun hloop
  obtain ⟨log, hshadow⟩ := perform_recorded bed settings object .empty s []
  rw [hrun] at hshadow
  have hrecord : t.2 = steps.filterMap Step.call? := by
    rw [ht, hlog, hs₁]
    rfl
  have hplan : settings.offsets.toList.flatMap (planBatch settings object) = plan settings object := by
    rw [plan, settings.toList_offsets, settings.plannedBatches_eq]
  have hfailure : failureOf (result.map fun _ => ()) = failureOf result := by
    cases result <;> rfl
  rw [hplan, hfailure] at htrace
  rw [← hwrote] at hcount
  refine ⟨steps, result, perf, t.1, ?_, ?_, .of_trace htrace hsound hcount⟩
  · obtain ⟨hresult, hstate⟩ := Prod.mk.inj hshadow
    exact Prod.ext hresult.symm (congrArg Prod.fst hstate).symm
  · rw [hrun, ← hrecord]

end MapBench.Run
