import MapBench.Client.Program
import MapBench.Machine
import MapBench.Proofs.Number.Decimal
import MapBench.Proofs.Run.FailFast
import MapBench.Proofs.Time.Elapsed

/-!
# `MapBench.Proofs.Client.Output`: what the benchmark prints

Apart from its session, a run on a machine only prints, and it does so
batch by batch. The summary, the pairs and the elapsed time can be told
apart by how their lines begin.

* `Machine.Printed`: lines were printed on a machine, and nothing else
  that shows on it has changed.
* `Settings.debugLines`: the lines that show the pairs of indexes.
* `Run.printed_loopRun`, `Run.printed_perform`: what a run prints.
* `IsElapsedLine`: a line that tells how long a run took.
* `isElapsedLine_between`: the line of the time between two timestamps is
  one. `not_isElapsedLine_of_mem`: all other lines are none, and
  `newline_notMem_of_mem`: none is made of several.
-/

set_option autoImplicit false

namespace MapBench

variable {ω : Type}

/-! ### Lines on a machine -/

/-- Lines, each with its end. That is what a program prints that prints them
one after another. -/
def unlines : List String → String
  | [] => ""
  | line :: lines => line ++ "\n" ++ unlines lines

/-- Lines printed after others stand behind them. -/
theorem unlines_append (lines more : List String) :
    unlines (lines ++ more) = unlines lines ++ unlines more := by
  induction lines with
  | nil => simp [unlines]
  | cons line lines ih => simp [unlines, ih, String.append_assoc]

namespace Machine

/-- What shows on a machine besides its files, its network, its clock and
what is drawn on it. -/
def apparent (m : Machine ω) : String × String × Option LogTarget × List (String × String) :=
  (m.printed, m.complaints, m.log?, m.environment)

/-- Print lines. Nothing but the output changes. -/
def prints (m : Machine ω) (lines : List String) : Machine ω :=
  { m with printed := m.printed ++ unlines lines }

/-- Lines were printed, and nothing else that shows has changed. What isn't
looked at may have changed in any way. -/
def Printed (m : Machine ω) (lines : List String) (m' : Machine ω) : Prop :=
  m'.apparent = (m.prints lines).apparent

/-- What a display does is no part of what is looked at. So a run with a
display can be compared to one without. -/
def Overlooks {τ : Type} (view : Machine ω → τ)
    (progress : Option (ProgressBar (StateM (Machine ω)))) : Prop :=
  ∀ bar ∈ progress, ∀ m, (∀ n, view ((bar.advance n).run m).2 = view m) ∧
    view (bar.finish.run m).2 = view m

/-- To print no lines is to print nothing. -/
theorem prints_nil (m : Machine ω) : m.prints [] = m := by
  simp [prints, unlines]

/-- Lines can be printed in one go or in two. -/
theorem prints_append (m : Machine ω) (lines more : List String) :
    m.prints (lines ++ more) = (m.prints lines).prints more := by
  simp [prints, unlines_append, String.append_assoc]

/-- Where all that shows is the same, nothing was printed. -/
theorem printed_of_apparent {m m' : Machine ω} (h : m'.apparent = m.apparent) : m.Printed [] m' := by
  rw [Printed, prints_nil, h]

/-- What was printed was printed. -/
theorem printed_prints (m : Machine ω) (lines : List String) : m.Printed lines (m.prints lines) :=
  rfl

namespace Printed

variable {m m' m'' : Machine ω} {lines more : List String}

/-- The output has the lines at its end. -/
theorem printed (h : m.Printed lines m') : m'.printed = m.printed ++ unlines lines :=
  congrArg Prod.fst h

/-- The complaints are as they were. -/
theorem complaints (h : m.Printed lines m') : m'.complaints = m.complaints :=
  congrArg (·.2.1) h

/-- So is the log that is open. -/
theorem log? (h : m.Printed lines m') : m'.log? = m.log? :=
  congrArg (·.2.2.1) h

/-- Lines printed one after another are printed together. -/
theorem trans (h : m.Printed lines m') (h' : m'.Printed more m'') : m.Printed (lines ++ more) m'' := by
  have hprinted := h.printed
  simp only [Printed, apparent, prints, Prod.mk.injEq] at h h' ⊢
  obtain ⟨-, hcomplaints, hlog, henvironment⟩ := h
  rw [hprinted, hcomplaints, hlog, henvironment] at h'
  rw [unlines_append, ← String.append_assoc]
  exact h'

/-- Before or after lines, what shows may stay the same. The session and the
clocks work in between. -/
theorem same (h : m.Printed lines m') (h' : m''.apparent = m'.apparent) : m.Printed lines m'' :=
  Eq.trans h' h

end Printed

end Machine

/-! ### The lines of a run -/

/-- The lines that show the pairs of so many indexes from one on, if the
settings ask for them. -/
def Settings.debugLines (s : Settings) (start count : Nat) : List String :=
  if s.debug then (List.range' start count).map (Run.lineAt s.valueSize) else []

/-- The lines of a stretch of pairs are those of its parts. -/
theorem Settings.debugLines_append (s : Settings) (start count more : Nat) :
    s.debugLines start count ++ s.debugLines (start + count) more =
      s.debugLines start (count + more) := by
  rw [debugLines, debugLines, debugLines]
  split
  · rw [← List.map_append, List.range'_append_1]
  · rfl

/-- No pairs have no lines. -/
theorem Settings.debugLines_zero (s : Settings) (start : Nat) : s.debugLines start 0 = [] := by
  rw [debugLines]
  split <;> rfl

namespace Run

variable {net : Network (StateM ω)} {session : Session} {progress : Option (ProgressBar (StateM (Machine ω)))}
  {settings : Settings} {object : String}

/-- What a session runs in on a machine. The display may be any, so that
runs with one and without are covered. -/
abbrev bedOn (net : Network (StateM ω)) (session : Session)
    (progress : Option (ProgressBar (StateM (Machine ω)))) : Testbed (StateM (Machine ω)) WriteOp :=
  (Machine.clientHost net).testbed session progress

/-- On a machine every line can be printed. A pipe whose reader has gone
isn't among its outputs. -/
theorem printLines_machine (lines : List String) (m : Machine ω) :
    printLines (bedOn net session progress) lines m = (.ok (), m.prints lines) := by
  induction lines generalizing m with
  | nil => rw [printLines, Machine.prints_nil]
  | cons line lines ih =>
    have hline : ((bedOn net session progress).printLine line).run m = (.ok (), m.prints [line]) := by
      simp only [Machine.prints, unlines, String.append_empty, ← String.append_assoc]
      rfl
    rw [printLines, hline]
    exact (ih _).trans (by rw [← Machine.prints_append, List.singleton_append])

/-- The lines of a made-up batch are those of its indexes. There are none if
the settings don't ask for them. -/
theorem printBatch_machine {offset : Nat} {batch : Batch}
    (made : Batch.generate settings.batchSize offset settings.valueSize = .ok batch) (m : Machine ω) :
    printBatch (bedOn net session progress) settings batch m =
      (.ok (), m.prints (settings.debugLines offset settings.batchSize)) := by
  obtain rfl := eq_of_generate made
  rw [printBatch, Settings.debugLines]
  split
  · rw [printLines_machine, map_pairLine_stretch]
  · rw [Machine.prints_nil]

/-- Operations of a session don't show on a machine. They work on the world,
which is looked at elsewhere. -/
theorem apparent_of_onWorld {α : Type} {act : StateM (World ω) α} {m m' : Machine ω} {a : α}
    (h : (Machine.onWorld act).run m = (a, m')) : m'.apparent = m.apparent := by
  obtain ⟨-, rfl⟩ := Prod.mk.inj h
  rfl

/-- Clocks and pauses change nothing but the time, and a display nothing that
is looked at. -/
theorem quiet_bedOn {τ : Type} {view : Machine ω → τ} (hdisplay : Machine.Overlooks view progress)
    (htime : ∀ (m : Machine ω) clock, view { m with clock } = view m) :
    Quiet (bedOn net session progress) view where
  now m := htime m _
  wallClock m := htime m _
  pause _ m := htime m _
  advance bar h n m := (hdisplay bar h m).1 n
  finish bar h m := (hdisplay bar h m).2

/-- The write of a batch prints the lines of the whole batch or none, and
all of them if it succeeds. -/
theorem printed_batchRun {offset : Nat} {m m' : Machine ω} {r : Except RunError Unit}
    (hrun : BatchRun (bedOn net session progress) Machine.apparent settings object offset m r m') :
    ∃ count, m.Printed (settings.debugLines offset count) m' ∧
      (count = 0 ∧ r.isOk = false ∨
        count = settings.batchSize ∧ offset + settings.batchSize ≤ Key.limit) := by
  -- Once the batch is made up, its lines are printed, and no later step prints more.
  have hlines {batch : Batch} {s₁ s₂ s₃ : Machine ω}
      (made : Batch.generate settings.batchSize offset settings.valueSize = .ok batch)
      (before : s₁.apparent = m.apparent)
      (printed : printBatch (bedOn net session progress) settings batch s₁ = (.ok (), s₂))
      (same : s₃.apparent = s₂.apparent) :
      m.Printed (settings.debugLines offset settings.batchSize) s₃ := by
    rw [printBatch_machine made] at printed
    obtain ⟨-, rfl⟩ := Prod.mk.inj printed
    exact ((Machine.printed_of_apparent before).trans (Machine.printed_prints s₁ _)).same same
  cases hrun with
  | generateFailed made same =>
    exact ⟨0, settings.debugLines_zero offset ▸ Machine.printed_of_apparent same, .inl ⟨rfl, rfl⟩⟩
  | outputFailed made before printed =>
    rw [printBatch_machine made] at printed
    cases printed
  | prepareFailed made before printed between prepared same =>
    refine ⟨_, hlines made before printed ?_, .inr ⟨rfl, fits_of_generate made⟩⟩
    rw [same, apparent_of_onWorld prepared, between]
  | operateFailed made before printed between prepared operated same =>
    refine ⟨_, hlines made before printed ?_, .inr ⟨rfl, fits_of_generate made⟩⟩
    rw [same, apparent_of_onWorld operated, apparent_of_onWorld prepared, between]
  | written made before printed between prepared operated same =>
    refine ⟨_, hlines made before printed ?_, .inr ⟨rfl, fits_of_generate made⟩⟩
    rw [same, apparent_of_onWorld operated, apparent_of_onWorld prepared, between]

/-- A run over consecutive batches prints the lines of the first pairs, of
all of them if it succeeds, and only of pairs that have keys. -/
theorem printed_loopRun {m k n : Nat} {s s' : Machine ω} {r : Except RunError Unit}
    (hrun : LoopRun (bedOn net session progress) Machine.apparent settings object
      ((List.range' k m).map (· * settings.batchSize)) s r s' n) :
    ∃ count, s.Printed (settings.debugLines (k * settings.batchSize) count) s' ∧
      count ≤ m * settings.batchSize ∧ (r.isOk = true → count = m * settings.batchSize) ∧
      (count = 0 ∨ k * settings.batchSize + count ≤ Key.limit) := by
  -- By induction on the batches that are left; `k` counts those before them.
  induction m generalizing k n s with
  | zero =>
    cases hrun
    exact ⟨0, settings.debugLines_zero _ ▸ Machine.printed_of_apparent rfl, Nat.zero_le _,
      fun _ => (Nat.zero_mul _).symm, .inl rfl⟩
  | succ m ih =>
    rw [List.range'_succ, List.map_cons] at hrun
    rw [Nat.succ_mul]
    cases hrun with
    | failed batch =>
      obtain ⟨count, hprinted, ⟨rfl, -⟩ | ⟨rfl, hfits⟩⟩ := printed_batchRun batch
      · exact ⟨0, hprinted, Nat.zero_le _, (by cases ·), .inl rfl⟩
      · exact ⟨_, hprinted, by omega, (by cases ·), .inr hfits⟩
    | next batch rest =>
      obtain ⟨_, hfirst, ⟨-, hfailed⟩ | ⟨rfl, hfits⟩⟩ := printed_batchRun batch
      · cases hfailed
      · obtain ⟨count, hrest, hle, hall, hlimit⟩ := ih rest
        rw [Nat.succ_mul] at hrest hlimit
        have hlines := hfirst.trans hrest
        rw [settings.debugLines_append] at hlines
        exact ⟨_, hlines, by omega, fun hok => by have := hall hok; omega, by omega⟩

/-- A run prints the lines of the first pairs, at most of those that are
planned, and of all of these if it succeeds. -/
theorem printed_perform (hdisplay : Machine.Overlooks Machine.apparent progress) {m m' : Machine ω}
    {result : Except RunError Elapsed} {perf : Performance}
    (hrun : ((perform (bedOn net session progress) settings object).run .empty).run m =
      ((result, perf), m')) :
    ∃ count ≤ settings.plannedPairs, m.Printed (settings.debugLines 0 count) m' ∧
      (result.isOk = true → count = settings.plannedPairs) := by
  have hquiet : Quiet (bedOn net session progress) Machine.apparent :=
    quiet_bedOn hdisplay fun _ _ => rfl
  obtain ⟨result', perf', m'', s₁, s₂, n, hperform, hbegin, hloop, hend, -⟩ :=
    loopRun_perform settings object hquiet .empty m
  obtain ⟨hresult, rfl⟩ := Prod.mk.inj (hrun.symm.trans hperform)
  obtain ⟨rfl, -⟩ := Prod.mk.inj hresult
  rw [settings.toList_offsets, List.range_eq_range'] at hloop
  obtain ⟨count, hprinted, hle, hall, hlimit⟩ := printed_loopRun hloop
  rw [Nat.zero_mul, Nat.zero_add] at hlimit
  rw [Nat.zero_mul] at hprinted
  have hplanned : settings.plannedPairs = min maxWord (settings.plannedBatches * settings.batchSize) := by
    rw [settings.plannedPairs_eq, settings.plannedBatches_eq, roundUp]
  -- A word holds every number of pairs that have keys.
  have hword : count ≤ maxWord := by
    have hkeys : Key.limit ≤ maxWord := by decide
    omega
  have hfirst : m.Printed [] s₁ := Machine.printed_of_apparent hbegin
  refine ⟨count, by omega, (hfirst.trans hprinted).same hend, fun hok => ?_⟩
  have hcount := hall (by cases result <;> exact hok)
  omega

end Run

/-! ### The line of the elapsed time -/

/-- The line tells a time in seconds, with nine digits after the point.
Those are the nanoseconds. -/
def IsElapsedLine (line : String) : Prop :=
  ∃ seconds nanos : List Char, seconds ≠ [] ∧ (∀ c ∈ seconds, c.isDigit) ∧ nanos.length = 9 ∧
    (∀ c ∈ nanos, c.isDigit) ∧
    line = "elapsed time = " ++ String.ofList (seconds ++ '.' :: nanos) ++ " sec"

/-- The time between any two timestamps is told so. -/
theorem isElapsedLine_between (start stop : Timestamp) :
    IsElapsedLine (Client.elapsedLine (.between start stop)) := by
  refine ⟨Decimal.digits _, Decimal.padded 9 _, ?_, fun _ => Decimal.digits_isDigit,
    Decimal.length_padded (Elapsed.nanos_between_lt start stop) (by decide), Decimal.padded_isDigit, rfl⟩
  exact Nat.toDigits_ne_nil

/-- Such a line begins with a letter that no other line begins with. So it
can be found in the output of a call. -/
theorem IsElapsedLine.head? {line : String} (h : IsElapsedLine line) : line.toList.head? = some 'e' := by
  obtain ⟨seconds, nanos, -, -, -, -, rfl⟩ := h
  simp [String.toList_append]

/-- A column on the right has blanks before its text. If the text is wider
than the column, there are none. -/
theorem toList_summaryLine (quantity : List Char) (label : String) :
    (Settings.summaryLine quantity label).toList =
      (List.replicate (11 - quantity.length) ' ' ++ quantity) ++ ' ' :: ':' :: ' ' :: label.toList := by
  simp [Settings.summaryLine, padTo, Alignment.before, String.toList_append]

/-- So a line of the summary begins with a blank or with its text. -/
theorem mem_of_head?_summaryLine {quantity : List Char} {label : String} {c : Char}
    (h : (Settings.summaryLine quantity label).toList.head? = some c) : c = ' ' ∨ c ∈ quantity := by
  rw [toList_summaryLine, List.head?_append, Option.or_eq_some_iff] at h
  rcases h with h | ⟨-, h⟩
  · rcases List.mem_append.mp (List.mem_of_mem_head? h) with hblank | hquantity
    · exact .inl (List.eq_of_mem_replicate hblank)
    · exact .inr hquantity
  · exact .inl (Option.some.inj h).symm

/-- It is a single line if its text and its label are. -/
theorem newline_notMem_summaryLine {quantity : List Char} {label : String} (hquantity : '\n' ∉ quantity)
    (hlabel : '\n' ∉ label.toList) : '\n' ∉ (Settings.summaryLine quantity label).toList := by
  simp [toList_summaryLine, hquantity, hlabel]

/-- A character that is neither a digit nor the point is in no time. That is
all that times are written with. -/
theorem Binary64.notMem_fixed {c : Char} (hdigit : c.isDigit = false) (hpoint : c ≠ '.') (places : Nat)
    (x : Binary64) : c ∉ x.fixed places := by
  simp [Binary64.fixed, MapBench.fixed, Decimal.notMem_digits hdigit, Decimal.notMem_padded hdigit,
    hpoint]

/-- No line of the summary tells how long a run took, and none that shows a
pair does. -/
theorem not_isElapsedLine_of_mem {s : Settings} {start count : Nat} {line : String}
    (h : line ∈ s.summary ++ s.debugLines start count) : ¬ IsElapsedLine line := by
  intro helapsed
  have hhead := helapsed.head?
  -- The lines with numbers begin with a blank or a digit.
  have hnumber {quantity : List Char} {label : String} (hmem : 'e' ∉ quantity)
      (heq : line = Settings.summaryLine quantity label) : False := by
    rw [heq] at hhead
    rcases mem_of_head?_summaryLine hhead with hblank | hquantity
    · cases hblank
    · exact hmem hquantity
  have hdigits := Decimal.notMem_digits (c := 'e') rfl
  rw [Settings.summary, Settings.debugLines] at h
  simp only [List.mem_append, List.mem_cons, List.not_mem_nil, or_false] at h
  rcases h with ((heq | heq | heq | rfl) | hthink) | hpair
  · exact hnumber (hdigits _) heq
  · exact hnumber (hdigits _) heq
  · exact hnumber (hdigits _) heq
  -- The name of the operation stands in its column as a word, so its first letter is looked
  -- at.
  · have hwrite : (Settings.summaryLine Operation.write.name.toList "operation type").toList.head? ≠
        some 'e' := by decide
    exact hwrite hhead
  · split at hthink
    · cases hthink
    · exact hnumber (Binary64.notMem_fixed rfl (by decide) 3 _) (List.mem_singleton.mp hthink)
  · split at hpair
    · obtain ⟨i, -, rfl⟩ := List.mem_map.mp hpair
      simp [Run.lineAt, String.toList_append] at hhead
    · cases hpair

/-- The line of a pair is a single line, since keys and values are made of
digits. -/
theorem newline_notMem_lineAt (valueSize index : Nat) : '\n' ∉ (Run.lineAt valueSize index).toList := by
  simp [Run.lineAt, Key.text, Decimal.text, String.toList_append, Decimal.notMem_digits,
    Decimal.notMem_padded]

/-- Each of these lines is a single line. So the lines of an output can be
told apart by their ends. -/
theorem newline_notMem_of_mem {s : Settings} {start count : Nat} {line : String}
    (h : line ∈ s.summary ++ s.debugLines start count) : '\n' ∉ line.toList := by
  have hnumber (n : Nat) {label : String} (hlabel : '\n' ∉ label.toList) :
      '\n' ∉ (Settings.summaryLine (Decimal.digits n) label).toList :=
    newline_notMem_summaryLine (Decimal.notMem_digits rfl n) hlabel
  rw [Settings.summary, Settings.debugLines] at h
  simp only [List.mem_append, List.mem_cons, List.not_mem_nil, or_false] at h
  rcases h with ((rfl | rfl | rfl | rfl) | hthink) | hpair
  · exact hnumber _ (by decide)
  · exact hnumber _ (by decide)
  · exact hnumber _ (by decide)
  · have hwrite : '\n' ∉ Operation.write.name.toList := by decide
    exact newline_notMem_summaryLine hwrite (by decide)
  · split at hthink
    · cases hthink
    · rw [List.mem_singleton.mp hthink]
      exact newline_notMem_summaryLine (Binary64.notMem_fixed rfl (by decide) 3 _) (by decide)
  · split at hpair
    · obtain ⟨i, -, rfl⟩ := List.mem_map.mp hpair
      exact newline_notMem_lineAt _ i
    · cases hpair

end MapBench
