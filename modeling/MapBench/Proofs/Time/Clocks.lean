import Mathlib.Algebra.BigOperators.Intervals
import MapBench.Performance

/-!
# `MapBench.Proofs.Time.Clocks`: a clock reads the length of its spans

Clocks are started, stopped and read in any order, at instants that
never go back. Where the spans of a clock begin and end is a matter of
that history alone: a span begins at a start of the clock while it
doesn't run, and ends at the next stop of it. So readings are compared
with the history, and nothing about spans is said in terms of what a
clock remembers.

* `Clocks.RunsAfter`, `Clocks.Begins`, `Clocks.spanEnd`,
  `Clocks.spanTime`: the spans of a clock in a history.
* `Clocks.get_after`: a clock sees its own calls and no others.
* `Clocks.isSome_started_after`, `Clocks.read_after`: what a history
  leaves of a clock.
* `Clocks.measuresSpans`: what a clock reads, and which calls don't
  matter to it.
-/

set_option autoImplicit false

namespace MapBench

/-- What can be done with clocks. Calls are told apart by the clock that
they are made on. -/
inductive ClockCall (κ : Type)
  | start (clock : κ)
  | stop (clock : κ)
  | read (clock : κ)
  deriving Repr, DecidableEq

/-- A call and the instant at which it is made. Instants are in nanoseconds,
from a moment that doesn't matter. -/
structure ClockEvent (κ : Type) where
  call : ClockCall κ
  instant : Nat
  deriving Repr, DecidableEq

namespace Clocks

variable {κ : Type}

/-! ### The spans of a history -/

/-- The event at a position starts the clock. It need not begin a span,
since the clock may be running. -/
def StartsAt (k : κ) (events : List (ClockEvent κ)) (i : Nat) : Prop :=
  events[i]?.map ClockEvent.call = some (.start k)

/-- The clock runs after a history: it was started, and not stopped
since. -/
def RunsAfter (k : κ) (events : List (ClockEvent κ)) : Prop :=
  ∃ i < events.length, StartsAt k events i ∧ ∀ e ∈ events.drop (i + 1), e.call ≠ .stop k

/-- A span of the clock begins at a position: there the clock is
started, and it doesn't run before. -/
def Begins (k : κ) (events : List (ClockEvent κ)) (i : Nat) : Prop :=
  StartsAt k events i ∧ ¬ RunsAfter k (events.take i)

/-- The calls that don't matter to a clock after a history. Which they are
can be told from the history alone. -/
inductive NoEffect (k : κ) (before : List (ClockEvent κ)) : ClockCall κ → Prop
  | repeatedStart (running : RunsAfter k before) : NoEffect k before (.start k)
  | idleStop (standing : ¬ RunsAfter k before) : NoEffect k before (.stop k)
  | reading (clock : κ) : NoEffect k before (.read clock)
  | otherStart {clock : κ} (other : clock ≠ k) : NoEffect k before (.start clock)
  | otherStop {clock : κ} (other : clock ≠ k) : NoEffect k before (.stop clock)

/-- The instant of the event at a position. There are no events behind the
end, and zero stands for their instants. -/
def instantAt (events : List (ClockEvent κ)) (i : Nat) : Nat :=
  events[i]?.elim 0 ClockEvent.instant

section

variable {k : κ} {events : List (ClockEvent κ)} {e : ClockEvent κ}

/-- One more event doesn't change which of the earlier ones are starts. -/
theorem startsAt_concat {i : Nat} (hi : i < events.length) :
    StartsAt k (events ++ [e]) i ↔ StartsAt k events i := by
  unfold StartsAt
  rw [List.getElem?_append_left hi]

/-- The last event is a start if its call is one. -/
theorem startsAt_concat_length :
    StartsAt k (events ++ [e]) events.length ↔ e.call = .start k := by
  unfold StartsAt
  simp

/-- A clock that was never started doesn't run. -/
theorem not_runsAfter_nil : ¬ RunsAfter k ([] : List (ClockEvent κ)) := by
  rintro ⟨i, hi, -⟩
  exact Nat.not_lt_zero i hi

/-- After one more call the clock runs if the call starts it, or if it
ran before and the call doesn't stop it. -/
theorem runsAfter_concat :
    RunsAfter k (events ++ [e]) ↔ e.call = .start k ∨ e.call ≠ .stop k ∧ RunsAfter k events := by
  have hdrop {i : Nat} (hi : i < events.length) :
      (events ++ [e]).drop (i + 1) = events.drop (i + 1) ++ [e] :=
    List.drop_append_of_le_length hi
  constructor
  · rintro ⟨i, hi, hstart, hstops⟩
    rw [List.length_append, List.length_singleton] at hi
    rcases Nat.lt_succ_iff_lt_or_eq.mp hi with hi | rfl
    · rw [hdrop hi, List.forall_mem_append] at hstops
      exact .inr ⟨hstops.2 e List.mem_cons_self, i, hi, (startsAt_concat hi).mp hstart, hstops.1⟩
    · exact .inl (startsAt_concat_length.mp hstart)
  · rintro (hstart | ⟨hstop, i, hi, hstart, hstops⟩)
    · refine ⟨events.length, by simp, startsAt_concat_length.mpr hstart, ?_⟩
      simp
    · refine ⟨i, by simp; omega, (startsAt_concat hi).mpr hstart, ?_⟩
      rw [hdrop hi, List.forall_mem_append]
      exact ⟨hstops, by simpa using hstop⟩

/-- One more call leaves the beginnings of the spans where they
are. -/
theorem begins_concat {i : Nat} (hi : i < events.length) :
    Begins k (events ++ [e]) i ↔ Begins k events i := by
  unfold Begins
  rw [startsAt_concat hi, List.take_append_of_le_length (Nat.le_of_lt hi)]

/-- The last event begins a span if it is a start and the clock stood still
before it. -/
theorem begins_concat_length :
    Begins k (events ++ [e]) events.length ↔ e.call = .start k ∧ ¬ RunsAfter k events := by
  unfold Begins
  rw [startsAt_concat_length, List.take_left]

end

section

variable [DecidableEq κ]

instance (k : κ) (events : List (ClockEvent κ)) (i : Nat) : Decidable (StartsAt k events i) :=
  inferInstanceAs (Decidable (_ = _))

instance (k : κ) (events : List (ClockEvent κ)) : Decidable (RunsAfter k events) :=
  inferInstanceAs (Decidable (∃ i < _, _ ∧ _))

instance (k : κ) (events : List (ClockEvent κ)) (i : Nat) : Decidable (Begins k events i) :=
  inferInstanceAs (Decidable (_ ∧ _))

/-- Where a span ends that begins at a position: at the next stop of
the clock, or now if there is none yet. -/
def spanEnd (k : κ) (events : List (ClockEvent κ)) (now i : Nat) : Nat :=
  ((events.drop (i + 1)).find? fun e => e.call = .stop k).elim now ClockEvent.instant

/-- The total length of the spans of the clock, up to now. A span that is
still running counts up to this moment. -/
def spanTime (k : κ) (events : List (ClockEvent κ)) (now : Nat) : Nat :=
  ∑ i ∈ (Finset.range events.length).filter (Begins k events),
    (spanEnd k events now i - instantAt events i)

variable {k : κ} {events : List (ClockEvent κ)} {e : ClockEvent κ}

/-- A stop ends the spans that were still running. Other calls, and the
calls on other clocks, leave them running up to now. -/
theorem spanEnd_concat {i : Nat} (hi : i < events.length) (now : Nat) :
    spanEnd k (events ++ [e]) now i =
      spanEnd k events (if e.call = .stop k then e.instant else now) i := by
  unfold spanEnd
  rw [List.drop_append_of_le_length hi, List.find?_append]
  cases (events.drop (i + 1)).find? fun e => e.call = .stop k with
  | some f => rfl
  | none => by_cases hstop : e.call = .stop k <;> simp [hstop]

/-- One more call ends the span that was still running if it is a stop,
and begins another one if it is a start that isn't repeated. -/
theorem spanTime_concat (now : Nat) :
    spanTime k (events ++ [e]) now =
      spanTime k events (if e.call = .stop k then e.instant else now) +
        if e.call = .start k ∧ ¬ RunsAfter k events then now - e.instant else 0 := by
  unfold spanTime
  rw [Finset.sum_filter, Finset.sum_filter, List.length_append, List.length_singleton,
    Finset.sum_range_succ]
  congr 1
  · refine Finset.sum_congr rfl fun i hi => ?_
    have hi := Finset.mem_range.mp hi
    unfold instantAt
    rw [if_congr (begins_concat hi) rfl rfl, spanEnd_concat hi, List.getElem?_append_left hi]
  · -- The new event is the last one, so its span goes on until now.
    rw [if_congr begins_concat_length rfl rfl]
    simp [spanEnd, instantAt]

/-- A clock that is never started has no spans, so their lengths add up to
nothing. -/
theorem spanTime_of_not_started (h : ∀ e ∈ events, e.call ≠ .start k) (now : Nat) :
    spanTime k events now = 0 := by
  refine Finset.sum_eq_zero fun i hi => ?_
  obtain ⟨e, he, hcall⟩ := Option.map_eq_some_iff.mp (Finset.mem_filter.mp hi).2.1
  exact absurd hcall (h e (List.mem_of_getElem? he))

/-- In the order of time no span ends before it begins. This is the only
place where the order matters to the lengths. -/
theorem instantAt_le_spanEnd {now : Nat}
    (h : (events.map ClockEvent.instant ++ [now]).Pairwise (· ≤ ·)) {i : Nat}
    (hi : Begins k events i) : instantAt events i ≤ spanEnd k events now i := by
  obtain ⟨e, he, -⟩ := Option.map_eq_some_iff.mp hi.1
  obtain ⟨hlt, rfl⟩ := List.getElem?_eq_some_iff.mp he
  rw [List.pairwise_append] at h
  obtain ⟨hevents, -, hnow⟩ := h
  have hsplit : events = events.take i ++ events[i] :: events.drop (i + 1) := by simp
  rw [hsplit, List.map_append, List.map_cons, List.pairwise_append, List.pairwise_cons] at hevents
  obtain ⟨-, ⟨hlater, -⟩, -⟩ := hevents
  unfold instantAt spanEnd
  rw [he]
  cases hfind : (events.drop (i + 1)).find? fun e => e.call = .stop k with
  | none => exact hnow _ (List.mem_map_of_mem (List.getElem_mem hlt)) now List.mem_cons_self
  | some f => exact hlater _ (List.mem_map_of_mem (List.mem_of_find?_eq_some hfind))

end

end Clocks

/-! ### What calls do to a clock -/

namespace Stopwatch

variable {κ : Type} [DecidableEq κ]

/-- What a call does to the clock of a name, as the clock itself sees it. -/
def take (k : κ) (w : Stopwatch) (e : ClockEvent κ) : Stopwatch :=
  if e.call = .start k then w.start e.instant
  else if e.call = .stop k then w.stop e.instant
  else w

/-- A reading doesn't shrink while time goes on. A clock that stands still
reads the same. -/
theorem read_mono (w : Stopwatch) {t now : Nat} (h : t ≤ now) :
    (w.read t).nanoseconds ≤ (w.read now).nanoseconds := by
  unfold read
  cases w.started with
  | none => exact Nat.le_refl _
  | some began =>
    show w.spent.nanoseconds + (t - began) ≤ w.spent.nanoseconds + (now - began)
    omega

/-- A start of a clock that stands still begins a span. Of one that runs it
changes nothing: the time since it was first started counts. -/
theorem read_start (w : Stopwatch) (t now : Nat) :
    ((w.start t).read now).nanoseconds =
      (w.read now).nanoseconds + if w.started = none then now - t else 0 := by
  rcases w with ⟨spent, _ | began⟩
  · rfl
  · simp [start]

/-- A stopped clock reads what it read at the stop, from then on. -/
theorem read_stop (w : Stopwatch) (t now : Nat) : (w.stop t).read now = w.read t := by
  rcases w with ⟨spent, _ | began⟩ <;> rfl

/-- A clock runs after a start, whether it ran before or not. -/
theorem isSome_started_start (w : Stopwatch) (t : Nat) : (w.start t).started.isSome := by
  rcases w with ⟨spent, _ | began⟩ <;> rfl

/-- It stands still after a stop. -/
@[simp] theorem started_stop (w : Stopwatch) (t : Nat) : (w.stop t).started = none := by
  rcases w with ⟨spent, _ | began⟩ <;> rfl

/-- At the instant of a call the clock reads the same before it and
after it. -/
theorem read_take_self (k : κ) (w : Stopwatch) (e : ClockEvent κ) :
    ((w.take k e).read e.instant).nanoseconds = (w.read e.instant).nanoseconds := by
  unfold take
  split
  · rw [read_start]
    simp
  · split
    · rw [read_stop]
    · rfl

/-- While time goes on and calls are made, a reading doesn't shrink. By
induction on the calls: each of them leaves the clock with what it read at
that instant. -/
theorem read_le_read_foldl_take (k : κ) {events : List (ClockEvent κ)} (w : Stopwatch) {t now : Nat}
    (h : (t :: events.map ClockEvent.instant ++ [now]).Pairwise (· ≤ ·)) :
    (w.read t).nanoseconds ≤ ((events.foldl (take k) w).read now).nanoseconds := by
  induction events generalizing w t with
  | nil => exact w.read_mono (by simpa using h)
  | cons e events ih =>
    obtain ⟨hfirst, hrest⟩ := List.pairwise_cons.mp h
    calc (w.read t).nanoseconds
        ≤ (w.read e.instant).nanoseconds := w.read_mono (hfirst _ List.mem_cons_self)
      _ = ((w.take k e).read e.instant).nanoseconds := (read_take_self k w e).symm
      _ ≤ _ := ih (w.take k e) hrest

/-- A clock that stands still and isn't started stays as it is, whatever
else is called. -/
theorem foldl_take_of_standing {k : κ} {events : List (ClockEvent κ)} {w : Stopwatch}
    (hw : w.started = none) (h : ∀ e ∈ events, e.call ≠ .start k) : events.foldl (take k) w = w := by
  induction events with
  | nil => rfl
  | cons e events ih =>
    have hkept : w.take k e = w := by
      unfold take stop
      rw [if_neg (h e List.mem_cons_self), hw]
      simp
    rw [List.foldl_cons, hkept]
    exact ih fun f hf => h f (List.mem_cons_of_mem e hf)

end Stopwatch

namespace Clocks

section

variable {κ : Type} [Ord κ] [Std.TransOrd κ]

/-- Carry out a call. Reading a clock leaves all of them alone. -/
def take (c : Clocks κ) (e : ClockEvent κ) : Clocks κ :=
  match e.call with
  | .start k => c.start k e.instant
  | .stop k => c.stop k e.instant
  | .read _ => c

/-- The clocks after a history, one call after another. -/
def after (c : Clocks κ) (events : List (ClockEvent κ)) : Clocks κ :=
  events.foldl take c

/-- No clock has been started when there are none yet. -/
@[simp] theorem get_empty (k : κ) : (empty : Clocks κ).get k = .idle := by
  simp [get, empty]

/-- A start reaches the clock that it names. -/
@[simp] theorem get_start_self (c : Clocks κ) (k : κ) (now : Nat) :
    (c.start k now).get k = (c.get k).start now := by
  simp [get, start]

/-- So does a stop. -/
@[simp] theorem get_stop_self (c : Clocks κ) (k : κ) (now : Nat) :
    (c.stop k now).get k = (c.get k).stop now := by
  simp [get, stop]

end

variable {κ : Type} [Ord κ] [Std.TransOrd κ] [Std.LawfulEqOrd κ]

/-- A start of another clock leaves this one alone. -/
theorem get_start_of_ne (c : Clocks κ) {j k : κ} (h : j ≠ k) (now : Nat) :
    (c.start j now).get k = c.get k := by
  simp [get, start, Std.ExtTreeMap.getD_insert, h]

/-- So does a stop of another one. -/
theorem get_stop_of_ne (c : Clocks κ) {j k : κ} (h : j ≠ k) (now : Nat) :
    (c.stop j now).get k = c.get k := by
  simp [get, stop, Std.ExtTreeMap.getD_insert, h]

variable [DecidableEq κ]

/-- Among all clocks a call does what it does to one of them, seen alone. -/
theorem get_take (c : Clocks κ) (k : κ) (e : ClockEvent κ) :
    (c.take e).get k = (c.get k).take k e := by
  unfold take Stopwatch.take
  rcases e with ⟨j | j | j, now⟩
  · by_cases hj : j = k
    · subst hj
      simp
    · simp [hj, get_start_of_ne]
  · by_cases hj : j = k
    · subst hj
      simp
    · simp [hj, get_stop_of_ne]
  · simp

/-- A clock sees its own calls and no others. So everything about a clock
among others is said of a clock that is alone. -/
theorem get_after (c : Clocks κ) (k : κ) (events : List (ClockEvent κ)) :
    (c.after events).get k = events.foldl (Stopwatch.take k) (c.get k) := by
  induction events generalizing c with
  | nil => rfl
  | cons e events ih =>
    rw [List.foldl_cons, ← get_take]
    exact ih (c.take e)

/-- A history can be cut anywhere, and goes on from the clock that it left. -/
theorem get_after_append (c : Clocks κ) (k : κ) (events more : List (ClockEvent κ)) :
    (c.after (events ++ more)).get k = more.foldl (Stopwatch.take k) ((c.after events).get k) := by
  rw [get_after, get_after, List.foldl_append]

/-- A clock has a running span after a history exactly if it was started
and not stopped since. -/
theorem isSome_started_after (k : κ) (events : List (ClockEvent κ)) :
    ((empty.after events).get k).started.isSome ↔ RunsAfter k events := by
  induction events using List.reverseRecOn with
  | nil => simp [after, Stopwatch.idle, not_runsAfter_nil]
  | append_singleton events e ih =>
    rw [get_after_append, runsAfter_concat, ← ih, List.foldl_cons, List.foldl_nil, Stopwatch.take]
    split
    · next hstart => simp [hstart, Stopwatch.isSome_started_start]
    · next hstart =>
      split
      · next hstop => simp [hstop]
      · next hstop => simp [hstart, hstop]

/-- A clock stands still exactly if the history says so. -/
theorem started_after_eq_none_iff (k : κ) (events : List (ClockEvent κ)) :
    ((empty.after events).get k).started = none ↔ ¬ RunsAfter k events := by
  rw [← isSome_started_after]
  simp

/-- A clock reads the total length of its spans. What the clock remembers on
the left is a sum over the history on the right. -/
theorem read_after (k : κ) (events : List (ClockEvent κ)) (now : Nat) :
    ((empty.after events).read k now).nanoseconds = spanTime k events now := by
  -- From the end of the history: only its last call can end or begin a span,
  -- and a stop makes the earlier ones end at its own instant.
  induction events using List.reverseRecOn generalizing now with
  | nil => simp [read, after, Stopwatch.idle, Stopwatch.read, Duration.zero, spanTime]
  | append_singleton events e ih =>
    unfold read at ih ⊢
    rw [spanTime_concat, get_after_append, ← ih, List.foldl_cons, List.foldl_nil, Stopwatch.take]
    split
    · next hstart =>
      rw [Stopwatch.read_start]
      simp only [hstart, reduceCtorEq, if_false, true_and, started_after_eq_none_iff]
    · next hstart =>
      split
      · next hstop => rw [Stopwatch.read_stop, if_neg (fun h => hstart h.1), Nat.add_zero]
      · next hstop => rw [if_neg (fun h => hstart h.1), Nat.add_zero]

/-- A call that doesn't matter to a clock leaves it as it is. Each reason
why it doesn't is a case of its own. -/
theorem take_get_of_noEffect {k : κ} {before : List (ClockEvent κ)} {e : ClockEvent κ}
    (h : NoEffect k before e.call) :
    ((empty.after before).get k).take k e = (empty.after before).get k := by
  unfold Stopwatch.take
  generalize hw : (empty.after before).get k = w
  generalize e.call = call at h
  cases h with
  | repeatedStart running =>
    obtain ⟨began, hbegan⟩ := Option.isSome_iff_exists.mp ((isSome_started_after k before).mpr running)
    rw [hw] at hbegan
    simp [Stopwatch.start, hbegan]
  | idleStop standing =>
    have hnone := (started_after_eq_none_iff k before).mpr standing
    rw [hw] at hnone
    simp [Stopwatch.stop, hnone]
  | reading clock => simp
  | otherStart other => simp [other]
  | otherStop other => simp [other]

/-- What a clock measures in a history of calls. None of this mentions what
the clock remembers. -/
structure MeasuresSpans (k : κ) (events : List (ClockEvent κ)) : Prop where
  /-- At any moment it reads the total length of its spans up to then. -/
  total : ∀ now, (empty.after events).read k now = ⟨spanTime k events now⟩
  /-- The length of a span is the time from its beginning to its end. -/
  forward : ∀ now, (events.map ClockEvent.instant ++ [now]).Pairwise (· ≤ ·) →
    ∀ i, Begins k events i → instantAt events i ≤ spanEnd k events now i
  /-- Repeated starts, stops while it stands still, readings and calls
  on other clocks could be left out. -/
  unmoved : ∀ before e later, events = before ++ e :: later → NoEffect k before e.call →
    ∀ now, (empty.after events).read k now = (empty.after (before ++ later)).read k now
  /-- If it was never started it reads zero. -/
  unused : (∀ e ∈ events, e.call ≠ .start k) → ∀ now, (empty.after events).read k now = .zero
  /-- It reads no less than at an earlier moment. -/
  grows : ∀ earlier later t now, events = earlier ++ later →
    (t :: later.map ClockEvent.instant ++ [now]).Pairwise (· ≤ ·) →
    ((empty.after earlier).read k t).nanoseconds ≤ ((empty.after events).read k now).nanoseconds
  /-- It reads the same as at an earlier moment if it has been standing
  still since. -/
  still : ∀ earlier later t now, events = earlier ++ later → ¬ RunsAfter k earlier →
    (∀ e ∈ later, e.call ≠ .start k) →
    (empty.after events).read k now = (empty.after earlier).read k t

/-- A clock measures its spans and nothing else, whatever is done with it
and with others. -/
theorem measuresSpans (k : κ) (events : List (ClockEvent κ)) : MeasuresSpans k events where
  total now := congrArg Duration.mk (read_after k events now)
  forward now horder i hi := instantAt_le_spanEnd horder hi
  unmoved before e later hevents heffect now := by
    subst hevents
    unfold read
    rw [get_after_append, get_after_append, List.foldl_cons, take_get_of_noEffect heffect]
  unused hunused now :=
    congrArg Duration.mk ((read_after k events now).trans (spanTime_of_not_started hunused now))
  grows earlier later t now hevents horder := by
    subst hevents
    unfold read
    rw [get_after_append]
    exact Stopwatch.read_le_read_foldl_take k _ horder
  still earlier later t now hevents hstanding hlater := by
    subst hevents
    have hnone := (started_after_eq_none_iff k earlier).mpr hstanding
    unfold read
    rw [get_after_append, Stopwatch.foldl_take_of_standing hnone hlater]
    simp [Stopwatch.read, hnone]

/-- Two spans of the clock of a run, with a start that is repeated and
another clock that runs beside it. The second one goes on. -/
theorem measuresSpans_twoSpans :
    let events : List (ClockEvent Phase) := [⟨.start .run, 10⟩, ⟨.start .think, 12⟩,
      ⟨.start .run, 15⟩, ⟨.stop .run, 30⟩, ⟨.stop .run, 35⟩, ⟨.read .run, 40⟩, ⟨.start .run, 50⟩]
    spanTime .run events 60 = 30 ∧ (empty.after events).read .run 60 = ⟨30⟩ := by
  intro events
  have htime : spanTime .run events 60 = 30 := by decide
  exact ⟨htime, by rw [(measuresSpans .run events).total, htime]⟩

end Clocks

end MapBench
