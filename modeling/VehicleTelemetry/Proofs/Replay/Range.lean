import Mathlib.Tactic
import VehicleTelemetry.Capture.File
import VehicleTelemetry.Proofs.Replay.Run

/-!
A replay within the 64 bits of the clock.

A replay counts its times in natural numbers and makes all the ticks that are due at once. Here
it is played as the clock counts: one turn after another for as long as a tick is due, with
sums that start again from zero after the last time of the clock. Such a loop may never end.

* `Replay.turn`, `Replay.Advances`, `Replay.Plays`: one turn, the turns up to a time, and a whole
  play, with all the replays at which a turn was made. There is at most one play of a capture
  (`Plays.unique`);
* `Replay.InRange`: every sum of a play is within the clock, and the clock never goes back;
* `Replay.Paced`: the invariant, that the next tick is due at the next whole second. It is kept by
  a tick, by an event and by a whole run, and while the next tick comes before the last second of
  the clock, a turn is a tick (`Paced.turn_eq`);
* `plays_inRange_iff`: a play is in range, and then does what the replay does, exactly for
  captures that are over more than a second before the last second of the clock;
* `not_advances`: to one of the last eight milliseconds of the clock the loop never ends, since
  the time of the next tick stays a multiple of eight and never gets past them.
-/

namespace VehicleTelemetry

/-- A sum that the clock can show is exact. -/
lemma Clock.advance_of_lt {now elapsed : Nat} (h : now + elapsed < period) :
    advance now elapsed = now + elapsed :=
  Nat.mod_eq_of_lt h

namespace Logged

variable {σ : Type}

/-- The first of several steps comes before the others. -/
lemma value_iterate_succ (f : σ → Logged σ) (n : Nat) (state : σ) :
    (iterate f (n + 1) state).value = (iterate f n (f state).value).value := by
  rw [iterate, iterateFrom, value_iterateFrom, value_iterate]

end Logged

namespace Replay

/-! ### The loop on the clock -/

/-- A tick as the clock counts it: the clock is set to the time of the tick, whatever it shows,
and the time of the next one starts again from zero after the last time of the clock. -/
def turn (r : Replay) : Replay :=
  { r.fire.value with
    now := r.nextTick
    nextTick := Clock.advance r.nextTick tickPeriod }

/-- The turns up to a time, with the replays at which they are made. -/
inductive Advances (time : Nat) : Replay → List Replay → Replay → Prop where
  /-- No tick is due any more, and the clock moves to the time. -/
  | arrive {r : Replay} (early : time < r.nextTick) : Advances time r [] (r.moveTo time)
  /-- A tick is due. -/
  | tick {r after : Replay} {turns : List Replay} (due : r.nextTick ≤ time)
      (rest : Advances time r.turn turns after) : Advances time r (r :: turns) after

/-- A play of some events: the replays at which a turn is made, the replay after the last event,
and the one after the second that follows. -/
inductive Plays : Replay → List CaptureEvent → List Replay → Replay → Replay → Prop where
  /-- One more second passes after the last event. -/
  | finish {r after : Replay} {turns : List Replay}
      (second : Advances (Clock.advance r.now tickPeriod) r turns after) : Plays r [] turns r after
  /-- The turns up to an event, the event, and what follows. -/
  | event {r arrived ending after : Replay} {turns later : List Replay} {event : CaptureEvent}
      {events : List CaptureEvent} (turnsBefore : Advances event.time r turns arrived)
      (rest : Plays (arrived.apply event).value events later ending after) :
      Plays r (event :: events) (turns ++ later) ending after

/-- At a turn the time of the next tick is an exact sum, and the clock does not go back. -/
def TurnInRange (r : Replay) : Prop :=
  r.nextTick + tickPeriod < Clock.period ∧ r.now ≤ r.turn.now

/-- All turns of a play are in range, and so is the second after the last event. -/
structure InRange (turns : List Replay) (ending : Replay) : Prop where
  turns_inRange : ∀ r ∈ turns, r.TurnInRange
  ending_lt : ending.now + tickPeriod < Clock.period

/-- The last whole second that the clock can show, at 18446744073709551000 ms. -/
def lastSecond : Nat := tickPeriod * ((Clock.period - 1) / tickPeriod)

lemma lastSecond_lt : lastSecond < Clock.period := by
  unfold lastSecond tickPeriod Clock.period
  omega

variable {r after after' ending ending' : Replay} {turns turns' : List Replay} {time : Nat}
  {events : List CaptureEvent}

/-- A loop that ends does so after the same turns each time. -/
lemma Advances.unique (h : Advances time r turns after) (h' : Advances time r turns' after') :
    turns = turns' ∧ after = after' := by
  induction h generalizing turns' after' with
  | arrive early =>
    cases h' with
    | arrive _ => exact ⟨rfl, rfl⟩
    | tick due _ => exact absurd due early.not_ge
  | tick due _ ih =>
    cases h' with
    | arrive early => exact absurd due early.not_ge
    | tick _ rest =>
      obtain ⟨rfl, rfl⟩ := ih rest
      exact ⟨rfl, rfl⟩

/-- There is at most one play of a capture. -/
lemma Plays.unique (h : Plays r events turns ending after)
    (h' : Plays r events turns' ending' after') :
    turns = turns' ∧ ending = ending' ∧ after = after' := by
  induction h generalizing turns' ending' after' with
  | finish second =>
    cases h' with
    | finish second' =>
      obtain ⟨rfl, rfl⟩ := second.unique second'
      exact ⟨rfl, rfl, rfl⟩
  | event turnsBefore _ ih =>
    cases h' with
    | event turnsBefore' rest' =>
      obtain ⟨rfl, rfl⟩ := turnsBefore.unique turnsBefore'
      obtain ⟨rfl, rfl, rfl⟩ := ih rest'
      exact ⟨rfl, rfl, rfl⟩

/-! ### Ticks one by one -/

lemma now_fire (r : Replay) : r.fire.value.now = max r.now r.nextTick := by
  rw [value_fire]
  dsimp only
  split_ifs <;> rfl

lemma nextTick_fire (r : Replay) : r.fire.value.nextTick = r.nextTick + tickPeriod := by
  rw [value_fire]
  dsimp only
  split_ifs <;> rfl

lemma due_eq_zero_iff : r.due time = 0 ↔ time < r.nextTick := by
  rw [due]
  split_ifs with h <;> simp [h]

/-- The tick that is due is one of those that are. -/
lemma due_eq_succ_iff {n : Nat} :
    r.due time = n + 1 ↔ r.nextTick ≤ time ∧ r.fire.value.due time = n := by
  by_cases hearly : time < r.nextTick
  · rw [due, if_pos hearly]
    simp [hearly.not_ge]
  · rw [due, if_neg hearly, due, nextTick_fire, and_iff_right (not_lt.mp hearly)]
    unfold tickPeriod
    split_ifs <;> omega

lemma value_advance_of_lt (h : time < r.nextTick) : (r.advance time).value = r.moveTo time := by
  rw [advance, due_eq_zero_iff.mpr h]
  rfl

lemma value_advance_of_le (h : r.nextTick ≤ time) :
    (r.advance time).value = (r.fire.value.advance time).value := by
  rw [advance, due_eq_succ_iff.mpr ⟨h, rfl⟩, Logged.value_bind, Logged.value_iterate_succ]
  rfl

lemma value_run_nil (r : Replay) :
    (r.run []).value = (r.advance (r.now + tickPeriod)).value := rfl

lemma value_run_cons (r : Replay) (event : CaptureEvent) (events : List CaptureEvent) :
    (r.run (event :: events)).value = ((r.step event).value.run events).value := by
  simp only [run, Logged.value_bind, Logged.value_foldl, List.foldl_cons]

/-! ### The next whole second -/

/-- The next tick is due at the next whole second. -/
def Paced (r : Replay) : Prop :=
  r.nextTick = tickPeriod * (r.now / tickPeriod + 1)

lemma paced_fresh (settings : Settings) (v : Vehicle Script) : (fresh settings v).Paced := by
  have hnow : (fresh settings v).now = 0 := rfl
  have hnext : (fresh settings v).nextTick = tickPeriod := rfl
  rw [Paced, hnow, hnext, Nat.zero_div, Nat.zero_add, Nat.mul_one]

namespace Paced

lemma now_lt (h : r.Paced) : r.now < r.nextTick := by
  rw [h]
  exact Nat.lt_mul_div_succ r.now (by decide)

lemma nextTick_le_iff (h : r.Paced) : r.nextTick ≤ lastSecond ↔ r.now < lastSecond := by
  rw [h]
  unfold lastSecond
  rw [Nat.mul_le_mul_left_iff (by decide), Nat.succ_le_iff, Nat.div_lt_iff_lt_mul (by decide),
    Nat.mul_comm]

/-- The schedule is within the clock for as long as the clock shows less than the last second. -/
lemma fits_iff (h : r.Paced) : r.fits = true ↔ r.now < lastSecond := by
  rw [fits, decide_eq_true_iff, h]
  unfold lastSecond tickPeriod Clock.period
  omega

/-- The clock can show the tick after the next one too if the next one is before the last second. -/
lemma sum_lt_iff (h : r.Paced) :
    r.nextTick + tickPeriod < Clock.period ↔ r.nextTick < lastSecond := by
  rw [h]
  unfold lastSecond tickPeriod Clock.period
  omega

/-- A turn in range is a tick. -/
lemma turn_eq (h : r.Paced) (hlast : r.nextTick < lastSecond) : r.turn = r.fire.value := by
  have hnow : r.fire.value.now = r.nextTick := by rw [now_fire, max_eq_right h.now_lt.le]
  have hnext : r.fire.value.nextTick = Clock.advance r.nextTick tickPeriod := by
    rw [nextTick_fire, Clock.advance_of_lt (h.sum_lt_iff.mpr hlast)]
  rw [turn, ← hnext, ← hnow]

lemma turnInRange (h : r.Paced) (hlast : r.nextTick < lastSecond) : r.TurnInRange :=
  ⟨h.sum_lt_iff.mpr hlast, h.now_lt.le⟩

lemma fire (h : r.Paced) : r.fire.value.Paced := by
  rw [Paced, nextTick_fire, now_fire, max_eq_right h.now_lt.le, h]
  unfold tickPeriod
  omega

lemma moveTo (h : r.Paced) (hearly : time < r.nextTick) : (r.moveTo time).Paced := by
  have hnext : r.nextTick = tickPeriod * (max r.now time / tickPeriod + 1) := by
    rw [h] at hearly ⊢
    unfold tickPeriod at hearly ⊢
    omega
  exact hnext

lemma apply (h : r.Paced) (event : CaptureEvent) : (r.apply event).value.Paced := by
  rw [value_apply]
  exact h

/-- The ticks up to a time, by induction on how many there are. -/
lemma advance (h : r.Paced) (time : Nat) :
    (r.advance time).value.Paced ∧ (r.advance time).value.now = max r.now time := by
  induction hdue : r.due time generalizing r with
  | zero =>
    have hearly := due_eq_zero_iff.mp hdue
    rw [value_advance_of_lt hearly]
    exact ⟨h.moveTo hearly, rfl⟩
  | succ n ih =>
    obtain ⟨hle, hdue⟩ := due_eq_succ_iff.mp hdue
    have hrest := ih h.fire hdue
    have hnow := h.now_lt
    rw [now_fire] at hrest
    rw [value_advance_of_le hle]
    exact ⟨hrest.1, by omega⟩

lemma now_step (h : r.Paced) (event : CaptureEvent) :
    (r.step event).value.now = max r.now event.time := by
  have hnow := (h.advance event.time).2
  rw [step, Logged.value_bind, value_apply]
  exact hnow

lemma step (h : r.Paced) (event : CaptureEvent) : (r.step event).value.Paced :=
  (h.advance event.time).1.apply event

/-- A whole run ends before the last second of the clock if each event is more than a second
before it, and the replay was so when it began. -/
lemma run (h : r.Paced) (events : List CaptureEvent) :
    (r.run events).value.Paced ∧
      ((r.run events).value.now < lastSecond ↔ r.now + tickPeriod < lastSecond ∧
        ∀ event ∈ events, event.time + tickPeriod < lastSecond) := by
  induction events generalizing r with
  | nil =>
    have hsecond := h.advance (r.now + tickPeriod)
    rw [max_eq_right (Nat.le_add_right _ _)] at hsecond
    rw [value_run_nil]
    refine ⟨hsecond.1, ?_⟩
    simp [hsecond.2]
  | cons event events ih =>
    have hrest := ih (h.step event)
    rw [h.now_step] at hrest
    rw [value_run_cons]
    refine ⟨hrest.1, hrest.2.trans ?_⟩
    rw [List.forall_mem_cons, ← and_assoc]
    refine and_congr_left' ?_
    omega

/-! ### Plays in range -/

/-- The loop ends for a time before the last second, by induction on the ticks that are due. -/
lemma advances (h : r.Paced) (htime : time < lastSecond) :
    ∃ turns, Advances time r turns (r.advance time).value ∧ ∀ t ∈ turns, t.TurnInRange := by
  induction hdue : r.due time generalizing r with
  | zero =>
    have hearly := due_eq_zero_iff.mp hdue
    rw [value_advance_of_lt hearly]
    exact ⟨[], .arrive hearly, List.forall_mem_nil _⟩
  | succ n ih =>
    obtain ⟨hle, hdue⟩ := due_eq_succ_iff.mp hdue
    have hlast : r.nextTick < lastSecond := hle.trans_lt htime
    obtain ⟨turns, hturns, hrange⟩ := ih h.fire hdue
    rw [← value_advance_of_le hle, ← h.turn_eq hlast] at hturns
    exact ⟨r :: turns, .tick hle hturns, List.forall_mem_cons.mpr ⟨h.turnInRange hlast, hrange⟩⟩

/-- Turns in range are ticks before the last second of the clock, and come to a time before it. -/
lemma of_advances (h : r.Paced) (hnow : r.now < lastSecond) (hturns : Advances time r turns after)
    (hrange : ∀ t ∈ turns, t.TurnInRange) :
    time < lastSecond ∧ after = (r.advance time).value := by
  induction hturns with
  | @arrive r hearly =>
    rw [value_advance_of_lt hearly]
    exact ⟨hearly.trans_le (h.nextTick_le_iff.mpr hnow), rfl⟩
  | @tick r after turns hle _ ih =>
    obtain ⟨⟨hsum, -⟩, hrange⟩ := List.forall_mem_cons.mp hrange
    have hlast := h.sum_lt_iff.mp hsum
    rw [h.turn_eq hlast] at ih
    have hnow' : r.fire.value.now < lastSecond := by rwa [now_fire, max_eq_right h.now_lt.le]
    rw [value_advance_of_le hle]
    exact ih h.fire hnow' hrange

/-- A capture that is over more than a second before the last second of the clock has a play in
range, which does what the replay does. -/
lemma plays (h : r.Paced) (hnow : r.now + tickPeriod < lastSecond)
    (htimes : ∀ event ∈ events, event.time + tickPeriod < lastSecond) :
    ∃ turns ending, Plays r events turns ending (r.run events).value ∧ InRange turns ending := by
  induction events generalizing r with
  | nil =>
    have hsum : r.now + tickPeriod < Clock.period := hnow.trans lastSecond_lt
    obtain ⟨turns, hturns, hrange⟩ := h.advances hnow
    refine ⟨turns, r, .finish ?_, hrange, hsum⟩
    rwa [Clock.advance_of_lt hsum]
  | cons event events ih =>
    obtain ⟨htime, htimes⟩ := List.forall_mem_cons.mp htimes
    obtain ⟨turns, hturns, hrange⟩ := h.advances ((Nat.le_add_right _ tickPeriod).trans_lt htime)
    have hnow' : (r.step event).value.now + tickPeriod < lastSecond := by
      rw [h.now_step]
      omega
    obtain ⟨later, ending, hlater, hrange', hending⟩ := ih (h.step event) hnow' htimes
    rw [value_run_cons]
    refine ⟨turns ++ later, ending, .event hturns hlater, ?_, hending⟩
    exact List.forall_mem_append.mpr ⟨hrange, hrange'⟩

/-- A play in range is over more than a second before the last second of the clock. -/
lemma of_plays (h : r.Paced) (hnow : r.now < lastSecond)
    (hplays : Plays r events turns ending after) (hrange : InRange turns ending) :
    r.now + tickPeriod < lastSecond ∧
      ∀ event ∈ events, event.time + tickPeriod < lastSecond := by
  induction hplays with
  | @finish r after turns hsecond =>
    rw [Clock.advance_of_lt hrange.ending_lt] at hsecond
    exact ⟨(h.of_advances hnow hsecond hrange.turns_inRange).1, List.forall_mem_nil _⟩
  | @event r arrived ending after turns later event events hturns _ ih =>
    obtain ⟨hbefore, hlater⟩ := List.forall_mem_append.mp hrange.turns_inRange
    obtain ⟨htime, rfl⟩ := h.of_advances hnow hturns hbefore
    have hnow' := h.now_step event
    have hrest : (r.step event).value.now + tickPeriod < lastSecond ∧
        ∀ event ∈ events, event.time + tickPeriod < lastSecond :=
      ih (h.step event) (hnow'.trans_lt (max_lt hnow htime)) ⟨hlater, hrange.ending_lt⟩
    rw [hnow'] at hrest
    exact ⟨by omega, List.forall_mem_cons.mpr ⟨by omega, hrest.2⟩⟩

end Paced

/-- **A replay is in range exactly if it is over in time.** Take settings, a vehicle and events
with any times, and play the events turn by turn on the clock of 64 bits. The loop ends after
finitely many turns, no sum of the schedule is past the end of the clock and the clock never goes
back, exactly if each event is more than one second before the last second that the clock can
show. The play then ends in what the replay comes to, and exactly then the replay says that its
schedule has stayed within the clock. -/
theorem plays_inRange_iff (settings : Settings) (v : Vehicle Script) (events : List CaptureEvent) :
    let new := fresh settings v
    let final := (new.run events).value
    let overInTime := ∀ event ∈ events, event.time + tickPeriod < lastSecond
    ((∃ turns ending after, Plays new events turns ending after ∧ InRange turns ending) ↔
      overInTime) ∧
    ((∃ turns ending, Plays new events turns ending final ∧ InRange turns ending) ↔
      overInTime) ∧
    (final.fits = true ↔ overInTime) := by
  intro new final overInTime
  have hpaced := paced_fresh settings v
  have hnow : new.now = 0 := rfl
  have hzero : tickPeriod < lastSecond := by
    unfold lastSecond tickPeriod Clock.period
    omega
  have hplay (h : overInTime) :
      ∃ turns ending, Plays new events turns ending final ∧ InRange turns ending :=
    hpaced.plays (by rw [hnow]; omega) h
  have hover {turns : List Replay} {ending after : Replay}
      (h : Plays new events turns ending after ∧ InRange turns ending) : overInTime :=
    (hpaced.of_plays (by rw [hnow]; omega) h.1 h.2).2
  -- a capture that is over in time is played in range, and a play in range is over in time
  refine ⟨⟨fun ⟨_, _, _, h⟩ => hover h, fun h => ?_⟩, ⟨fun ⟨_, _, h⟩ => hover h, hplay⟩, ?_⟩
  · obtain ⟨turns, ending, hturns⟩ := hplay h
    exact ⟨turns, ending, final, hturns⟩
  · have hrun := hpaced.run events
    rw [hrun.1.fits_iff, hrun.2]
    exact and_iff_right (by rw [hnow]; omega)

/-! ### The end of the clock -/

/-- For a time among the last eight milliseconds of the clock the loop does not end: the time of
the next tick stays a multiple of eight, also when it starts again from zero, and so it never comes
past these milliseconds. -/
lemma not_advances (hdvd : 8 ∣ r.nextTick) (hlt : r.nextTick < Clock.period)
    (htime : Clock.period - 8 ≤ time) : ¬ Advances time r turns after := by
  intro h
  induction h with
  | arrive hearly =>
    unfold Clock.period at hlt htime
    omega
  | @tick r _ _ _ _ ih =>
    have hnext : r.turn.nextTick = (r.nextTick + tickPeriod) % Clock.period := rfl
    -- eight divides a second and the period of the clock
    have hdvd' : 8 ∣ r.turn.nextTick := by
      rw [hnext]
      unfold tickPeriod Clock.period
      omega
    exact ih hdvd' (hnext.trans_lt (Nat.mod_lt _ (by decide)))

/-- The second after the last event never ends if it comes to one of the last eight milliseconds
of the clock. -/
lemma Paced.not_plays_nil (h : r.Paced) (hlast : Clock.period - 8 ≤ r.now + tickPeriod)
    (hclock : r.now + tickPeriod < Clock.period) : ¬ Plays r [] turns ending after := by
  rintro ⟨hsecond⟩
  have hnow : r.now < lastSecond := by
    unfold lastSecond
    unfold tickPeriod Clock.period at *
    omega
  have hdvd : 8 ∣ r.nextTick := by
    rw [h]
    exact Dvd.dvd.mul_right (by decide) _
  rw [Clock.advance_of_lt hclock] at hsecond
  exact not_advances hdvd ((h.nextTick_le_iff.mpr hnow).trans_lt lastSecond_lt) hlast hsecond

/-- A single frame, one second before the last time of the clock. The ticks up to it are in range,
but the second that follows never ends: after the tick at the last second of the clock, the next
one is due at 384 ms. -/
theorem late_frame_never_ends :
    let new := (create {}).value
    let late : CaptureEvent := .frame 18446744073709550615
    let text := "\x7b\"kind\":\"frame\",\"t_ms\":18446744073709550615\x7d"
    Capture.parse text.toUTF8.data.toList = .ok [late] ∧
      ¬ ∃ turns ending after, Plays new [late] turns ending after := by
  intro new late text
  refine ⟨by decide +kernel, ?_⟩
  rintro ⟨turns, ending, after, hplays⟩
  have hpaced : new.Paced := paced_fresh {} new.vehicle
  have htime : late.time < lastSecond := by decide
  have hnow : (new.step late).value.now = 18446744073709550615 := hpaced.now_step late
  -- the frame itself is reached; it is the second after it that never is
  cases hplays with
  | event hturns hrest =>
    obtain ⟨_, hturns', -⟩ := hpaced.advances htime
    obtain ⟨-, rfl⟩ := hturns.unique hturns'
    refine (hpaced.step late).not_plays_nil ?_ ?_ hrest
    · rw [hnow]
      decide
    · rw [hnow]
      decide

end Replay

end VehicleTelemetry
