import Mathlib.Tactic
import VehicleTelemetry.Proofs.Replay.Schedule
import VehicleTelemetry.Replay.Summary

/-!
A replay does what its schedule says.

The replay keeps two counters, the times of the next tick and of the next slow tick. After
`k` ticks the first one is second `k + 1` and the second one is the first multiple of the slow
period after second `k`, or the end of the clock if that is earlier.

* `Replay.Follows`: the invariant, after some steps and `k` ticks. It is kept by a tick
  (`Follows.fire`), by all ticks that are due (`Follows.advance`) and by an event
  (`Follows.apply`);
* `run_schedule`: the whole replay.
-/

namespace VehicleTelemetry

namespace Vehicle

variable {ρ : Type} [Responder ρ]

/-- How many responses are dropped in a run. -/
def dropped (v : Vehicle ρ) (steps : List (Step ρ)) : Nat :=
  (v.outcomes steps).countP (·.any ReplyOutcome.isDropped)

lemma dropped_append (v : Vehicle ρ) (before after : List (Step ρ)) :
    v.dropped (before ++ after) = v.dropped before + (v.run before).dropped after := by
  rw [dropped, outcomes_append, List.countP_append]
  rfl

end Vehicle

namespace Replay

/-- What a replay has come to after `k` ticks, of which those after the time `clock` belong to
the event that it is advancing to. -/
structure Follows (s : Nat) (v : Vehicle Script) (clock k : Nat) (steps : List (Step Script))
    (r : Replay) : Prop where
  vehicle_eq : r.vehicle = v.run steps
  dropped_eq : r.dropped = v.dropped steps
  now_eq : r.now = max clock (tickPeriod * k)
  ticks_eq : r.ticks = k
  nextTick_eq : r.nextTick = tickPeriod * (k + 1)
  slowPeriod_eq : r.slowPeriod = tickPeriod * s
  nextSlow_eq : r.nextSlow = min (tickPeriod * (s * (k / s + 1))) (Clock.period - 1)

lemma value_fire (r : Replay) :
    r.fire.value =
      let ticked : Replay := { r.moveTo r.nextTick with
        vehicle := (r.vehicle.tick r.nextTick).value
        ticks := r.ticks + 1
        nextTick := r.nextTick + tickPeriod }
      if r.nextSlow ≤ r.nextTick then { ticked with
        vehicle := (ticked.vehicle.slowTick r.nextTick).value
        nextSlow := min (r.nextSlow + r.slowPeriod) (Clock.period - 1) }
      else ticked := by
  rw [fire]
  simp only [Logged.value_bind, Logged.value_ite, Logged.value_pure]
  rfl

/-- An event is a step of the vehicle. -/
lemma value_apply (r : Replay) (event : CaptureEvent) :
    (r.apply event).value = { r with
      vehicle := (r.vehicle.step ⟨r.now, event.operation⟩).1
      dropped := r.dropped + r.vehicle.dropped [⟨r.now, event.operation⟩] } := by
  cases event with
  | chunk time part =>
      have hone : r.vehicle.dropped [⟨r.now, .chunk part⟩] =
          if (r.vehicle.receiveChunk r.now part).value.2.any ReplyOutcome.isDropped then 1 else 0 :=
        List.countP_singleton
      rw [CaptureEvent.operation, hone, apply]
      simp only [Logged.value_bind, Logged.value_pure]
      split_ifs <;> rfl
  | frame | metric | query => rfl

namespace Follows

variable {s clock k : Nat} {v : Vehicle Script} {steps : List (Step Script)} {r : Replay}

/-- The slow tick is due exactly with every `s`-th tick. -/
lemma nextSlow_le_iff (h : r.Follows s v clock k steps) (hs : 0 < s)
    (hfits : tickPeriod * (k + 1) < Clock.period - 1) : r.nextSlow ≤ r.nextTick ↔ s ∣ k + 1 := by
  have hbelow : k + 1 ≤ s * (k / s + 1) := Nat.lt_mul_div_succ k hs
  have hdue : r.nextSlow ≤ r.nextTick ↔ s * (k / s + 1) ≤ k + 1 := by
    rw [h.nextSlow_eq, h.nextTick_eq, min_le_iff, or_iff_left (by omega)]
    exact Nat.mul_le_mul_left_iff (by decide)
  rw [hdue]
  constructor
  · intro hle
    exact ⟨k / s + 1, le_antisymm hbelow hle⟩
  · intro hdvd
    rw [← Nat.succ_div_of_dvd hdvd, Nat.mul_div_cancel' hdvd]

/-- A tick, with a slow tick or without one. -/
lemma fire (h : r.Follows s v clock k steps) (hs : 0 < s)
    (hfits : tickPeriod * (k + 1) < Clock.period - 1) :
    r.fire.value.Follows s v clock (k + 1) (steps ++ tickAt s (k + 1)) := by
  have hnow : max r.now r.nextTick = max clock (tickPeriod * (k + 1)) := by
    rw [h.now_eq, h.nextTick_eq, max_assoc, max_eq_right (Nat.mul_le_mul_left _ (Nat.le_succ k))]
  have hticks : r.ticks + 1 = k + 1 := by rw [h.ticks_eq]
  have hnext : r.nextTick + tickPeriod = tickPeriod * (k + 1 + 1) := by rw [h.nextTick_eq]; rfl
  have htime := h.nextTick_eq
  have hiff := h.nextSlow_le_iff hs hfits
  rw [value_fire]
  -- the slow tick comes with this one exactly if `s` divides its number
  by_cases hdvd : s ∣ k + 1
  · have hsteps : tickAt s (k + 1) =
        [⟨tickPeriod * (k + 1), .tick⟩, ⟨tickPeriod * (k + 1), .slowTick⟩] := by
      rw [tickAt, if_pos hdvd]
    have hslow : min (r.nextSlow + r.slowPeriod) (Clock.period - 1) =
        min (tickPeriod * (s * ((k + 1) / s + 1))) (Clock.period - 1) := by
      have hlater : tickPeriod * (s * (k / s + 1 + 1)) =
          tickPeriod * (s * (k / s + 1)) + tickPeriod * s := by ring
      rw [h.nextSlow_eq, h.slowPeriod_eq, Nat.succ_div_of_dvd hdvd, hlater]
      omega
    rw [if_pos (hiff.mpr hdvd), hsteps]
    refine ⟨?_, ?_, hnow, hticks, hnext, h.slowPeriod_eq, hslow⟩
    · rw [Vehicle.run_append, ← h.vehicle_eq, ← htime]
      rfl
    · rw [Vehicle.dropped_append, ← h.dropped_eq]
      rfl
  · have hsteps : tickAt s (k + 1) = [⟨tickPeriod * (k + 1), .tick⟩] := by
      rw [tickAt, if_neg hdvd]
    have hslow : r.nextSlow = min (tickPeriod * (s * ((k + 1) / s + 1))) (Clock.period - 1) := by
      rw [h.nextSlow_eq, Nat.succ_div_of_not_dvd hdvd]
    rw [if_neg (mt hiff.mp hdvd), hsteps]
    refine ⟨?_, ?_, hnow, hticks, hnext, h.slowPeriod_eq, hslow⟩
    · rw [Vehicle.run_append, ← h.vehicle_eq, ← htime]
      rfl
    · rw [Vehicle.dropped_append, ← h.dropped_eq]
      rfl

/-- Some ticks in a row. -/
lemma fire_repeat (h : r.Follows s v clock k steps) (hs : 0 < s) (n : Nat)
    (hfits : tickPeriod * (k + n) < Clock.period - 1) :
    (Nat.repeat (fun r => r.fire.value) n r).Follows s v clock (k + n)
      (steps ++ (List.range' (k + 1) n).flatMap (tickAt s)) := by
  induction n with
  | zero => simpa [Nat.repeat] using h
  | succ n ih =>
      have hbefore : tickPeriod * (k + n) ≤ tickPeriod * (k + (n + 1)) :=
        Nat.mul_le_mul_left _ (by omega)
      have hlast := (ih (by omega)).fire hs hfits
      rw [Nat.repeat, List.range'_1_concat, List.flatMap_append, ← List.append_assoc]
      simpa [Nat.add_right_comm k 1 n, Nat.add_assoc] using hlast

/-- When no tick is missing the clock shows the time that the replay has advanced to. -/
lemma now_eq_clock (h : r.Follows s v clock (clock / tickPeriod) steps) : r.now = clock := by
  rw [h.now_eq]
  exact max_eq_left (Nat.mul_div_le _ _)

/-- All ticks that are due up to a time, and the clock moves there. -/
lemma advance (h : r.Follows s v clock (clock / tickPeriod) steps) (hs : 0 < s) (time : Nat)
    (hfits : max clock time < Clock.period - 1) :
    (r.advance time).value.Follows s v (max clock time) (max clock time / tickPeriod)
      (steps ++ ticksBetween s clock (max clock time)) := by
  have hdue : r.due time = max clock time / tickPeriod - clock / tickPeriod := by
    rw [due, h.nextTick_eq]
    unfold tickPeriod
    split <;> omega
  have hsum : clock / tickPeriod + r.due time = max clock time / tickPeriod := by
    have := Nat.div_le_div_right (c := tickPeriod) (le_max_left clock time)
    omega
  have hlast : tickPeriod * (max clock time / tickPeriod) ≤ max clock time :=
    Nat.mul_div_le _ _
  have hticks := h.fire_repeat hs (r.due time) (by rw [hsum]; omega)
  rw [hsum] at hticks
  rw [ticksBetween, ← hdue, Replay.advance, Logged.value_bind, Logged.value_iterate]
  refine ⟨hticks.vehicle_eq, hticks.dropped_eq, ?_, hticks.ticks_eq, hticks.nextTick_eq,
    hticks.slowPeriod_eq, hticks.nextSlow_eq⟩
  show max _ time = _
  rw [hticks.now_eq]
  omega

/-- An event at the time that the clock shows. -/
lemma apply (h : r.Follows s v clock (clock / tickPeriod) steps) (event : CaptureEvent) :
    (r.apply event).value.Follows s v clock (clock / tickPeriod)
      (steps ++ [⟨clock, event.operation⟩]) := by
  have hnow := h.now_eq_clock
  rw [value_apply, hnow]
  refine ⟨?_, ?_, hnow.symm.trans h.now_eq, h.ticks_eq, h.nextTick_eq, h.slowPeriod_eq,
    h.nextSlow_eq⟩
  · rw [Vehicle.run_append, ← h.vehicle_eq]
    rfl
  · rw [Vehicle.dropped_append, ← h.vehicle_eq, ← h.dropped_eq]

/-- An event and the ticks that are due before it. -/
lemma step (h : r.Follows s v clock (clock / tickPeriod) steps) (hs : 0 < s) (event : CaptureEvent)
    (hfits : max clock event.time < Clock.period - 1) :
    let now := max clock event.time
    (r.step event).value.Follows s v now (now / tickPeriod)
      (steps ++ ticksBetween s clock now ++ [⟨now, event.operation⟩]) :=
  (h.advance hs event.time hfits).apply event

end Follows

/-- A new replay with the settings, in front of any vehicle. -/
def fresh (settings : Settings) (v : Vehicle Script) : Replay :=
  { (create settings).value with vehicle := v }

variable {settings : Settings} {events : List CaptureEvent}

/-- A new replay has done nothing yet. -/
lemma follows_fresh (low : 1 ≤ settings.slowTickSeconds)
    (high : settings.slowTickSeconds ≤ Settings.slowTickLimit) (v : Vehicle Script) :
    (fresh settings v).Follows settings.slowTickSeconds v 0 0 [] := by
  have hperiod : settings.slowPeriod = tickPeriod * settings.slowTickSeconds :=
    (Settings.slowPeriod_of_le low high).trans (Nat.mul_comm _ _)
  have hfits : tickPeriod * settings.slowTickSeconds ≤ Clock.period - 1 := by
    unfold tickPeriod Clock.period
    unfold Settings.slowTickLimit at high
    omega
  refine ⟨rfl, rfl, rfl, rfl, rfl, hperiod, hperiod.trans ?_⟩
  rw [Nat.zero_div, Nat.zero_add, Nat.mul_one, min_eq_left hfits]

/-- After some events a replay has done what is scheduled up to the last one. -/
lemma follows_foldl (low : 1 ≤ settings.slowTickSeconds)
    (high : settings.slowTickSeconds ≤ Settings.slowTickLimit)
    (htimes : ∀ event ∈ events, event.time ≤ Clock.period - 2001) (v : Vehicle Script) :
    (Logged.foldl step (fresh settings v) events).value.Follows settings.slowTickSeconds v
      (latest events) (latest events / tickPeriod) (played settings.slowTickSeconds events) := by
  induction events using List.reverseRecOn with
  | nil => exact follows_fresh low high v
  | append_singleton events event ih =>
      have hbefore := ih fun e he => htimes e (by simp [he])
      have hlatest := latest_le htimes
      rw [latest_concat] at hlatest
      rw [played_concat, latest_concat, Logged.value_foldl, List.foldl_concat, ← Logged.value_foldl]
      exact hbefore.step low event (by unfold Clock.period at hlatest ⊢; omega)

/-- After a whole run a replay has done all that is scheduled. -/
lemma follows_run (low : 1 ≤ settings.slowTickSeconds)
    (high : settings.slowTickSeconds ≤ Settings.slowTickLimit)
    (htimes : ∀ event ∈ events, event.time ≤ Clock.period - 2001) (v : Vehicle Script) :
    let ending := latest events + tickPeriod
    ((fresh settings v).run events).value.Follows settings.slowTickSeconds v ending
      (ending / tickPeriod) (schedule settings.slowTickSeconds events) := by
  intro ending
  have hplayed := follows_foldl low high htimes v
  have hmax : max (latest events) ending = ending := max_eq_right (Nat.le_add_right _ _)
  have hfits : ending < Clock.period - 1 := by
    have hlatest := latest_le htimes
    unfold ending tickPeriod
    unfold Clock.period at hlatest ⊢
    omega
  have hlast := hplayed.advance low ending (by rwa [hmax])
  have hrun : ((fresh settings v).run events).value =
      ((Logged.foldl Replay.step (fresh settings v) events).value.advance
        ((Logged.foldl Replay.step (fresh settings v) events).value.now + tickPeriod)).value := rfl
  rw [hmax] at hlast
  rw [hrun, hplayed.now_eq_clock]
  exact hlast

/-- **A replay does what its schedule says.** Take settings with `s` seconds between slow ticks
and events in any order, none of them within the last two seconds of the clock. For every
vehicle, and so for the new one of the settings:

* the ticks of the schedule are the seconds up to the latest event and one more, each
  followed by a slow tick if `s` divides its number; the other steps are the events, each at
  the latest time up to it; time does not go back, and at one time ticks come first;
* a replay makes these steps of its vehicle, and after each event it has made those up to it;
* it ends one second after the latest event, and no time is past the end of the clock;
* its summary counts the ticks, the events and the responses that were dropped. -/
theorem run_schedule (low : 1 ≤ settings.slowTickSeconds)
    (high : settings.slowTickSeconds ≤ Settings.slowTickLimit)
    (htimes : ∀ event ∈ events, event.time ≤ Clock.period - 2001) (v : Vehicle Script) :
    let s := settings.slowTickSeconds
    let final := ((fresh settings v).run events).value
    let steps := schedule s events
    let seconds := latest events / tickPeriod + 1
    (steps.filter Step.isTick = (List.range' 1 seconds).flatMap (tickAt s) ∧
      steps.filter (fun step => !step.isTick) = timed events ∧ steps.Pairwise InOrder) ∧
    final.vehicle = v.run steps ∧
    (∀ n,
      let upTo := events.take n
      let part := (Logged.foldl step (fresh settings v) upTo).value
      part.now = latest upTo ∧ part.vehicle = v.run (played s upTo)) ∧
    (final.now = latest events + tickPeriod ∧ final.fits = true) ∧
    let summary := final.summary events.length
    summary.ticks = seconds ∧ summary.events = events.length ∧
      summary.dropped = v.dropped steps := by
  intro s final steps seconds
  have hseconds : (latest events + tickPeriod) / tickPeriod = seconds :=
    Nat.add_div_right _ (by decide)
  have hfinal := follows_run low high htimes v
  have hschedule := isSchedule_schedule s events
  have hticks : ticksBetween s 0 (latest events + tickPeriod) =
      (List.range' 1 seconds).flatMap (tickAt s) := by
    rw [ticksBetween, hseconds, Nat.zero_div, Nat.zero_add, Nat.sub_zero]
  -- the schedule has the order, and the replay that follows it has the vehicle and the counts
  refine ⟨⟨hschedule.ticks_eq.trans hticks, hschedule.events_eq, hschedule.inOrder⟩,
    hfinal.vehicle_eq, fun n => ?_, ⟨hfinal.now_eq_clock, ?_⟩, hfinal.ticks_eq.trans hseconds, rfl,
    hfinal.dropped_eq⟩
  · have hpart := follows_foldl low high
      (fun event hevent => htimes event (List.mem_of_mem_take (i := n) hevent)) v
    exact ⟨hpart.now_eq_clock, hpart.vehicle_eq⟩
  · have hlatest := latest_le htimes
    rw [fits, decide_eq_true_iff, hfinal.nextTick_eq]
    unfold tickPeriod
    unfold Clock.period at hlatest ⊢
    omega

/-- A frame at second two, where a slow tick is due, and a response out of order that nobody
waits for. -/
theorem run_schedule_stray_response :
    let settings : Settings := { slowTickSeconds := 2, vehicle := VehicleConfig.bench }
    let stray := Chunk.whole (0x123, 0x10) []
    let events : List CaptureEvent := [.frame 2000, .chunk 500 stray]
    let steps : List (Step Script) := [⟨1000, .tick⟩, ⟨2000, .tick⟩, ⟨2000, .slowTick⟩,
      ⟨2000, .frame⟩, ⟨2000, .chunk stray⟩, ⟨3000, .tick⟩]
    let new := (create settings).value
    let final := (new.run events).value
    (1 ≤ settings.slowTickSeconds ∧ settings.slowTickSeconds ≤ Settings.slowTickLimit ∧
      ∀ event ∈ events, event.time ≤ Clock.period - 2001) ∧
    final.vehicle = new.vehicle.run steps ∧ final.now = 3000 ∧
      (final.summary 2).ticks = 3 ∧ (final.summary 2).dropped = 1 := by
  intro settings stray events steps new final
  have hsettings : 1 ≤ settings.slowTickSeconds ∧
      settings.slowTickSeconds ≤ Settings.slowTickLimit ∧
      ∀ event ∈ events, event.time ≤ Clock.period - 2001 := by decide
  have hdropped : new.vehicle.dropped steps = 1 := by decide +kernel
  have hsteps : schedule settings.slowTickSeconds events = steps := by cbv
  have hlatest : latest events = 2000 := rfl
  obtain ⟨low, high, htimes⟩ := hsettings
  obtain ⟨-, hvehicle, -, ⟨hnow, -⟩, hticks, -, hcount⟩ :=
    run_schedule low high htimes new.vehicle
  have hnew : fresh settings new.vehicle = new := rfl
  rw [hsteps, hnew] at hvehicle hcount
  rw [hnew] at hnow hticks
  rw [hlatest] at hnow hticks
  exact ⟨⟨low, high, htimes⟩, hvehicle, hnow, hticks, hcount.trans hdropped⟩

end Replay

end VehicleTelemetry
