import Mathlib.Tactic
import VehicleTelemetry.Proofs.Vehicle.Run
import VehicleTelemetry.Replay.Basic

/-!
The schedule of a replay: what happens to the vehicle, and when.

An event happens at the latest time among the events up to it, since the clock does not go
back for an event that is out of order. The tick number `k` happens at second `k`, before the
events of that time, and every `s`-th one is followed by a slow tick.

* `latest`, `Replay.timed`: the latest time of some events, and the events at their times;
* `Replay.tickAt`, `Replay.ticksBetween`: one tick, and the ticks between two moments;
* `Replay.IsSchedule`: some steps are these ticks and these events, in order. It is kept by
  the ticks up to a later moment (`IsSchedule.then_ticks`) and by an event at the end
  (`IsSchedule.then_event`);
* `Replay.schedule`: the steps of a whole replay, which are so (`isSchedule_schedule`).
-/

namespace VehicleTelemetry

/-- What happens to a vehicle with an event: the answer to a request is prepared, anything else
comes from the bus or the host. -/
def CaptureEvent.operation : CaptureEvent → Operation Script
  | .frame _ => .frame
  | .chunk _ part => .chunk part
  | .metric _ name value => .setMetric name value
  | .query _ pid data => .changePoller fun poller =>
      ScriptedPoller.push poller pid (Replay.captured data)

/-- A step is a tick or a slow tick. -/
def Step.isTick {ρ : Type} (step : Step ρ) : Bool :=
  match step.operation with
  | .tick | .slowTick => true
  | _ => false

/-- The latest time of some events. -/
def latest (events : List CaptureEvent) : Nat :=
  (events.map CaptureEvent.time).foldl max 0

lemma latest_concat (events : List CaptureEvent) (event : CaptureEvent) :
    latest (events ++ [event]) = max (latest events) event.time := by
  simp [latest]

lemma latest_le {events : List CaptureEvent} {bound : Nat}
    (h : ∀ event ∈ events, event.time ≤ bound) : latest events ≤ bound := by
  induction events using List.reverseRecOn with
  | nil => exact Nat.zero_le _
  | append_singleton events event ih =>
      rw [latest_concat]
      exact max_le (ih fun e he => h e (by simp [he])) (h event (by simp))

namespace Replay

/-- The events, each at the latest time up to it. -/
def timed (events : List CaptureEvent) : List (Step Script) :=
  events.zipIdx.map fun (event, i) => ⟨latest (events.take (i + 1)), event.operation⟩

lemma timed_concat (events : List CaptureEvent) (event : CaptureEvent) :
    timed (events ++ [event]) =
      timed events ++ [⟨max (latest events) event.time, event.operation⟩] := by
  have hbefore : (events.zipIdx.map fun (earlier, i) =>
      (⟨latest ((events ++ [event]).take (i + 1)), earlier.operation⟩ : Step Script)) =
        timed events := by
    refine List.map_congr_left fun ⟨earlier, i⟩ hmem => ?_
    have hlt : i < events.length := List.snd_lt_of_mem_zipIdx hmem
    dsimp only
    rw [List.take_append_of_le_length hlt]
  have hwhole : (events ++ [event]).take (events.length + 1) = events ++ [event] :=
    List.take_of_length_le (by simp)
  rw [timed, List.zipIdx_append, List.map_append, hbefore, ← latest_concat]
  simp [hwhole]

/-! ### Ticks -/

/-- The steps with tick number `k`. -/
def tickAt (s k : Nat) : List (Step Script) :=
  ⟨tickPeriod * k, .tick⟩ :: if s ∣ k then [⟨tickPeriod * k, .slowTick⟩] else []

/-- The ticks after one moment and up to another one, in milliseconds. -/
def ticksBetween (s start stop : Nat) : List (Step Script) :=
  (List.range' (start / tickPeriod + 1) (stop / tickPeriod - start / tickPeriod)).flatMap (tickAt s)

/-- Two steps of which the first one may come first: time does not go back, and a tick does
not come after an event of its time. -/
def InOrder (first second : Step Script) : Prop :=
  first.time ≤ second.time ∧
    (first.isTick = false → second.isTick = true → first.time < second.time)

variable {s start middle stop : Nat} {step : Step Script}

lemma of_mem_tickAt {k : Nat} (h : step ∈ tickAt s k) :
    step.time = tickPeriod * k ∧ step.isTick = true := by
  rw [tickAt, List.mem_cons] at h
  obtain rfl | h := h
  · exact ⟨rfl, rfl⟩
  · split at h
    · obtain rfl := List.mem_singleton.mp h
      exact ⟨rfl, rfl⟩
    · cases h

lemma of_mem_ticksBetween (h : step ∈ ticksBetween s start stop) :
    start < step.time ∧ step.time ≤ stop ∧ step.isTick = true := by
  obtain ⟨k, hk, hstep⟩ := List.mem_flatMap.mp h
  obtain ⟨htime, htick⟩ := of_mem_tickAt hstep
  rw [List.mem_range'_1] at hk
  rw [htime]
  unfold tickPeriod at hk ⊢
  exact ⟨by omega, by omega, htick⟩

lemma ticksBetween_append (s : Nat) (h : start ≤ middle) (h' : middle ≤ stop) :
    ticksBetween s start middle ++ ticksBetween s middle stop = ticksBetween s start stop := by
  have hstart := Nat.div_le_div_right (c := tickPeriod) h
  have hstop := Nat.div_le_div_right (c := tickPeriod) h'
  have hmiddle : middle / tickPeriod + 1 =
      start / tickPeriod + 1 + (middle / tickPeriod - start / tickPeriod) := by omega
  have hlength : stop / tickPeriod - start / tickPeriod = middle / tickPeriod - start / tickPeriod +
      (stop / tickPeriod - middle / tickPeriod) := by omega
  rw [ticksBetween, ticksBetween, ticksBetween, ← List.flatMap_append, hmiddle,
    List.range'_append_1, ← hlength]

/-- Ticks are in order: no event is among them, and each has a time of its own. -/
lemma pairwise_ticksBetween (s start stop : Nat) :
    (ticksBetween s start stop).Pairwise InOrder := by
  have hpair {first second : Step Script} (hfirst : first.isTick = true)
      (htimes : first.time ≤ second.time) : InOrder first second :=
    ⟨htimes, fun hevent => absurd hfirst (by simp [hevent])⟩
  rw [ticksBetween, List.pairwise_flatMap]
  constructor
  · intro k _
    rw [tickAt]
    split
    · exact List.pairwise_pair.mpr (hpair rfl le_rfl)
    · exact List.pairwise_singleton _ _
  · refine (List.pairwise_lt_range' 1).imp fun {k l} hlt first hfirst second hsecond => ?_
    obtain ⟨htime, htick⟩ := of_mem_tickAt hfirst
    refine hpair htick ?_
    rw [htime, (of_mem_tickAt hsecond).1]
    exact Nat.mul_le_mul_left _ hlt.le

/-! ### Schedules -/

/-- Some steps are the ticks up to a moment and some events, in order. -/
structure IsSchedule (s stop : Nat) (events : List CaptureEvent) (steps : List (Step Script)) :
    Prop where
  ticks_eq : steps.filter Step.isTick = ticksBetween s 0 stop
  events_eq : steps.filter (fun step => !step.isTick) = timed events
  inOrder : steps.Pairwise InOrder
  time_le : ∀ step ∈ steps, step.time ≤ stop

namespace IsSchedule

variable {events : List CaptureEvent} {steps : List (Step Script)}

lemma nil (s : Nat) : IsSchedule s 0 [] [] :=
  ⟨rfl, rfl, .nil, nofun⟩

/-- The ticks up to a later moment come after all that has been so far. -/
lemma then_ticks (h : IsSchedule s middle events steps) (hle : middle ≤ stop) :
    IsSchedule s stop events (steps ++ ticksBetween s middle stop) := by
  refine ⟨?_, ?_, List.pairwise_append.mpr ⟨h.inOrder, pairwise_ticksBetween s middle stop, ?_⟩, ?_⟩
  · have hticks : (ticksBetween s middle stop).filter Step.isTick = ticksBetween s middle stop :=
      List.filter_eq_self.mpr fun step hstep => (of_mem_ticksBetween hstep).2.2
    rw [List.filter_append, h.ticks_eq, hticks, ticksBetween_append s (Nat.zero_le _) hle]
  · have hnone : (ticksBetween s middle stop).filter (fun step => !step.isTick) = [] :=
      List.filter_eq_nil_iff.mpr fun step hstep => by simp [(of_mem_ticksBetween hstep).2.2]
    rw [List.filter_append, hnone, List.append_nil, h.events_eq]
  · intro first hfirst second hsecond
    have hlt : first.time < second.time :=
      (h.time_le first hfirst).trans_lt (of_mem_ticksBetween hsecond).1
    exact ⟨hlt.le, fun _ _ => hlt⟩
  · intro step hstep
    obtain hbefore | hafter := List.mem_append.mp hstep
    · exact (h.time_le step hbefore).trans hle
    · exact (of_mem_ticksBetween hafter).2.1

/-- An event comes last when no tick before its time is missing. -/
lemma then_event {event : CaptureEvent}
    (h : IsSchedule s (max (latest events) event.time) events steps) :
    IsSchedule s (max (latest events) event.time) (events ++ [event])
      (steps ++ [⟨max (latest events) event.time, event.operation⟩]) := by
  have hevent (now : Nat) : (⟨now, event.operation⟩ : Step Script).isTick = false := by
    cases event <;> rfl
  refine ⟨?_, ?_, List.pairwise_append.mpr ⟨h.inOrder, List.pairwise_singleton _ _, ?_⟩, ?_⟩
  · simp [List.filter_append, h.ticks_eq, hevent]
  · simp [List.filter_append, h.events_eq, hevent, timed_concat]
  · intro first hfirst second hsecond
    obtain rfl := List.mem_singleton.mp hsecond
    exact ⟨h.time_le first hfirst, fun _ htick => absurd htick (by simp [hevent])⟩
  · intro step hstep
    obtain hbefore | hlast := List.mem_append.mp hstep
    · exact h.time_le step hbefore
    · obtain rfl := List.mem_singleton.mp hlast
      exact le_rfl

end IsSchedule

/-- What happens up to the last event: before each event the ticks that are due. -/
def played (s : Nat) (events : List CaptureEvent) : List (Step Script) :=
  events.zipIdx.flatMap fun (event, i) =>
    let before := latest (events.take i)
    let now := max before event.time
    ticksBetween s before now ++ [⟨now, event.operation⟩]

/-- All that happens: after the last event one more second passes. -/
def schedule (s : Nat) (events : List CaptureEvent) : List (Step Script) :=
  played s events ++ ticksBetween s (latest events) (latest events + tickPeriod)

lemma played_concat (s : Nat) (events : List CaptureEvent) (event : CaptureEvent) :
    played s (events ++ [event]) = played s events ++
      ticksBetween s (latest events) (max (latest events) event.time) ++
      [⟨max (latest events) event.time, event.operation⟩] := by
  have hbefore : (events.zipIdx.flatMap fun (earlier, i) =>
      let before := latest ((events ++ [event]).take i)
      let now := max before earlier.time
      ticksBetween s before now ++ [⟨now, earlier.operation⟩]) = played s events := by
    refine List.flatMap_congr fun ⟨earlier, i⟩ hmem => ?_
    have hlt : i < events.length := List.snd_lt_of_mem_zipIdx hmem
    dsimp only
    rw [List.take_append_of_le_length hlt.le]
  rw [played, List.zipIdx_append, List.flatMap_append, hbefore, List.append_assoc]
  simp

lemma isSchedule_played (s : Nat) (events : List CaptureEvent) :
    IsSchedule s (latest events) events (played s events) := by
  induction events using List.reverseRecOn with
  | nil => exact .nil s
  | append_singleton events event ih =>
      rw [latest_concat, played_concat]
      exact (ih.then_ticks (le_max_left _ _)).then_event

theorem isSchedule_schedule (s : Nat) (events : List CaptureEvent) :
    IsSchedule s (latest events + tickPeriod) events (schedule s events) :=
  (isSchedule_played s events).then_ticks (Nat.le_add_right _ _)

end Replay

end VehicleTelemetry
