import Mathlib.Tactic
import VehicleTelemetry.Proofs.Reply.Beginnings
import VehicleTelemetry.Proofs.Reply.Repeated
import VehicleTelemetry.Proofs.Vehicle.Drives

/-!
A reply that is delivered twice counts once.

* `sound_run`: the meter of a vehicle that has been run from the beginning counts no
  negative energy, which is what makes a second sample at one time vanish;
* `begins_receiveChunk`: a chunk reports the beginning of a trip or a charge only if one
  begins with it;
* `run_duplicate`: the same reply at the same time leaves the whole vehicle as it is.
-/

namespace VehicleTelemetry

namespace Vehicle

open Recorder (begins_of_any_eq_false)

variable {ρ : Type}

/-- A chunk reports a beginning only when there is one. -/
lemma begins_receiveChunk (v : Vehicle ρ) (now : Nat) (chunk : Chunk) :
    ∀ event ∈ (v.receiveChunk now chunk).events,
      v.recorder.Begins now (v.receiveChunk now chunk).value.1.recorder event := by
  have hnotice (old : Option ResponseBuffer) :
      (Reassembly.notice old chunk).events.any Event.isBeginning = false := by
    unfold Reassembly.notice
    split
    · split <;> rfl
    · rfl
    · rfl
  have hreceive : (v.reassembly.receive chunk).events.any Event.isBeginning = false := by
    rw [Reassembly.receive, Logged.events_bind, List.any_append, hnotice]
    split <;> rfl
  rw [receiveChunk, Logged.events_bind, Logged.value_bind]
  refine List.forall_mem_append.mpr ⟨begins_of_any_eq_false hreceive _, ?_⟩
  cases (v.reassembly.receive chunk).value with
  | mk reassembly payload =>
      cases payload with
      | none => exact begins_of_any_eq_false rfl _
      | some payload =>
          refine List.forall_mem_append.mpr ⟨begins_of_any_eq_false rfl _, ?_⟩
          have hdispatch := begins_dispatch
            { sender := chunk.sender, pid := chunk.pid, payload, time := now } v.recorder
          simpa using hdispatch

variable [Responder ρ]

/-- The meter of a vehicle counts no negative energy. -/
lemma sound_run (config : VehicleConfig) (store : MetricStore) (poller : Poller ρ) (start : Nat)
    (steps : List (Step ρ)) :
    ((create config store poller start).value.run steps).recorder.meter.Sound := by
  rw [meter_run]
  exact EnergyMeter.sound_empty.recordAll _

/-- **A reply that is delivered twice counts once.** In every state that a vehicle can get
to, deliver a whole response and deliver it again at the same time, with nothing in
between:

* each time there is an outcome, and the second time it is the same;
* the whole vehicle is as the first delivery has left it: metrics with their times and
  marks, the meter, the session, the poller and the buffers;
* the second delivery begins no trip and no charge, as its reports tell. -/
theorem run_duplicate (config : VehicleConfig) (store : MetricStore) (poller : Poller ρ)
    (start : Nat) (steps : List (Step ρ)) (now : Nat) {chunk : Chunk}
    (hwhole : chunk.Whole) :
    let v := (create config store poller start).value.run steps
    let first := (v.receiveChunk now chunk).value
    let second := first.1.receiveChunk now chunk
    first.2.isSome = true ∧ second.value = first ∧
      ∀ event ∈ second.events, event.isBeginning = false := by
  intro v first second
  have hsound : v.recorder.meter.Sound := sound_run config store poller start steps
  clear_value v
  have hvalue : first = _ := v.value_receiveChunk_of_whole now hwhole
  have hsame : second.value = first := by
    have hdispatch := dispatch_dispatch (chunk.reply now) hsound
    have hagain : second.value = _ := first.1.value_receiveChunk_of_whole now hwhole
    rw [hagain, hvalue]
    dsimp only at hdispatch ⊢
    rw [hdispatch, Reassembly.receive_receive_of_whole _ hwhole]
  refine ⟨by rw [hvalue]; rfl, hsame, fun event hevent => ?_⟩
  -- a beginning would show in the store, but the second delivery leaves the whole vehicle equal
  have hbegins := first.1.begins_receiveChunk now chunk event hevent
  rw [show (first.1.receiveChunk now chunk).value = first from hsame] at hbegins
  exact hbegins.isBeginning_eq_false

/-- The first power from the grid in a charge is counted for a usual interval, once. -/
theorem run_duplicate_grid_power :
    let whole (pid : Pid) (bytes : List UInt8) : Chunk :=
      { sender := Ecu.plugInControl.responseId, pid := pid.number, first := true, bytes,
        remaining := 0 }
    let v := bench.run [⟨1000, .chunk (whole .charging [1])⟩]
    let power := whole .chargerInputPower [0x80, 0x00]
    let first := (v.receiveChunk 2000 power).value
    power.Whole ∧ first.2 = some .applied ∧
      0.0 < first.1.store.float Signal.gridEnergy ∧
      (first.1.receiveChunk 2000 power).value = first := by
  intro whole v power first
  have hwhole : power.Whole := ⟨rfl, rfl⟩
  have happlied : first.2 = some .applied := by decide +kernel
  have hcounted : 0.0 < first.1.store.float Signal.gridEnergy := by decide +kernel
  obtain ⟨-, hsame, -⟩ := run_duplicate VehicleConfig.bench MetricStore.withLifetimes
    ScriptedPoller.empty 0 [⟨1000, .chunk (whole .charging [1])⟩] 2000 hwhole
  exact ⟨hwhole, happlied, hcounted, hsame⟩

end Vehicle

end VehicleTelemetry
