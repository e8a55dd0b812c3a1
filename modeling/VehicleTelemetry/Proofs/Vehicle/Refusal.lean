import Mathlib.Tactic
import VehicleTelemetry.Proofs.Reply.Outcome
import VehicleTelemetry.Proofs.Vehicle.Run

/-!
A reply that is not applied leaves no trace: whatever keeps a chunk from being
applied, the vehicle is as before but for the buffer of the chunk's sender.
-/

namespace VehicleTelemetry

namespace Vehicle

variable {ρ : Type}

/-- **A reply that is not applied changes nothing.** Whether a chunk leaves bytes
to come, its reply finds no action, cannot be decoded or is gated: metrics with
their times, marks and lifetimes, energies, session, poller and settings are as
before, and so is every buffer but that of the chunk's sender. -/
theorem receiveChunk_of_not_applied (v : Vehicle ρ) (now : Nat) (chunk : Chunk)
    (h : (v.receiveChunk now chunk).value.2 ≠ some .applied) :
    let after := (v.receiveChunk now chunk).value.1
    after.recorder = v.recorder ∧ after.machine = v.machine ∧ after.poller = v.poller ∧
      after.config = v.config ∧
      ∀ other, other ≠ chunk.sender →
        after.reassembly.buffer? other = v.reassembly.buffer? other := by
  have hbuffers : ∀ other, other ≠ chunk.sender →
      (v.reassembly.receive chunk).value.1.buffer? other = v.reassembly.buffer? other := by
    intro other hother
    rw [Reassembly.buffer?_receive, if_neg hother]
  cases hpayload : (v.reassembly.receive chunk).value.2 with
  | none =>
      rw [value_receiveChunk_of_none now hpayload]
      exact ⟨rfl, rfl, rfl, rfl, hbuffers⟩
  | some payload =>
      rw [value_receiveChunk_of_some now hpayload] at h ⊢
      have hrecorder := dispatch_of_not_applied
        { sender := chunk.sender, pid := chunk.pid, payload, time := now } v.recorder
        fun happlied => h (congrArg some happlied)
      exact ⟨hrecorder, rfl, rfl, rfl, hbuffers⟩

/-- A pack reading that holds the voltage but only half of the current is
refused, and the voltage is not taken over. -/
theorem receiveChunk_of_not_applied_half_pack_reading :
    let v := bench.receiveFrame 5
    let chunk : Chunk :=
      { sender := Ecu.hybridControl.responseId, pid := Pid.batteryVoltageAndCurrent.number,
        first := true, bytes := [0, 0, 0x64, 0x00, 0xFF], remaining := 0 }
    (v.receiveChunk 7 chunk).value.2 = some (.refused (.shortPayload 4 2 5)) ∧
      (v.receiveChunk 7 chunk).value.1.recorder = v.recorder := by
  intro v chunk
  have h : (v.receiveChunk 7 chunk).value.2 = some (.refused (.shortPayload 4 2 5)) := by decide
  exact ⟨h, (v.receiveChunk_of_not_applied 7 chunk (by rw [h]; decide)).1⟩

end Vehicle

end VehicleTelemetry
