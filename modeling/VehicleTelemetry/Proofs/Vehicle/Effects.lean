import Mathlib.Tactic
import VehicleTelemetry.Proofs.Reply.Effect
import VehicleTelemetry.Proofs.Vehicle.Run

/-!
A reply that is applied writes the metrics of its data identifier and nothing else.

* `receiveChunk_of_applied`: the vehicle after such a reply, metric by metric and channel
  by channel, from the effect of its payload (`Pid.effect`);
* `receiveChunk_of_applied_grid_power`: a power from the grid while the vehicle charges.
-/

namespace VehicleTelemetry

namespace Vehicle

variable {ρ : Type}

/-- **A reply that is applied writes its own metrics.** The chunk that completes it comes
from a control unit with an action for its data identifier, and the payload has an effect:

* the metrics that the effect lists hold its values, written now and not marked, and
  they are among those of the data identifier;
* every other metric is as before, and no metric changes how long it lasts;
* the meter has recorded the events of the effect, all of them on the channels of the
  data identifier, and every other channel is as before;
* settings, poller and session are as before, and of the buffers only the sender's is
  gone. -/
theorem receiveChunk_of_applied (v : Vehicle ρ) (now : Nat) (chunk : Chunk)
    (h : (v.receiveChunk now chunk).value.2 = some .applied) :
    ∃ ecu pid payload effect, (∃ action, PlatformReply ecu pid action) ∧
      chunk.sender = ecu.responseId ∧ chunk.pid = pid.number ∧
      (v.reassembly.receive chunk).value.2 = some payload ∧
      pid.effect v.recorder now payload = .ok effect ∧
      let after := (v.receiveChunk now chunk).value.1
      ((∀ name value, (name, value) ∈ effect.writes →
          after.store.entry name = (v.store.entry name).write now value) ∧
        effect.writes.map Prod.fst ⊆ pid.signals) ∧
      ((∀ name, name ∉ effect.writes.map Prod.fst →
          after.store.entry name = v.store.entry name) ∧
        ∀ name, (after.store.entry name).lifetime = (v.store.entry name).lifetime) ∧
      (after.recorder.meter = v.recorder.meter.recordAll effect.events ∧
        ∀ c, c ∉ pid.channels →
          after.recorder.meter.channel c = v.recorder.meter.channel c) ∧
      after.config = v.config ∧ after.poller = v.poller ∧ after.machine = v.machine ∧
        after.reassembly = (v.reassembly.receive chunk).value.1 := by
  cases hpayload : (v.reassembly.receive chunk).value.2 with
  | none =>
      rw [value_receiveChunk_of_none now hpayload] at h
      cases h
  | some payload =>
      rw [value_receiveChunk_of_some now hpayload] at h ⊢
      obtain ⟨ecu, pid, action, effect, hreply, hsender, hpid, heffect, hresult⟩ :=
        exists_effect_of_applied (Option.some.inj h)
      -- no name is written twice, so each entry holds its own write at the end
      have hnodup := Pid.nodup_writes heffect
      have hwritten : ∀ name value, (name, value) ∈ effect.writes →
          (v.recorder.apply now effect).store.entry name =
            (v.store.entry name).write now value :=
        fun name value hmem => MetricStore.entry_setAll_of_mem _ hnodup hmem
      have hothers : ∀ name, name ∉ effect.writes.map Prod.fst →
          (v.recorder.apply now effect).store.entry name = v.store.entry name :=
        MetricStore.changesOnly_setAll _ now _
      have hlifetime : ∀ name, ((v.recorder.apply now effect).store.entry name).lifetime =
          (v.store.entry name).lifetime :=
        MetricStore.lifetime_setAll _ now _
      refine ⟨ecu, pid, payload, effect, ⟨action, hreply⟩, hsender, hpid, rfl, heffect, ?_⟩
      dsimp only [store] at hresult ⊢
      rw [hresult]
      exact ⟨⟨hwritten, (Pid.writes_sublist heffect).subset⟩, ⟨hothers, hlifetime⟩,
        ⟨rfl, fun c hc => Pid.channel_apply heffect hc⟩, rfl, rfl, rfl, rfl⟩

/-- A power from the grid that comes in two parts while the vehicle charges: the power and
the energy from the grid are written, and the battery's channel is left alone. -/
theorem receiveChunk_of_applied_grid_power :
    let part (pid : Pid) (first : Bool) (bytes : List UInt8) (remaining : UInt16) : Chunk :=
      { sender := Ecu.plugInControl.responseId, pid := pid.number, first, bytes, remaining }
    let v := bench.run [⟨1000, .chunk (part .charging true [1] 0)⟩,
      ⟨2000, .chunk (part .chargerInputPower true [0x80] 1)⟩]
    let last := part .chargerInputPower false [0x00] 0
    let after := (v.receiveChunk 3000 last).value.1
    (v.receiveChunk 3000 last).value.2 = some .applied ∧
      after.store.entry Signal.chargePower =
        (v.store.entry Signal.chargePower).write 3000 (.float 163.84) ∧
      after.store.entry Signal.batteryPower = v.store.entry Signal.batteryPower ∧
      after.recorder.meter.channel .battery = v.recorder.meter.channel .battery := by
  intro part v last
  have happlied : (v.receiveChunk 3000 last).value.2 = some .applied := by decide +kernel
  have hpayload : (v.reassembly.receive last).value.2 = some [0x80, 0x00] := by decide +kernel
  have hfirst : (Pid.effect v.recorder 3000 [0x80, 0x00] .chargerInputPower).toOption.bind
      (fun effect => effect.writes.head?) = some (Signal.chargePower, .float 163.84) := by
    decide +kernel
  have hpid : last.pid = Pid.chargerInputPower.number := rfl
  -- what is left does not depend on the steps, and must not evaluate the run again
  clear_value v last
  intro after
  obtain ⟨ecu, pid, payload, effect, -, -, hnumber, hreceived, heffect, ⟨hwritten, hsub⟩,
    ⟨hothers, -⟩, ⟨-, hchannels⟩, -⟩ := v.receiveChunk_of_applied 3000 last happlied
  obtain rfl : pid = .chargerInputPower := Pid.number_injective (hnumber.symm.trans hpid)
  obtain rfl : payload = [0x80, 0x00] := Option.some.inj (hreceived.symm.trans hpayload)
  rw [heffect] at hfirst
  have hnot : Signal.batteryPower ∉ Pid.chargerInputPower.signals := by decide
  exact ⟨happlied, hwritten _ _ (List.mem_of_mem_head? hfirst),
    hothers _ fun hmem => hnot (hsub hmem), hchannels _ (by decide)⟩

end Vehicle

end VehicleTelemetry
