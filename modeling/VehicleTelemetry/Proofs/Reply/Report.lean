import Mathlib.Tactic
import VehicleTelemetry.Proofs.Recorder.Reconcile
import VehicleTelemetry.Proofs.Reply.Outcome

/-!
The replies that report a signal which is switched off when it is stale.

* `Signal.Reported`: the two signals that are reported by replies, each with its
  data identifier and what is decoded;
* `Reported.entry_dispatch`: an applied reply for the identifier writes what it
  decodes to, and `Reported.entry_dispatch_of_ne`: no other reply writes the signal.
-/

namespace VehicleTelemetry

/-- The signals that replies report, with the data identifiers and the decoders. -/
inductive Signal.Reported : String → Pid → (Payload → Except PayloadError Bool) → Prop
  | ready : Reported Signal.on .readySignal Decode.ready
  | chargingLid : Reported Signal.chargePort .chargingLid Decode.chargingDoorOpen

namespace Signal.Reported

variable {name : String} {pid : Pid} {decode : Payload → Except PayloadError Bool}

lemma mem_switched (h : Reported name pid decode) : name ∈ Signal.switched := by
  cases h <;> decide

lemma ne_awake (h : Reported name pid decode) : name ≠ Signal.awake := by
  cases h <;> decide

/-- No other data identifier has the signal among its metrics. -/
lemma eq_of_mem_signals (h : Reported name pid decode) {other : Pid} (hmem : name ∈ other.signals) :
    other = pid := by
  cases h with
  | ready =>
      have hall : ∀ known ∈ Pid.all, Signal.on ∈ known.signals → known = .readySignal := by decide
      exact hall other other.mem_all hmem
  | chargingLid =>
      have hall : ∀ known ∈ Pid.all, Signal.chargePort ∈ known.signals → known = .chargingLid := by
        decide
      exact hall other other.mem_all hmem

variable {reply : Reply} {r : Recorder}

/-- The effect of a payload for the identifier writes what the payload decodes to. -/
lemma exists_of_effect (h : Reported name pid decode) {now : Nat} {data : Payload}
    {effect : ReplyEffect} (heffect : pid.effect r now data = .ok effect) :
    ∃ b, decode data = .ok b ∧ (name, .bool b) ∈ effect.writes := by
  cases h with
  | ready =>
      obtain ⟨ready, hdecode, -⟩ := Pid.exists_of_bind_eq_ok heffect
      exact ⟨ready, hdecode, Pid.ready_mem_writes heffect hdecode⟩
  | chargingLid =>
      obtain ⟨isOpen, hdecode, hopen⟩ := Pid.exists_of_bind_eq_ok heffect
      obtain rfl := Except.ok.inj hopen
      exact ⟨isOpen, hdecode, .head _⟩

lemma entry_dispatch_of_ne (h : Reported name pid decode) (hne : reply.pid ≠ pid.number) :
    (platformTable.dispatch reply r).value.1.store.entry name = r.store.entry name := by
  refine changesOnly_dispatch_ofPid reply r name fun hmem => ?_
  obtain ⟨other, hnumber, hsignals⟩ := exists_of_mem_ofPid hmem
  rw [h.eq_of_mem_signals hsignals] at hnumber
  exact hne hnumber

lemma entry_dispatch (h : Reported name pid decode) (hpid : reply.pid = pid.number)
    (happlied : (platformTable.dispatch reply r).value.2 = .applied) :
    ∃ b, decode reply.payload = .ok b ∧
      (platformTable.dispatch reply r).value.1.store.entry name =
        (r.store.entry name).write reply.time (.bool b) := by
  obtain ⟨ecu, other, action, effect, -, -, hnumber, heffect, hresult⟩ :=
    exists_effect_of_applied happlied
  obtain rfl : other = pid := Pid.number_injective (hnumber.symm.trans hpid)
  obtain ⟨b, hdecode, hwritten⟩ := h.exists_of_effect heffect
  exact ⟨b, hdecode, hresult ▸ Pid.entry_apply heffect hwritten⟩

end Signal.Reported

end VehicleTelemetry
