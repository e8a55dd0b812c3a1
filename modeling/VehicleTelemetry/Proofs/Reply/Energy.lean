import Mathlib.Tactic
import VehicleTelemetry.Proofs.Recorder.Energy
import VehicleTelemetry.Proofs.Reply.Outcome

/-!
The energy that replies are counted with.

* `Reply.samples`: the power sample that a reply holds, for the three data
  identifiers that carry one;
* `PlatformReply.accounts`: each of the thirteen actions counts the sample of a
  reply that it applies and the resets that follow from edges, and nothing else;
  `accounts_dispatch` is the same for the whole table;
* `dispatch_of_not_charging`: powers of charging leave no trace unless the
  vehicle charges.
-/

namespace VehicleTelemetry

/-- The sample of a channel that a decoded power stands for. -/
def powerSample (channel : EnergyChannel) (time : Nat) :
    Except PayloadError Float → List (EnergyEvent Float)
  | .ok power => [.sample channel power time]
  | .error _ => []

/-- The power sample that a payload for a data identifier holds. -/
def Pid.samples (pid : Pid) (time : Nat) (payload : Payload) : List (EnergyEvent Float) :=
  match pid with
  | .batteryVoltageAndCurrent =>
    powerSample .battery time (Decode.PackReading.power <$> Decode.packReading payload)
  | .batteryChargingPower => powerSample .charger time (Decode.batteryChargingPower payload)
  | .chargerInputPower => powerSample .grid time (Decode.chargerInputPower payload)
  | _ => []

/-- The power sample that a reply holds. -/
def Reply.samples (reply : Reply) : List (EnergyEvent Float) :=
  match Pid.ofNumber? reply.pid with
  | some pid => pid.samples reply.time reply.payload
  | none => []

open Recorder (Accounts LeavesEnergy)

namespace Pid

variable {pid : Pid} {r : Recorder} {now : Nat} {data : Payload} {effect : ReplyEffect}

lemma resetsBetween_apply_eq_nil (h : pid.effect r now data = .ok effect)
    (hready : Signal.on ∉ pid.signals) (hcharging : Signal.chargeInProgress ∉ pid.signals) :
    resetsBetween r.store (r.apply now effect).store = [] :=
  resetsBetween_eq_nil_of_changesOnly (changesOnly_apply_signals h) hready hcharging

/-- An effect without a channel that writes no metered signal is no event. -/
lemma leavesEnergy_apply (h : pid.effect r now data = .ok effect) (hchannels : pid.channels = [])
    (hsignals : ∀ name ∈ Signal.metered, name ∉ pid.signals) :
    LeavesEnergy r (r.apply now effect) := by
  refine .of_changesOnly ?_ (changesOnly_apply_signals h) hsignals
  rw [Recorder.apply, events_eq_nil h hchannels]
  rfl

/-- Getting ready counts the battery anew, and only that. -/
lemma accounts_readySignal (h : readySignal.effect r now data = .ok effect) :
    Accounts (resetsBetween r.store (r.apply now effect).store) r (r.apply now effect) := by
  have hcharging : (r.apply now effect).store.bool Signal.chargeInProgress =
      r.store.bool Signal.chargeInProgress := (changesOnly_apply_signals h).bool_eq (by decide)
  obtain ⟨ready, hdecode, hready⟩ := exists_of_bind_eq_ok h
  have hwritten := ready_mem_writes h hdecode
  have hresets : resetsBetween r.store (r.apply now effect).store =
      if ready && !r.store.bool Signal.on then [.reset .battery] else [] := by
    simp [resetsBetween, MetricStore.rises, bool_apply h hwritten, hcharging, and_comm]
  have hput : Accounts [] r (r.put now Signal.on (.bool ready)) := .put r now (by decide) _
  -- the edge on which the energy is cleared is the rise that counts as a reset
  rw [hresets]
  split at hready
  · next hedge =>
    obtain rfl := Except.ok.inj hready
    rw [if_pos hedge]
    exact hput.trans (Recorder.accounts_clearBatteryEnergy _ now)
  · next hsteady =>
    obtain rfl := Except.ok.inj hready
    rw [if_neg hsteady]
    exact hput

/-- The beginning of charging counts all channels anew. -/
lemma accounts_charging (h : charging.effect r now data = .ok effect) :
    Accounts (resetsBetween r.store (r.apply now effect).store) r (r.apply now effect) := by
  have hon : (r.apply now effect).store.bool Signal.on = r.store.bool Signal.on :=
    (changesOnly_apply_signals h).bool_eq (by decide)
  obtain ⟨charging, hdecode, hcharging⟩ := exists_of_bind_eq_ok h
  have hwritten := charging_mem_writes h hdecode
  have hresets : resetsBetween r.store (r.apply now effect).store =
      if charging && !r.store.bool Signal.chargeInProgress then EnergyChannel.all.map .reset
      else [] := by
    simp [resetsBetween, MetricStore.rises, bool_apply h hwritten, hon, and_comm]
  have hput : Accounts [] r (r.put now Signal.chargeInProgress (.bool charging)) :=
    .put r now (by decide) _
  rw [hresets]
  split at hcharging
  · next hedge =>
    obtain rfl := Except.ok.inj hcharging
    rw [if_pos hedge]
    exact hput.trans (Recorder.accounts_startCharge _ now)
  · next hsteady =>
    obtain rfl := Except.ok.inj hcharging
    rw [if_neg hsteady]
    exact hput

/-- What an effect is to the meter: three data identifiers count a sample, for two an edge
can entail resets, and the others have nothing to do with energy. -/
lemma accounts_apply (h : pid.effect r now data = .ok effect) :
    Accounts (resetsBetween r.store (r.apply now effect).store ++ pid.samples now data) r
      (r.apply now effect) := by
  cases pid with
  | batteryVoltageAndCurrent =>
      obtain ⟨reading, hdecode, hreading⟩ := exists_of_bind_eq_ok h
      rw [resetsBetween_apply_eq_nil h (by decide) (by decide), samples, hdecode]
      obtain rfl := Except.ok.inj hreading
      have hvoltage : Accounts [] r (r.put now Signal.batteryVoltage (.float reading.voltage)) :=
        .put r now (by decide) _
      have hcurrent := hvoltage.trans
        (.put _ now (by decide : Signal.batteryCurrent ∉ Signal.energies) (.float reading.current))
      exact hcurrent.trans (Recorder.accounts_setBatteryPower _ now reading.power)
  | batteryChargingPower =>
      obtain ⟨power, hdecode, hpower⟩ := exists_of_bind_eq_ok h
      rw [resetsBetween_apply_eq_nil h (by decide) (by decide), samples, hdecode]
      split at hpower
      · obtain rfl := Except.ok.inj hpower
        exact Recorder.accounts_setBatteryChargingPower r now power
      · cases hpower
  | chargerInputPower =>
      obtain ⟨power, hdecode, hpower⟩ := exists_of_bind_eq_ok h
      rw [resetsBetween_apply_eq_nil h (by decide) (by decide), samples, hdecode]
      split at hpower
      · obtain rfl := Except.ok.inj hpower
        exact Recorder.accounts_setChargerInputPower r now power
      · cases hpower
  -- the signals that reset a channel sample none
  | readySignal =>
      simp only [samples, List.append_nil]
      exact accounts_readySignal h
  | charging =>
      simp only [samples, List.append_nil]
      exact accounts_charging h
  | _ =>
      have hleaves := leavesEnergy_apply h rfl (by decide)
      rw [hleaves.resetsBetween_eq_nil]
      exact hleaves.accounts

/-- Powers of charging have no effect while the vehicle does not charge. -/
lemma effect_ne_ok_of_not_charging (hpid : pid = .batteryChargingPower ∨ pid = .chargerInputPower)
    (hidle : r.chargingInProgress = false) : pid.effect r now data ≠ .ok effect := by
  intro h
  rw [Recorder.chargingInProgress] at hidle
  obtain rfl | rfl := hpid <;>
  · obtain ⟨power, -, hpower⟩ := exists_of_bind_eq_ok h
    rw [hidle] at hpower
    cases hpower

end Pid

/-- The samples that a reply with an outcome is counted with. -/
def Reply.counted (reply : Reply) : ReplyOutcome → List (EnergyEvent Float)
  | .applied => reply.samples
  | _ => []

lemma Reply.counted_of_not_applied (reply : Reply) {outcome : ReplyOutcome}
    (h : outcome ≠ .applied) : reply.counted outcome = [] := by
  cases outcome <;> first | rfl | exact absurd rfl h

lemma accounts_dispatch (reply : Reply) (r : Recorder) :
    Accounts (resetsBetween r.store (platformTable.dispatch reply r).value.1.store ++
      reply.counted (platformTable.dispatch reply r).value.2) r
      (platformTable.dispatch reply r).value.1 := by
  by_cases happlied : (platformTable.dispatch reply r).value.2 = .applied
  swap
  · rw [dispatch_of_not_applied reply r happlied, reply.counted_of_not_applied happlied,
      resetsBetween_eq_nil_of_changesOnly (.refl [] _) (by simp) (by simp)]
    exact .refl r
  obtain ⟨ecu, pid, action, effect, -, -, hpid, heffect, hresult⟩ :=
    exists_effect_of_applied happlied
  rw [happlied, Reply.counted, Reply.samples, hpid, Pid.ofNumber?_number, hresult]
  exact Pid.accounts_apply heffect

/-- Powers of charging leave no trace while the vehicle does not charge. -/
lemma dispatch_of_not_charging (reply : Reply) (r : Recorder)
    (hpid : reply.pid = Pid.batteryChargingPower.number ∨ reply.pid = Pid.chargerInputPower.number)
    (hidle : r.chargingInProgress = false) : (platformTable.dispatch reply r).value.1 = r := by
  refine dispatch_of_not_applied reply r fun happlied => ?_
  obtain ⟨ecu, pid, action, effect, -, -, hnumber, heffect, -⟩ :=
    exists_effect_of_applied happlied
  rw [hnumber] at hpid
  exact Pid.effect_ne_ok_of_not_charging
    (hpid.imp (Pid.number_injective ·) (Pid.number_injective ·)) hidle heffect

end VehicleTelemetry
