import Mathlib.Tactic
import VehicleTelemetry.Proofs.Recorder.Settled
import VehicleTelemetry.Proofs.Session.Settling
import VehicleTelemetry.Proofs.Vehicle.Charging

/-!
A vehicle whose clock stands still and of which nothing is heard: one tick after the other at
the same time, with nothing in between.

The first tick reconciles what is stale. From then on the signals are frozen but for the state
of charging, which the session machine itself publishes.

* `reconciled_tick`: after a tick there is nothing left to reconcile;
* `inputs_tick`: the next tick hands the same signals to the machine, with the state of
  charging that has been published, so `ticksLeft` falls by one with every tick that does
  something (`ticksLeft_tick`);
* `Restless.tick_sleep`, `Restless.tick_awake`: the one way never to come to rest;
* `frozen_run`: the theorem for all vehicles and times.
-/

namespace VehicleTelemetry.Vehicle

open SessionMachine

variable {ρ : Type} [Responder ρ]

/-- The vehicle after `n` ticks at one time. -/
def afterTicks (v : Vehicle ρ) (now n : Nat) : Vehicle ρ :=
  v.run (List.replicate n ⟨now, .tick⟩)

variable (v : Vehicle ρ) (now : Nat)

lemma afterTicks_succ (n : Nat) :
    v.afterTicks now (n + 1) = ((v.afterTicks now n).tick now).value := by
  rw [afterTicks, List.replicate_succ', run_append]
  rfl

/-! ### One tick after the other -/

/-- What a tick does for the machine leaves the signals as they have been reconciled. -/
lemma changesOnly_reconciled_tick :
    MetricStore.ChangesOnly Signal.performed (v.reconciled now).store
      (v.tick now).value.store := by
  rw [value_tick]
  exact ((v.decided now).performFrame_performAll now (v.decision now).1).changesOnly

/-- So there is no occasion to reconcile anything again. -/
lemma reconciled_tick : (v.tick now).value.reconciled now = (v.tick now).value := by
  have hframe := v.changesOnly_reconciled_tick now
  have hagain : (v.tick now).value.recorder.reconcile now = pure (v.tick now).value.recorder := by
    refine Recorder.reconcile_eq_pure _ now (fun name hname => ?_) ?_
    · have hother : name ∉ Signal.performed := by
        revert name
        decide
      exact (congrArg₂ _ (hframe.isStale_eq hother now) (hframe.bool_eq hother)).trans
        (v.recorder.switched_reconcile now hname)
    · have hpower := hframe Signal.batteryPower (by decide)
      rw [Recorder.powerLapsed_congr now hpower]
      exact v.recorder.not_powerLapsed_reconcile now
  rw [reconciled, hagain]
  rfl

lemma text_chargeState_tick :
    (v.tick now).value.store.text Signal.chargeState =
      ((v.inputs now).showing (shown (v.decision now))).chargeState := by
  have hentry := (v.decided now).chargeState_performAll now (v.decision now).1
  have hbefore : (v.decided now).store.text Signal.chargeState = (v.inputs now).chargeState := rfl
  rw [← value_tick, ← shown] at hentry
  rw [MetricStore.text, MetricStore.value?, hentry]
  cases shown (v.decision now) with
  | none => exact hbefore
  | some state => rfl

/-- The next tick hands the signals of this one to the machine, but for the state of charging
that is published. -/
lemma inputs_tick :
    (v.tick now).value.inputs now = (v.inputs now).showing (shown (v.decision now)) := by
  have hframe := v.changesOnly_reconciled_tick now
  have htext := v.text_chargeState_tick now
  have hinputs : (v.tick now).value.inputs now =
      { v.inputs now with chargeState := (v.tick now).value.store.text Signal.chargeState } := by
    rw [inputs, reconciled_tick, inputs, Recorder.sessionInputs, Recorder.sessionInputs]
    congr 1
    · exact hframe.bool_eq (by decide)
    · exact hframe.bool_eq (by decide)
    · exact hframe.bool_eq (by decide)
    · exact hframe.bool_eq (by decide)
    · exact hframe.bool_eq (by decide)
    · exact hframe.float_eq (by decide)
    · exact hframe.float_eq (by decide)
  rw [hinputs, htext]
  cases shown (v.decision now) <;> rfl

/-! ### Coming to rest -/

/-- How many ticks are to come that do something for the machine. -/
def ticksLeft : Nat :=
  SessionMachine.ticksLeft (v.inputs now) v.state

/-- The frozen signals let the vehicle have no rest. -/
def Restless : Prop :=
  v.machine.Restless (v.inputs now)

lemma restless_tick : (v.tick now).value.Restless now ↔ v.Restless now := by
  have hmargin : (v.tick now).value.machine.margin = v.machine.margin := by
    rw [machine_tick, decision_eq, margin_step]
  rw [Restless, Restless, SessionMachine.Restless, SessionMachine.Restless, threshold, threshold,
    hmargin, inputs_tick]
  cases shown (v.decision now) <;> rfl

variable {v now}

/-- A tick that has nothing to do for the machine leaves it at the reconciliation. -/
lemma tick_of_idle (h : ¬ v.Restless now) (hidle : (v.decision now).1 = []) :
    (v.tick now).value = v.reconciled now ∧ v.ticksLeft now = 0 := by
  have hsettles : Settles (v.inputs now) v.machine (v.decision now) := v.machine.settles_step h
  have hvalue := v.value_tick now
  rw [decided] at hvalue
  generalize v.decision now = result at hsettles hidle hvalue
  cases hsettles with
  | idle hleft => exact ⟨hvalue, hleft⟩
  | busy hasks => exact absurd hidle hasks

/-- Every other tick leaves one tick less. -/
lemma ticksLeft_of_busy (h : ¬ v.Restless now) (hbusy : (v.decision now).1 ≠ []) :
    v.ticksLeft now = (v.tick now).value.ticksLeft now + 1 := by
  have hsettles : Settles (v.inputs now) v.machine (v.decision now) := v.machine.settles_step h
  have hinputs := v.inputs_tick now
  have hstate : (v.tick now).value.state = (v.decision now).2.state :=
    congrArg SessionMachine.state (v.machine_tick now)
  rw [ticksLeft, ticksLeft, hinputs, hstate]
  generalize v.decision now = result at hsettles hbusy
  cases hsettles with
  | idle => exact absurd rfl hbusy
  | busy hasks hleft => exact hleft

lemma idle_iff (h : ¬ v.Restless now) : (v.decision now).1 = [] ↔ v.ticksLeft now = 0 := by
  refine ⟨fun hidle => (tick_of_idle h hidle).2, fun hnone => ?_⟩
  by_contra hbusy
  rw [ticksLeft_of_busy h hbusy] at hnone
  cases hnone

lemma ticksLeft_tick (h : ¬ v.Restless now) :
    (v.tick now).value.ticksLeft now = v.ticksLeft now - 1 := by
  by_cases hidle : (v.decision now).1 = []
  · obtain ⟨hvalue, hnone⟩ := tick_of_idle h hidle
    have hinputs : (v.tick now).value.inputs now = v.inputs now := by
      rw [inputs_tick, shown, hidle]
      rfl
    have hstate : (v.tick now).value.state = v.state := by
      rw [hvalue]
      rfl
    rw [hnone, ticksLeft, hinputs, hstate]
    exact hnone
  · rw [ticksLeft_of_busy h hidle]
    rfl

lemma ticksLeft_afterTicks (h : ¬ v.Restless now) (n : Nat) :
    ¬ (v.afterTicks now n).Restless now ∧
      (v.afterTicks now n).ticksLeft now = v.ticksLeft now - n := by
  induction n with
  | zero => exact ⟨h, rfl⟩
  | succ n ih =>
      obtain ⟨hrest, hleft⟩ := ih
      rw [afterTicks_succ, restless_tick, ticksLeft_tick hrest, hleft, Nat.sub_sub]
      exact ⟨hrest, rfl⟩

/-- A tick without anything left to do, after a first one at the same time, changes nothing. -/
lemma afterTicks_succ_eq (h : ¬ v.Restless now) {n : Nat} (hn : n ≠ 0)
    (hnone : v.ticksLeft now ≤ n) : v.afterTicks now (n + 1) = v.afterTicks now n := by
  obtain ⟨hrest, hleft⟩ := ticksLeft_afterTicks h n
  have hidle : ((v.afterTicks now n).decision now).1 = [] := by
    rw [idle_iff hrest, hleft]
    exact Nat.sub_eq_zero_of_le hnone
  obtain ⟨n, rfl⟩ := Nat.exists_eq_succ_of_ne_zero hn
  rw [afterTicks_succ, (tick_of_idle hrest hidle).1, afterTicks_succ]
  exact reconciled_tick _ now

/-! ### No rest -/

/-- A sleeping vehicle that has no rest is woken, and the bus is reset. -/
lemma Restless.tick_sleep (h : v.Restless now) (hstate : v.state = .sleep) :
    (v.tick now).value.state = .awake ∧
      (v.tick now).value.poller.resets = v.poller.resets + 1 := by
  have hdecision : v.decision now = _ := SessionMachine.Restless.wakes _ h hstate
  refine ⟨?_, ?_⟩
  · rw [state, machine_tick, hdecision]
  · rw [value_tick, hdecision]
    rfl

/-- An awake one falls asleep. -/
lemma Restless.tick_awake (h : v.Restless now) (hstate : v.state = .awake) :
    (v.tick now).value.state = .sleep ∧
      (v.tick now).value.poller.resets = v.poller.resets := by
  have hdecision : v.decision now = _ := SessionMachine.Restless.fallsAsleep _ h hstate
  refine ⟨?_, ?_⟩
  · rw [state, machine_tick, hdecision]
  · rw [value_tick, hdecision]
    rfl

lemma Restless.afterTicks (h : v.Restless now) (hstate : v.state = .sleep) (n : Nat) :
    (v.afterTicks now (2 * n)).Restless now ∧ (v.afterTicks now (2 * n)).state = .sleep ∧
      (v.afterTicks now (2 * n)).poller.resets = v.poller.resets + n := by
  induction n with
  | zero => exact ⟨h, hstate, rfl⟩
  | succ n ih =>
      obtain ⟨hrestless, hsleep, hresets⟩ := ih
      obtain ⟨hawake, hreset⟩ := hrestless.tick_sleep hsleep
      have hnext := (restless_tick _ now).mpr hrestless
      obtain ⟨hasleep, hnoReset⟩ := hnext.tick_awake hawake
      rw [Nat.mul_succ, Vehicle.afterTicks_succ, Vehicle.afterTicks_succ, restless_tick, hnoReset,
        hreset, hresets]
      exact ⟨hnext, hasleep, rfl⟩

/-- **Frozen signals settle.** For all vehicles, in front of any responder, and all times: when
one tick follows the other at the same time with nothing in between,

* ticks do something for the session machine up to some number of them, which is at most four,
  and not after that, and from the fifth on a tick changes nothing of the vehicle at all. This is
  so unless, when the first tick has reconciled the signals, the bus is silent and the voltage of
  the auxiliary battery exceeds its reference by more than the margin;
* in this case a sleeping vehicle wakes at every odd tick, each time with one reset of the bus,
  and falls asleep at every even one. -/
theorem frozen_run (v : Vehicle ρ) (now : Nat) :
    let inputs := v.inputs now
    let after (n : Nat) := v.run (List.replicate n ⟨now, .tick⟩)
    (¬ (inputs.awake = false ∧
        inputs.auxVoltage > inputs.auxVoltageReference + v.machine.margin) →
      (∃ busy ≤ 4, ∀ n, ((after n).decision now).1 = [] ↔ busy ≤ n) ∧
        ∀ n, 4 ≤ n → after (n + 1) = after n) ∧
    (inputs.awake = false → inputs.auxVoltage > inputs.auxVoltageReference + v.machine.margin →
      v.state = .sleep → ∀ n,
        ((after (2 * n)).state = .sleep ∧
          (after (2 * n)).poller.resets = v.poller.resets + n) ∧
        (after (2 * n + 1)).state = .awake ∧
          (after (2 * n + 1)).poller.resets = v.poller.resets + n + 1) := by
  intro inputs after
  have hbound : v.ticksLeft now ≤ 4 := ticksLeft_le inputs v.state
  -- at rest each acting tick leaves one less to come; else two ticks lead from sleep to sleep
  refine ⟨fun hrest => ⟨⟨v.ticksLeft now, hbound, fun n => ?_⟩, fun n hn => ?_⟩,
    fun hawake haux hsleep n => ?_⟩
  · obtain ⟨hstill, hleft⟩ := ticksLeft_afterTicks hrest n
    show ((v.afterTicks now n).decision now).1 = [] ↔ v.ticksLeft now ≤ n
    rw [idle_iff hstill, hleft, Nat.sub_eq_zero_iff_le]
  · exact afterTicks_succ_eq hrest (by omega) (hbound.trans hn)
  · obtain ⟨hrestless, hstate, hresets⟩ := Restless.afterTicks ⟨hawake, haux⟩ hsleep n
    obtain ⟨hwoken, hreset⟩ := hrestless.tick_sleep hstate
    rw [← afterTicks_succ] at hwoken hreset
    exact ⟨⟨hstate, hresets⟩, hwoken, hreset.trans (congrArg (· + 1) hresets)⟩

/-- The cable, the lid and the bus of a charging vehicle are all gone at once: it takes four ticks
to fall asleep. Then a charger of the auxiliary battery is connected, and it finds no rest. -/
theorem frozen_run_all_gone :
    let lid : Chunk :=
      { sender := Ecu.plugInControl.responseId, pid := Pid.chargingLid.number, first := true,
        bytes := [0, 2], remaining := 0 }
    let plugged : List (Step Script) := [⟨0, .frame⟩, ⟨0, .tick⟩, ⟨0, .chunk lid⟩, ⟨0, .tick⟩,
      ⟨0, .setMetric Signal.pilot (.bool true)⟩, ⟨0, .tick⟩,
      ⟨0, .setMetric Signal.chargeInProgress (.bool true)⟩, ⟨0, .tick⟩]
    let gone : List (Step Script) := [⟨500000, .setMetric Signal.pilot (.bool false)⟩,
      ⟨500000, .setMetric Signal.chargeInProgress (.bool false)⟩]
    let v := bench.run (plugged ++ gone)
    let w := bench.setMetric 0 Signal.auxVoltage (.float 13.5)
    let after (n : Nat) := v.run (List.replicate n ⟨500000, .tick⟩)
    let again (n : Nat) := w.run (List.replicate n ⟨0, .tick⟩)
    (¬ ((v.inputs 500000).awake = false ∧ (v.inputs 500000).auxVoltage >
        (v.inputs 500000).auxVoltageReference + v.machine.margin) ∧
      v.state = .charging ∧ ((after 3).decision 500000).1 = [.transition .awake .sleep] ∧
      ∀ n, 4 ≤ n → after (n + 1) = after n) ∧
    (w.inputs 0).awake = false ∧
      (w.inputs 0).auxVoltage > (w.inputs 0).auxVoltageReference + w.machine.margin ∧
      w.state = .sleep ∧ ∀ n, (again (2 * n)).state = .sleep ∧ (again (2 * n + 1)).state = .awake ∧
        (again (2 * n)).poller.resets = n := by
  intro lid plugged gone v w after again
  have hrest : ¬ ((v.inputs 500000).awake = false ∧ (v.inputs 500000).auxVoltage >
      (v.inputs 500000).auxVoltageReference + v.machine.margin) := by decide +kernel
  have hcharging : v.state = .charging := by decide +kernel
  have hfourth : ((after 3).decision 500000).1 = [.transition .awake .sleep] := by decide +kernel
  have hawake : (w.inputs 0).awake = false := by decide +kernel
  have haux : (w.inputs 0).auxVoltage > (w.inputs 0).auxVoltageReference + w.machine.margin := by
    decide +kernel
  have hsleep : w.state = .sleep := by decide +kernel
  have hresets : w.poller.resets = 0 := by decide +kernel
  refine ⟨⟨hrest, hcharging, hfourth, ((frozen_run v 500000).1 hrest).2⟩, hawake, haux, hsleep,
    fun n => ?_⟩
  obtain ⟨⟨hstate, hcount⟩, hwoken, -⟩ := (frozen_run w 0).2 hawake haux hsleep n
  rw [hresets, Nat.zero_add] at hcount
  exact ⟨hstate, hwoken, hcount⟩

end VehicleTelemetry.Vehicle
