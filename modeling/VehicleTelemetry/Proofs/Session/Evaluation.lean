import Mathlib.Tactic
import VehicleTelemetry.Session.Machine

/-!
All that an evaluation of the session machine can do.

* `ChargeState.ofText?_eq_some_iff`, `ChargeState.text_injective`: the state of charging is read
  back from its text;
* `SessionMachine.Evaluates`: the ways through an evaluation, each with the state that it
  starts in, the signals that it takes and what it comes to;
* `evaluates_step`: there are no others. Whatever else is said of an evaluation follows from
  this, by cases on the way.
-/

namespace VehicleTelemetry

namespace ChargeState

lemma ofText?_eq_some_iff {text : String} {state : ChargeState} :
    ofText? text = some state ↔ text = state.text := by
  constructor
  · intro h
    unfold ofText? at h
    split at h <;> cases h <;> rfl
  · rintro rfl
    exact state.ofText?_text

lemma text_injective {state other : ChargeState} (h : state.text = other.text) : state = other := by
  have hstate := state.ofText?_text
  rw [h, other.ofText?_text] at hstate
  exact (Option.some.inj hstate).symm

end ChargeState

namespace SessionMachine

/-- The ways through an evaluation, with what is asked for and the machine afterwards. -/
inductive Evaluates (machine : SessionMachine) (inputs : SessionInputs) :
    List SessionAction × SessionMachine → Prop
  | wake (hstate : machine.state = .sleep) (hawake : inputs.awake = true) :
      Evaluates machine inputs (machine.enter .awake)
  | wakeByVoltage (hstate : machine.state = .sleep) (hsilent : inputs.awake = false)
      (hvoltage : inputs.auxVoltage > machine.threshold inputs) :
      Evaluates machine inputs (.resetBus :: (machine.enter .awake).1, (machine.enter .awake).2)
  | sleepOn (hstate : machine.state = .sleep) (hsilent : inputs.awake = false)
      (hvoltage : ¬ inputs.auxVoltage > machine.threshold inputs) :
      Evaluates machine inputs ([], machine)
  | fallAsleep (hstate : machine.state = .awake) (hsilent : inputs.awake = false) :
      Evaluates machine inputs (machine.enter .sleep)
  | getReady (hstate : machine.state = .awake) (hawake : inputs.awake = true)
      (hon : inputs.vehicleOn = true) : Evaluates machine inputs (machine.enter .ready)
  | openLid (hstate : machine.state = .awake) (hawake : inputs.awake = true)
      (hoff : inputs.vehicleOn = false) (hopen : (inputs.chargePortOpen &&
        ChargeState.ofText? inputs.chargeState != some .done) = true) :
      Evaluates machine inputs (machine.enter .charging)
  | stayAwake (hstate : machine.state = .awake) (hawake : inputs.awake = true)
      (hoff : inputs.vehicleOn = false) (hclosed : (inputs.chargePortOpen &&
        ChargeState.ofText? inputs.chargeState != some .done) = false) :
      Evaluates machine inputs ([], machine)
  | stayReady (hstate : machine.state = .ready) (hon : inputs.vehicleOn = true) :
      Evaluates machine inputs ([], machine)
  | switchOff (hstate : machine.state = .ready) (hoff : inputs.vehicleOn = false) :
      Evaluates machine inputs (machine.enter .awake)
  | plugIn (hstate : machine.state = .charging)
      (htext : inputs.chargeState = ChargeState.doorOpen.text)
      (hpilot : inputs.pilotPresent = true) :
      Evaluates machine inputs ([.setChargeState .connected], machine)
  | stayOpen (hstate : machine.state = .charging)
      (htext : inputs.chargeState = ChargeState.doorOpen.text)
      (hpilot : inputs.pilotPresent = false) (hopen : inputs.chargePortOpen = true) :
      Evaluates machine inputs ([], machine)
  | closeLid (hstate : machine.state = .charging)
      (htext : inputs.chargeState = ChargeState.doorOpen.text)
      (hpilot : inputs.pilotPresent = false) (hclosed : inputs.chargePortOpen = false) :
      Evaluates machine inputs (machine.enter .awake)
  | start (hstate : machine.state = .charging)
      (htext : inputs.chargeState = ChargeState.connected.text)
      (hcharging : inputs.chargingInProgress = true) :
      Evaluates machine inputs
        ([.setChargeState .charging, .requestChargeMode, .requestChargeType], machine)
  | stayConnected (hstate : machine.state = .charging)
      (htext : inputs.chargeState = ChargeState.connected.text)
      (hidle : inputs.chargingInProgress = false) (hpilot : inputs.pilotPresent = true) :
      Evaluates machine inputs ([], machine)
  | unplug (hstate : machine.state = .charging)
      (htext : inputs.chargeState = ChargeState.connected.text)
      (hidle : inputs.chargingInProgress = false) (hpilot : inputs.pilotPresent = false) :
      Evaluates machine inputs ([.setChargeState .doorOpen], machine)
  | chargeOn (hstate : machine.state = .charging)
      (htext : inputs.chargeState = ChargeState.charging.text)
      (hcharging : inputs.chargingInProgress = true) : Evaluates machine inputs ([], machine)
  | stop (hstate : machine.state = .charging)
      (htext : inputs.chargeState = ChargeState.charging.text)
      (hidle : inputs.chargingInProgress = false) :
      Evaluates machine inputs ([.setChargeState .connected], machine)
  | recover (hstate : machine.state = .charging)
      (hother : ∀ state : ChargeState, inputs.chargeState = state.text → state = .done) :
      Evaluates machine inputs ([.setChargeState .doorOpen], machine)

variable (machine : SessionMachine) (inputs : SessionInputs)

/-- Charging, by the state of charging that is published. -/
lemma evaluates_stepCharging (hstate : machine.state = .charging) :
    machine.Evaluates inputs (machine.stepCharging inputs).value := by
  rw [stepCharging]
  -- a text that names no state is mended in the same way as the state done
  cases hshown : ChargeState.ofText? inputs.chargeState with
  | none =>
      refine .recover hstate fun state htext => ?_
      rw [ChargeState.ofText?_eq_some_iff.mpr htext] at hshown
      cases hshown
  | some state =>
      have htext : inputs.chargeState = state.text := ChargeState.ofText?_eq_some_iff.mp hshown
      cases state with
      | doorOpen =>
          simp only [Logged.value_ite]
          split_ifs with hpilot hopen
          · exact .plugIn hstate htext hpilot
          · exact .stayOpen hstate htext (Bool.eq_false_iff.mpr hpilot) hopen
          · exact .closeLid hstate htext (Bool.eq_false_iff.mpr hpilot)
              (Bool.eq_false_iff.mpr hopen)
      | connected =>
          simp only [Logged.value_ite]
          split_ifs with hcharging hpilot
          · exact .start hstate htext hcharging
          · exact .stayConnected hstate htext (Bool.eq_false_iff.mpr hcharging) hpilot
          · exact .unplug hstate htext (Bool.eq_false_iff.mpr hcharging)
              (Bool.eq_false_iff.mpr hpilot)
      | charging =>
          simp only [Logged.value_ite]
          split_ifs with hcharging
          · exact .chargeOn hstate htext hcharging
          · exact .stop hstate htext (Bool.eq_false_iff.mpr hcharging)
      | done =>
          refine .recover hstate fun state hother => ?_
          exact ChargeState.text_injective (hother.symm.trans htext)

/-- Every evaluation goes one of these ways. -/
lemma evaluates_step : machine.Evaluates inputs (machine.step inputs).value := by
  rw [step]
  -- the guards are tried in turn, so that each way has those before it refused
  cases hstate : machine.state with
  | sleep =>
      simp only [Logged.value_ite]
      split_ifs with hawake hvoltage
      · exact .wake hstate hawake
      · exact .wakeByVoltage hstate (Bool.eq_false_iff.mpr hawake) hvoltage
      · exact .sleepOn hstate (Bool.eq_false_iff.mpr hawake) hvoltage
  | awake =>
      simp only [Logged.value_ite]
      split_ifs with hsilent hon hopen
      · exact .fallAsleep hstate (by simpa using hsilent)
      · exact .getReady hstate (by simpa using hsilent) hon
      · exact .openLid hstate (by simpa using hsilent) (Bool.eq_false_iff.mpr hon) hopen
      · exact .stayAwake hstate (by simpa using hsilent) (Bool.eq_false_iff.mpr hon)
          (Bool.eq_false_iff.mpr hopen)
  | ready =>
      simp only [Logged.value_ite]
      split_ifs with hon
      · exact .stayReady hstate hon
      · exact .switchOff hstate (Bool.eq_false_iff.mpr hon)
  | charging => exact machine.evaluates_stepCharging inputs hstate

end SessionMachine

end VehicleTelemetry
