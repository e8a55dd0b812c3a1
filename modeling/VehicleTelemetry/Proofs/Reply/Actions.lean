import Mathlib.Tactic
import VehicleTelemetry.Proofs.Reply.Lookup

/-!
What the actions of the platform's table do, apart from what they report.

All thirteen are one of two kinds: `recording` takes over whatever it decodes,
`checking` asks the recorder whether the reading is valid. `value_recording`
and `value_checking` say what comes of each, and `value_whileCharging` that
powers are recorded only while the vehicle charges.

`Pid.signals` lists the metrics that a reply can write, `Signal.ofPid` the same by number,
and `Signal.replied` those of all replies.
-/

namespace VehicleTelemetry

namespace ReplyAction

variable {α : Type} (decode : Payload → Except PayloadError α) (time : Nat) (payload : Payload)
  (r : Recorder)

lemma value_recording (record : Recorder → Nat → α → Logged Recorder) :
    (recording decode record time payload r).value =
      match decode payload with
      | .error cause => (r, .error cause)
      | .ok reading => ((record r time reading).value, .ok .applied) := by
  rw [recording]
  cases decode payload <;> rfl

lemma value_checking (record : Recorder → Nat → α → Logged (Recorder × Bool)) (reason : String) :
    (checking decode record reason time payload r).value =
      match decode payload with
      | .error cause => (r, .error cause)
      | .ok reading =>
        let checked := (record r time reading).value
        (checked.1, .ok (if checked.2 then .applied else .gated reason)) := by
  rw [checking]
  cases decode payload <;> rfl

lemma value_whileCharging (record : Recorder → Nat → α → Logged Recorder) (reading : α) :
    (whileCharging record r time reading).value =
      if r.chargingInProgress then ((record r time reading).value, true) else (r, false) := by
  simp [whileCharging]

end ReplyAction

/-- The metrics that a reply for a data identifier can write. -/
def Pid.signals : Pid → List String
  | .batteryVoltageAndCurrent => [Signal.batteryVoltage, Signal.batteryCurrent,
      Signal.batteryPower, Signal.energyUsed, Signal.energyRecovered]
  | .readySignal => [Signal.on, Signal.energyUsed, Signal.energyRecovered]
  | .shiftPosition => [Signal.gear]
  | .chargingLid => [Signal.chargePort]
  | .batterySoc => [Signal.batterySoc]
  | .piswStatus => [Signal.pilot]
  | .charging => [Signal.chargeInProgress, Signal.energyUsed, Signal.energyRecovered,
      Signal.chargeEnergy, Signal.gridEnergy]
  | .batteryChargingPower => [Signal.chargeEnergy]
  | .chargerInputPower => [Signal.chargePower, Signal.gridEnergy]
  | .batteryTemperatures => [Signal.cellTemperatures, Signal.packTemperatureLeast,
      Signal.packTemperatureGreatest, Signal.packTemperatureMean,
      Signal.packTemperatureDeviation, Signal.batteryTemperature]
  | .odometer => [Signal.odometer, Signal.tripStart, Signal.trip]
  | .vehicleSpeed => [Signal.speed]
  | .ambientTemperature => [Signal.outsideTemperature]
  | _ => []

/-- The metrics that a reply for the number of a data identifier can write. -/
def Signal.ofPid (number : UInt16) : List String :=
  ((Pid.ofNumber? number).map Pid.signals).getD []

/-- The metrics that replies can write. -/
def Signal.replied : List String :=
  Pid.all.flatMap Pid.signals

/-- Only the numbers of data identifiers have metrics. -/
lemma Signal.exists_of_mem_ofPid {number : UInt16} {name : String} (h : name ∈ ofPid number) :
    ∃ pid : Pid, number = pid.number ∧ name ∈ pid.signals := by
  rw [ofPid] at h
  cases hpid : Pid.ofNumber? number with
  | none =>
      rw [hpid] at h
      cases h
  | some pid =>
      rw [hpid] at h
      have hnumber : pid.number = number := by simpa using List.find?_some hpid
      exact ⟨pid, hnumber.symm, h⟩

lemma Signal.ofPid_subset (number : UInt16) : ofPid number ⊆ replied := by
  intro name hname
  obtain ⟨pid, -, hmem⟩ := exists_of_mem_ofPid hname
  exact List.mem_flatMap.mpr ⟨pid, Pid.mem_all pid, hmem⟩

lemma Signal.not_mem_ofPid {name : String} (h : name ∉ replied) (number : UInt16) :
    name ∉ ofPid number :=
  fun hmem => h (ofPid_subset number hmem)

end VehicleTelemetry
