import Mathlib.Tactic
import VehicleTelemetry.Proofs.Recorder.Energy
import VehicleTelemetry.Proofs.Recorder.Trip
import VehicleTelemetry.Proofs.Reply.Effect

/-!
What a reply reports to begin does begin with it.

A trip or a charge whose energy is counted anew leaves no trace in the recorder if nothing
has been counted, nor does a baseline that is set again to the same distance. The reports
tell: there is one of its own for each beginning, and it is made only when the metric that
it goes by changes.

* `Recorder.Begins`: how a recorder changes when an event is reported;
* `begins_dispatch`: so it does for everything that a reply reports.
-/

namespace VehicleTelemetry

/-- The reports of a beginning. -/
def Event.isBeginning : Event → Bool
  | .tripEnergyReset | .chargeEnergyReset | .tripStart _ => true
  | _ => false

namespace Recorder

/-- A recorder changes as an event tells that is reported meanwhile: ready or charging
comes on, or the baseline of the trip has been stale and is not any more. -/
def Begins (before : Recorder) (now : Nat) (after : Recorder) : Event → Prop
  | .tripEnergyReset => before.store.rises Signal.on after.store = true
  | .chargeEnergyReset => before.store.rises Signal.chargeInProgress after.store = true
  | .tripStart _ => before.store.isStale now Signal.tripStart = true ∧
      after.store.isStale now Signal.tripStart = false
  | _ => True

variable {r : Recorder} {now : Nat}

/-- Nothing begins in a recorder that stays as it is. -/
lemma Begins.isBeginning_eq_false {event : Event} (h : r.Begins now r event) :
    event.isBeginning = false := by
  cases event with
  | tripEnergyReset | chargeEnergyReset =>
      rw [Begins, MetricStore.rises_eq_false id] at h
      cases h
  | tripStart distance =>
      obtain ⟨hstale, hfresh⟩ := h
      rw [hstale] at hfresh
      cases hfresh
  | _ => rfl

/-- Where no beginning is reported there is nothing to show. -/
lemma begins_of_any_eq_false {events : List Event} (h : events.any Event.isBeginning = false)
    (after : Recorder) : ∀ event ∈ events, r.Begins now after event := by
  intro event hmem
  have hplain := List.any_eq_false.mp h event hmem
  cases event <;> trivial

variable (r now)

lemma begins_setReady (ready : Bool) :
    ∀ event ∈ (r.setReady now ready).events, r.Begins now (r.setReady now ready).value event := by
  cases hedge : ready && !r.store.bool Signal.on with
  | false =>
      refine begins_of_any_eq_false ?_ _
      simp only [setReady, hedge]
      rfl
  | true =>
      obtain ⟨rfl, hbefore⟩ := Bool.and_eq_true_iff.mp hedge
      have hevents : (r.setReady now true).events = [.readyStatus true, .tripEnergyReset] := by
        simp only [setReady, hedge]
        rfl
      have hrises : r.store.rises Signal.on (r.setReady now true).value.store = true := by
        rw [MetricStore.rises, bool_setReady, hbefore]
        rfl
      rw [hevents]
      exact List.forall_mem_cons.mpr ⟨trivial, List.forall_mem_singleton.mpr hrises⟩

lemma begins_setChargingStatus (charging : Bool) :
    ∀ event ∈ (r.setChargingStatus now charging).events,
      r.Begins now (r.setChargingStatus now charging).value event := by
  cases hedge : charging && !r.store.bool Signal.chargeInProgress with
  | false =>
      refine begins_of_any_eq_false ?_ _
      simp only [setChargingStatus, hedge]
      rfl
  | true =>
      obtain ⟨rfl, hbefore⟩ := Bool.and_eq_true_iff.mp hedge
      have hevents : (r.setChargingStatus now true).events =
          [.chargingStatus true, .chargeEnergyReset] := by
        simp only [setChargingStatus, hedge]
        rfl
      have hrises : r.store.rises Signal.chargeInProgress
          (r.setChargingStatus now true).value.store = true := by
        rw [MetricStore.rises, bool_setChargingStatus, hbefore]
        rfl
      rw [hevents]
      exact List.forall_mem_cons.mpr ⟨trivial, List.forall_mem_singleton.mpr hrises⟩

lemma begins_setOdometer (reading : Float) :
    ∀ event ∈ (r.setOdometer now reading).events,
      r.Begins now (r.setOdometer now reading).value event := by
  have hput : MetricStore.ChangesOnly [Signal.odometer] r.store
      (r.put now Signal.odometer (.float reading)).store := .set (by simp) _ _ _
  have hsame := hput.isStale_eq (by decide : Signal.tripStart ∉ [Signal.odometer]) now
  cases hstale : r.store.isStale now Signal.tripStart with
  | false =>
      refine begins_of_any_eq_false ?_ _
      simp only [setOdometer, hsame, hstale]
      rfl
  | true =>
      have hevents : (r.setOdometer now reading).events =
          [.odometer reading, .tripStart reading] := by
        simp only [setOdometer, hsame, hstale]
        rfl
      have hfresh :
          (r.setOdometer now reading).value.store.isStale now Signal.tripStart = false := by
        rw [MetricStore.isStale, entry_tripStart_setOdometer, if_pos hstale, MetricEntry.write]
        cases (r.store.entry Signal.tripStart).lifetime <;> simp
      rw [hevents]
      exact List.forall_mem_cons.mpr ⟨trivial, List.forall_mem_singleton.mpr ⟨hstale, hfresh⟩⟩

end Recorder

namespace ReplyAction

open Recorder (begins_of_any_eq_false)

variable {α : Type} {decode : Payload → Except PayloadError α} {r : Recorder} {now : Nat}
  {data : Payload}

lemma begins_recording {record : Recorder → Nat → α → Logged Recorder}
    (hrecord : ∀ reading, ∀ event ∈ (record r now reading).events,
      r.Begins now (record r now reading).value event) :
    ∀ event ∈ (recording decode record now data r).events,
      r.Begins now (recording decode record now data r).value.1 event := by
  rw [recording]
  cases decode data with
  | error cause => exact List.forall_mem_nil _
  | ok reading => simpa using hrecord reading

lemma begins_checking {record : Recorder → Nat → α → Logged (Recorder × Bool)} {reason : String}
    (hrecord : ∀ reading, ∀ event ∈ (record r now reading).events,
      r.Begins now (record r now reading).value.1 event) :
    ∀ event ∈ (checking decode record reason now data r).events,
      r.Begins now (checking decode record reason now data r).value.1 event := by
  rw [checking]
  cases decode data with
  | error cause => exact List.forall_mem_nil _
  | ok reading => simpa using hrecord reading

end ReplyAction

open Recorder ReplyAction in
/-- Every action of the platform reports a beginning only when there is one. -/
lemma PlatformReply.begins {ecu : Ecu} {pid : Pid} {action : DecodeAction Recorder}
    (h : PlatformReply ecu pid action) (r : Recorder) (now : Nat) (data : Payload) :
    ∀ event ∈ (action now data r).events, r.Begins now (action now data r).value.1 event := by
  cases h with
  | ready => exact begins_recording fun ready => r.begins_setReady now ready
  | charging => exact begins_recording fun charging => r.begins_setChargingStatus now charging
  | odometer => exact begins_recording fun reading => r.begins_setOdometer now reading
  | packReading | shiftPosition | chargingLid | pilot | batteryTemperatures | vehicleSpeed =>
      exact begins_recording fun reading => begins_of_any_eq_false rfl _
  | batterySoc =>
      refine begins_checking fun soc => begins_of_any_eq_false ?_ _
      rw [setBatterySoc]
      split <;> rfl
  | ambientTemperature =>
      refine begins_checking fun temperature => begins_of_any_eq_false ?_ _
      rw [setAmbientTemperature]
      split <;> rfl
  | batteryChargingPower | chargerInputPower =>
      refine begins_checking fun power => begins_of_any_eq_false ?_ _
      rw [whileCharging]
      split <;> rfl

open Recorder in
/-- So does the whole table. -/
lemma begins_dispatch (reply : Reply) (r : Recorder) :
    ∀ event ∈ (platformTable.dispatch reply r).events,
      r.Begins reply.time (platformTable.dispatch reply r).value.1 event := by
  rw [ReplyTable.dispatch]
  cases hhandler : platformTable.handlers[reply.sender]? with
  | none => exact begins_of_any_eq_false rfl _
  | some handler =>
      dsimp only
      cases haction : handler.actions[reply.pid]? with
      | none => exact begins_of_any_eq_false rfl _
      | some action =>
          have hfound : platformTable.action? reply.sender reply.pid = some action := by
            rw [ReplyTable.action?, hhandler, Option.bind_some, haction]
          obtain ⟨ecu, pid, -, -, hreply⟩ := action?_platformTable hfound
          have hbegins := hreply.begins r reply.time reply.payload
          simp only [Logged.events_bind, Logged.value_bind]
          generalize (action reply.time reply.payload r).value = result at hbegins
          -- what the table reports itself is no beginning
          rcases result with ⟨after, cause | ⟨_ | reason⟩⟩ <;>
            exact List.forall_mem_append.mpr ⟨hbegins, begins_of_any_eq_false rfl _⟩

end VehicleTelemetry
