import Mathlib.Tactic
import VehicleTelemetry.Proofs.Recorder.Trip
import VehicleTelemetry.Proofs.Vehicle.Reports

/-!
The distance of a trip over whole runs.

* `Vehicle.GetsReady`, `Vehicle.odometerReading?`: the two things that matter to a
  trip, and `Vehicle.tripReadings` what they come to in a run: the odometer
  readings since the vehicle last got ready;
* `Travels`: what a step does to the three metrics of a trip, and `travels` that it does
  nothing else;
* `baseline_run`: after every run the baseline is the first of these readings, and
  `trip_step` what the next step makes of it;
* `run_trip`: the theorem for all steps of all runs of a new vehicle.
-/

namespace VehicleTelemetry

/-- The metrics of a trip: its baseline, the distance driven in all, and that since
the baseline. -/
def Signal.tripMetrics : List String :=
  [tripStart, odometer, trip]

/-- A reply that carries an odometer reading, if it can be decoded. -/
def Reply.IsOdometer (reply : Reply) : Prop :=
  reply.sender = Ecu.powertrain.responseId ∧ reply.pid = Pid.odometer.number

instance (reply : Reply) : Decidable reply.IsOdometer :=
  inferInstanceAs (Decidable (_ ∧ _))

namespace Reply

variable {reply : Reply} {r : Recorder}

/-- An odometer reply that is applied has been decoded and recorded. -/
lemma IsOdometer.exists_of_applied (h : reply.IsOdometer)
    (happlied : (platformTable.dispatch reply r).value.2 = .applied) :
    ∃ reading, Decode.odometer reply.payload = .ok reading ∧
      (platformTable.dispatch reply r).value.1 = (r.setOdometer reply.time reading).value := by
  obtain ⟨ecu, pid, action, hreply, -, hnumber, haction, hresult⟩ :=
    exists_of_dispatch_applied happlied
  obtain rfl : pid = .odometer := Pid.number_injective (hnumber.symm.trans h.2)
  cases hreply with
  | odometer =>
      obtain ⟨reading, hdecode, hrecorded⟩ := ReplyAction.exists_of_recording_applied haction
      exact ⟨reading, hdecode, hresult.trans hrecorded⟩

/-- No other reply writes the metrics of a trip. -/
lemma entry_of_not_isOdometer (h : ¬ reply.IsOdometer)
    (happlied : (platformTable.dispatch reply r).value.2 = .applied) {name : String}
    (hname : name ∈ Signal.tripMetrics) :
    (platformTable.dispatch reply r).value.1.store.entry name = r.store.entry name := by
  obtain ⟨ecu, pid, action, hreply, hsender, hnumber, -, hresult⟩ :=
    exists_of_dispatch_applied happlied
  have hother : pid ≠ .odometer := by
    rintro rfl
    cases hreply with
    | odometer => exact h ⟨hsender, hnumber⟩
  have hsignals : ∀ known ∈ Pid.all, known ≠ .odometer →
      ∀ metric ∈ Signal.tripMetrics, metric ∉ known.signals := by decide
  rw [hresult]
  exact hreply.changesOnly reply.time reply.payload r name
    (hsignals pid pid.mem_all hother name hname)

end Reply

namespace Vehicle

variable {ρ : Type} [Responder ρ] (v : Vehicle ρ)

/-! ### What matters to a trip -/

/-- The session enters readiness. -/
def GetsReady (s : Step ρ) : Prop :=
  v.state ≠ .ready ∧ (v.step s).1.state = .ready

instance (s : Step ρ) : Decidable (v.GetsReady s) :=
  inferInstanceAs (Decidable (_ ∧ _))

/-- The odometer reading that a step completes and applies. -/
def odometerReading? (s : Step ρ) : Option Float :=
  (v.appliedReply? s).bind fun reply =>
    if reply.IsOdometer then (Decode.odometer reply.payload).toOption else none

/-- The odometer readings of the trip after a step. Getting ready begins a new trip. -/
def nextReadings (readings : List Float) (s : Step ρ) : List Float :=
  if v.GetsReady s then [] else readings ++ (v.odometerReading? s).toList

/-- The odometer readings of the trip after some steps, if there have been `readings`
before them. -/
def tripReadingsFrom (v : Vehicle ρ) (readings : List Float) : List (Step ρ) → List Float
  | [] => readings
  | s :: rest => (v.step s).1.tripReadingsFrom (v.nextReadings readings s) rest

/-- The odometer readings that a run has applied since the vehicle last got ready, or
since the run began. -/
def tripReadings (steps : List (Step ρ)) : List Float :=
  v.tripReadingsFrom [] steps

lemma tripReadingsFrom_concat (readings : List Float) (before : List (Step ρ)) (s : Step ρ) :
    v.tripReadingsFrom readings (before ++ [s]) =
      (v.run before).nextReadings (v.tripReadingsFrom readings before) s := by
  induction before generalizing v readings with
  | nil => rfl
  | cons first rest ih => exact ih (v.step first).1 (v.nextReadings readings first)

lemma tripReadings_concat (before : List (Step ρ)) (s : Step ρ) :
    v.tripReadings (before ++ [s]) = (v.run before).nextReadings (v.tripReadings before) s :=
  v.tripReadingsFrom_concat [] before s

/-! ### What a step does to a trip -/

/-- What a step does to the metrics of a trip. -/
inductive Travels (s : Step ρ) : Prop
  | reading {reply : Reply} {x : Float} (hready : ¬ v.GetsReady s)
      (happlied : v.appliedReply? s = some reply) (hodometer : reply.IsOdometer)
      (hdecode : Decode.odometer reply.payload = .ok x)
      (hstore : (v.step s).1.store = (v.recorder.setOdometer s.time x).value.store)
  | ready (hready : v.GetsReady s) (hnone : v.appliedReply? s = none)
      (hentry : (v.step s).1.store.entry Signal.tripStart =
        (v.store.entry Signal.tripStart).markStale)
      (hvalue : ∀ name ∈ Signal.tripMetrics, (v.step s).1.store.value? name = v.store.value? name)
  | rest (hready : ¬ v.GetsReady s)
      (hother : ∀ reply, v.appliedReply? s = some reply → ¬ reply.IsOdometer)
      (hentry : ∀ name ∈ Signal.tripMetrics,
        (v.step s).1.store.entry name = v.store.entry name)

lemma not_getsReady {s : Step ρ} (h : s.operation ≠ .tick) : ¬ v.GetsReady s := by
  rintro ⟨hbefore, hafter⟩
  rw [state, v.machine_step h] at hafter
  exact hbefore hafter

/-- Of all the actions that the session machine asks for, one marks the baseline. -/
lemma entry_tripStart_performAll (now : Nat) (actions : List SessionAction) :
    (v.performAll now actions).store.entry Signal.tripStart =
      if .markTripStart ∈ actions then (v.store.entry Signal.tripStart).markStale
      else v.store.entry Signal.tripStart := by
  induction actions generalizing v with
  | nil => rfl
  | cons action rest ih =>
      rw [performAll_cons, ih]
      -- to mark twice is to mark once, and no other action touches the entry
      by_cases haction : action = .markTripStart
      · have hmark : (v.perform now action).value.store.entry Signal.tripStart =
            (v.store.entry Signal.tripStart).markStale := by
          rw [haction]
          exact MetricStore.entry_mark_self _ _
        have hmem : .markTripStart ∈ action :: rest := haction ▸ List.mem_cons_self
        simp only [hmark, hmem, if_true]
        split <;> rfl
      · have hsignals : Signal.tripStart ∉ action.signals := by
          cases action with
          | markTripStart => exact absurd rfl haction
          | _ => simp only [SessionAction.signals]; decide
        have hframe := (v.performFrame_perform now action).changesOnly Signal.tripStart hsignals
        simp only [hframe, List.mem_cons, Ne.symm haction, false_or]

/-- A tick in which the vehicle gets ready marks the baseline, and no other tick
touches the trip. -/
lemma travels_tick (now : Nat) : v.Travels ⟨now, .tick⟩ := by
  have hnone : v.appliedReply? ⟨now, .tick⟩ = none := rfl
  have hentry : (v.step ⟨now, .tick⟩).1.store.entry Signal.tripStart =
      if v.GetsReady ⟨now, .tick⟩ then (v.store.entry Signal.tripStart).markStale
      else v.store.entry Signal.tripStart := by
    have hreconcile : (v.decided now).store.entry Signal.tripStart =
        v.store.entry Signal.tripStart :=
      v.recorder.changesOnly_reconcile now Signal.tripStart (by decide)
    have hmachine : (v.step ⟨now, .tick⟩).1.machine = (v.decision now).2 := v.machine_tick now
    have hmark : .markTripStart ∈ (v.decision now).1 ↔ v.GetsReady ⟨now, .tick⟩ := by
      rw [GetsReady, state, state, hmachine]
      exact v.machine.markTripStart_mem_iff _
    show (v.tick now).value.store.entry _ = _
    rw [value_tick, entry_tripStart_performAll, hreconcile]
    simp only [hmark]
  have hothers : ∀ name ∈ Signal.tripMetrics, name ≠ Signal.tripStart →
      (v.step ⟨now, .tick⟩).1.store.entry name = v.store.entry name := by
    intro name hname hne
    refine v.changesOnly_tick now name ?_
    revert name
    decide
  by_cases hready : v.GetsReady ⟨now, .tick⟩
  · rw [if_pos hready] at hentry
    refine .ready hready hnone hentry fun name hname => ?_
    by_cases hstart : name = Signal.tripStart
    · rw [hstart, MetricStore.value?, hentry]
      rfl
    · exact MetricStore.value?_congr (hothers name hname hstart)
  · rw [if_neg hready] at hentry
    refine .rest hready (by simp [hnone]) fun name hname => ?_
    by_cases hstart : name = Signal.tripStart
    · rw [hstart, hentry]
    · exact hothers name hname hstart

/-- A part of a response applies an odometer reading, or does not touch the trip. -/
lemma travels_chunk {s : Step ρ} {part : Chunk} (hpart : s.operation = .chunk part) :
    v.Travels s := by
  have hready : ¬ v.GetsReady s := v.not_getsReady (by simp [hpart])
  obtain ⟨hnone, hstore⟩ | ⟨reply, hsome, htime, happlied, hstore⟩ := v.step_of_chunk hpart
  · exact .rest hready (by simp [hnone]) fun name _ => by rw [hstore]
  · by_cases hodometer : reply.IsOdometer
    · obtain ⟨x, hdecode, hrecorded⟩ := hodometer.exists_of_applied happlied
      refine .reading hready hsome hodometer hdecode ?_
      rw [hstore, hrecorded, htime]
    · refine .rest hready ?_ fun name hname => ?_
      · intro other hother
        obtain rfl := Option.some.inj (hsome.symm.trans hother)
        exact hodometer
      · rw [hstore]
        exact reply.entry_of_not_isOdometer hodometer happlied hname

/-- A step in which the host leaves the metrics of a trip alone does nothing else to
them. -/
lemma travels {s : Step ρ} (hleaves : s.Leaves Signal.tripMetrics) : v.Travels s := by
  by_cases hchunk : ∃ part, s.operation = .chunk part
  · obtain ⟨part, hpart⟩ := hchunk
    exact v.travels_chunk hpart
  by_cases htick : s.operation = .tick
  · obtain ⟨now, operation⟩ := s
    obtain rfl : operation = .tick := htick
    exact v.travels_tick now
  have hnone := v.appliedReply?_of_not_chunk fun part hpart => hchunk ⟨part, hpart⟩
  have hmetrics : ∀ name ∈ Signal.tripMetrics, name ∉ Signal.answered ∧ name ≠ Signal.awake := by
    decide
  refine .rest (v.not_getsReady htick) (by simp [hnone]) fun name hname => ?_
  obtain ⟨hanswered, hawake⟩ := hmetrics name hname
  exact v.changesOnly_step s name (Operation.not_mem_signals hanswered (fun _ => hawake)
    (fun part hpart => absurd ⟨part, hpart⟩ hchunk) (fun h => absurd h htick)
    fun htouched => hleaves name htouched hname)

/-! ### Runs -/

/-- After every run the baseline is the first of the readings since the vehicle last got
ready. -/
lemma baseline_run {v : Vehicle ρ} (hv : (v.store.entry Signal.tripStart).Baseline [])
    {steps : List (Step ρ)} (hleaves : ∀ s ∈ steps, s.Leaves Signal.tripMetrics) :
    ((v.run steps).store.entry Signal.tripStart).Baseline (v.tripReadings steps) := by
  induction steps using List.reverseRecOn with
  | nil => exact hv
  | append_singleton before s ih =>
      have hbefore := ih fun t ht => hleaves t (List.mem_append_left _ ht)
      rw [run_append, tripReadings_concat, nextReadings, odometerReading?]
      show (((v.run before).step s).1.store.entry _).Baseline _
      -- an odometer reply adds its reading, getting ready drops all there are, nothing else counts
      cases (v.run before).travels (hleaves s (by simp)) with
      | reading hready happlied hodometer hdecode hstore =>
          rw [if_neg hready, happlied, Option.bind_some, if_pos hodometer, hdecode, hstore]
          exact (hbefore.setOdometer s.time _).1
      | ready hready hnone hentry hvalue =>
          rw [if_pos hready, hentry]
          exact hbefore.mark
      | rest hready hother hentry =>
          have hnone : ((v.run before).appliedReply? s).bind (fun reply =>
              if reply.IsOdometer then (Decode.odometer reply.payload).toOption else none) =
              none := by
            rw [Option.bind_eq_none_iff]
            exact fun reply hreply => if_neg (hother reply hreply)
          rw [if_neg hready, hnone, hentry _ (.head _)]
          simpa using hbefore

/-- What a step that comes after some readings makes of a trip. -/
lemma trip_step {u : Vehicle ρ} {readings : List Float}
    (hu : (u.store.entry Signal.tripStart).Baseline readings) {s : Step ρ}
    (hleaves : s.Leaves Signal.tripMetrics) :
    let w := (u.step s).1
    (∀ reply, u.appliedReply? s = some reply → reply.IsOdometer →
      ∃ first reading, Decode.odometer reply.payload = .ok reading ∧
        (u.nextReadings readings s).head? = some first ∧
        w.store.value? Signal.tripStart = some (.float first) ∧
        w.store.value? Signal.odometer = some (.float reading) ∧
        w.store.value? Signal.trip = some (.float (reading - first)) ∧
        (readings = [] → first = reading ∧ reading - first = 0.0)) ∧
    ((∀ reply, u.appliedReply? s = some reply → ¬ reply.IsOdometer) →
      ∀ name ∈ Signal.tripMetrics, w.store.value? name = u.store.value? name) ∧
    ∀ now later, u.store.isStale now Signal.tripStart = false →
      (w.store.isStale later Signal.tripStart = true ↔ u.GetsReady s) := by
  intro w
  -- the three ways exclude each other, so each of them voids the parts that are about the others
  cases u.travels hleaves with
  | @reading reply x hready happlied hodometer hdecode hstore =>
      have hnext : u.nextReadings readings s = readings ++ [x] := by
        rw [nextReadings, if_neg hready, odometerReading?, happlied, Option.bind_some,
          if_pos hodometer, hdecode]
        rfl
      obtain ⟨hbaseline, first, hfirst, hstart, hreading, htrip⟩ := hu.setOdometer s.time x
      rw [← hstore] at hbaseline hstart hreading htrip
      refine ⟨fun other hother _ => ?_, fun hnone => absurd hodometer (hnone reply happlied),
        fun now later _ => ?_⟩
      · obtain rfl := Option.some.inj (happlied.symm.trans hother)
        refine ⟨first, x, hdecode, hnext ▸ hfirst, hstart, hreading, htrip, ?_⟩
        rintro rfl
        obtain rfl : x = first := Option.some.inj hfirst
        exact ⟨rfl, Decode.odometer_sub_self hdecode⟩
      · rw [hbaseline.isStale later]
        simp [hready]
  | ready hready hnone hentry hvalue =>
      refine ⟨fun reply hreply => (nomatch hnone.symm.trans hreply), fun _ => hvalue,
        fun now later _ => ?_⟩
      have hmarked : (w.store.entry Signal.tripStart).Baseline [] := by
        rw [hentry]
        exact hu.mark
      rw [hmarked.isStale later]
      simp [hready]
  | rest hready hother hentry =>
      have hsame : w.store.entry Signal.tripStart = u.store.entry Signal.tripStart :=
        hentry _ (.head _)
      refine ⟨fun reply hreply hodometer => absurd hodometer (hother reply hreply),
        fun _ name hname => MetricStore.value?_congr (hentry name hname),
        fun now later hfresh => ?_⟩
      have hafter : (w.store.entry Signal.tripStart).Baseline readings := hsame ▸ hu
      rw [hafter.isStale later, ← hu.isStale now, hfresh]
      simp [hready]

/-- **A trip is counted from the first reading after the vehicle got ready.** In every run
of a new vehicle, on a store without a baseline and with a host that leaves the
metrics of the trip alone:

* after a step that applies an odometer reading the baseline is the first reading
  since the session last got ready, and the trip is the difference of the two, which
  is zero for the reading that is this baseline;
* no other step changes the value of one of the three metrics;
* a baseline that counts becomes stale in a step in which the session gets ready, and
  in no other one. -/
theorem run_trip (config : VehicleConfig) {store : MetricStore} (poller : Poller ρ) (start : Nat)
    {steps : List (Step ρ)} (hstore : store.entry Signal.tripStart = {})
    (hleaves : ∀ s ∈ steps, s.Leaves [Signal.tripStart, Signal.odometer, Signal.trip]) :
    let v := (create config store poller start).value
    ∀ before s after, steps = before ++ s :: after →
      let u := v.run before
      let w := (u.step s).1
      (∀ reply, u.appliedReply? s = some reply → reply.IsOdometer →
        ∃ first reading, Decode.odometer reply.payload = .ok reading ∧
          (v.tripReadings (before ++ [s])).head? = some first ∧
          w.store.value? Signal.tripStart = some (.float first) ∧
          w.store.value? Signal.odometer = some (.float reading) ∧
          w.store.value? Signal.trip = some (.float (reading - first)) ∧
          (v.tripReadings before = [] → first = reading ∧ reading - first = 0.0)) ∧
      ((∀ reply, u.appliedReply? s = some reply → ¬ reply.IsOdometer) →
        ∀ name ∈ [Signal.tripStart, Signal.odometer, Signal.trip],
          w.store.value? name = u.store.value? name) ∧
      ∀ now later, u.store.isStale now Signal.tripStart = false →
        (w.store.isStale later Signal.tripStart = true ↔ u.GetsReady s) := by
  rintro v before s after rfl
  have hcreated : (v.store.entry Signal.tripStart).Baseline [] := by
    have hnew : v.store.entry Signal.tripStart = store.entry Signal.tripStart :=
      changesOnly_create config store poller start _ (by decide)
    rw [hnew, hstore]
    exact .of_new
  have hbefore := baseline_run hcreated fun t ht => hleaves t (List.mem_append_left _ ht)
  rw [tripReadings_concat]
  exact trip_step hbefore (hleaves s (by simp))

/-- A reading that comes in two parts before the vehicle gets ready, two readings of
the drive, and one of a second drive after a second drive without any. -/
theorem run_trip_two_drives :
    let part (ecu : Ecu) (pid : Pid) (first : Bool) (bytes : List UInt8) (remaining : UInt16) :
        Operation Script :=
      .chunk { sender := ecu.responseId, pid := pid.number, first, bytes, remaining }
    let ready (b : UInt8) := part .hybridControl .readySignal true [0, b] 0
    let reading (b : UInt8) := part .powertrain .odometer true [0, 0, 0x10, b] 0
    let before : List (Step Script) := [⟨1000, .frame⟩, ⟨1000, .tick⟩,
      ⟨1100, part .powertrain .odometer true [0, 0] 2⟩,
      ⟨1200, part .powertrain .odometer false [0x10, 0x01] 0⟩,
      ⟨1500, ready 1⟩, ⟨2000, .tick⟩, ⟨2500, reading 0x0a⟩, ⟨3500, reading 0x14⟩,
      ⟨4000, ready 0⟩, ⟨4000, .tick⟩, ⟨4500, ready 1⟩, ⟨5000, .tick⟩, ⟨5500, ready 0⟩,
      ⟨6000, .tick⟩, ⟨6500, ready 1⟩, ⟨7000, .tick⟩, ⟨7500, reading 0x28⟩]
    let last : Step Script := ⟨8500, reading 0x3c⟩
    let w := bench.run (before ++ [last])
    MetricStore.withLifetimes.entry Signal.tripStart = {} ∧
      (∀ s ∈ before ++ [last],
        s.Leaves [Signal.tripStart, Signal.odometer, Signal.trip]) ∧
      bench.tripReadings (before ++ [last]) = [413.6, 415.6] ∧
      w.store.value? Signal.tripStart = some (.float 413.6) ∧
      w.store.value? Signal.odometer = some (.float 415.6) ∧
      w.store.value? Signal.trip = some (.float (415.6 - 413.6)) := by
  intro part ready reading before last
  have hstore : MetricStore.withLifetimes.entry Signal.tripStart = {} := by decide +kernel
  have hleaves : ∀ s ∈ before ++ [last],
      s.Leaves [Signal.tripStart, Signal.odometer, Signal.trip] := by
    simp [before, last, ready, reading, part, Step.Leaves, Operation.touched]
  have hreadings : bench.tripReadings (before ++ [last]) = [413.6, 415.6] := by decide +kernel
  have happlied : ∃ reply, (bench.run before).appliedReply? last = some reply ∧
      reply.IsOdometer ∧ Decode.odometer reply.payload = .ok 415.6 :=
    ⟨⟨Ecu.powertrain.responseId, Pid.odometer.number, [0, 0, 0x10, 0x3c], 8500⟩,
      by decide +kernel, by decide, by decide +kernel⟩
  -- what is left does not depend on the steps, and must not evaluate the run again
  clear_value before last
  intro w
  have h := run_trip VehicleConfig.bench ScriptedPoller.empty 0 hstore hleaves
  have hbench : bench =
      (create VehicleConfig.bench MetricStore.withLifetimes ScriptedPoller.empty 0).value := rfl
  simp only [← hbench] at h
  obtain ⟨reply, hreply, hodometer, hdecode⟩ := happlied
  obtain ⟨hreading, -, -⟩ := h before last [] rfl
  obtain ⟨first, x, hx, hfirst, hstart, hshown, htrip, -⟩ := hreading reply hreply hodometer
  obtain rfl : 415.6 = x := Except.ok.inj (hdecode.symm.trans hx)
  obtain rfl : 413.6 = first := by
    rw [hreadings] at hfirst
    exact Option.some.inj hfirst
  have hw : w = ((bench.run before).step last).1 := run_append bench before [last]
  rw [hw]
  exact ⟨hstore, hleaves, hreadings, hstart, hshown, htrip⟩

end Vehicle

end VehicleTelemetry
