import Mathlib.Tactic
import VehicleTelemetry.Proofs.Recorder.Tracking
import VehicleTelemetry.Proofs.Reply.Report
import VehicleTelemetry.Proofs.Vehicle.Frame

/-!
The signals that a tick acts on are the last reports, within their lifetimes.

* `frameTimes`, `Vehicle.appliedReplies`, `Vehicle.lastReply?`: what has been
  reported in a run: frames of the bus, and replies that have been applied;
* `Hears`: the three things that a step can do to a signal that is switched off
  when it is stale, `hears_awake` and `hears_reported` that there are no others;
* `tracks_run`: over a run with a clock that goes forward the entry of such a
  signal tracks the last report;
* `inputs_run`: the theorem for all ticks of all runs of a new vehicle.
-/

namespace VehicleTelemetry

variable {ρ : Type}

/-- The known signals have their lifetimes in a store. -/
def MetricStore.HasLifetimes (store : MetricStore) : Prop :=
  ∀ p ∈ Signal.lifetimes, (store.entry p.1).lifetime = some p.2

instance (store : MetricStore) : Decidable store.HasLifetimes :=
  inferInstanceAs (Decidable (∀ p ∈ Signal.lifetimes, (store.entry p.1).lifetime = some p.2))

/-! ### Reports -/

/-- When the bus has shown frames. -/
def frameTimes (steps : List (Step ρ)) : List Nat :=
  steps.filterMap fun s =>
    match s.operation with
    | .frame => some s.time
    | _ => none

lemma getLast?_frameTimes_concat (before : List (Step ρ)) (s : Step ρ) :
    (frameTimes (before ++ [s])).getLast? =
      (frameTimes [s]).getLast?.or (frameTimes before).getLast? := by
  rw [frameTimes, List.filterMap_append, List.getLast?_append]
  rfl

/-- When a reply came, if it has a signal on. -/
def Reply.onSince? (decode : Payload → Except PayloadError Bool) (reply : Reply) : Option Nat :=
  match decode reply.payload with
  | .ok true => some reply.time
  | _ => none

namespace Reply

variable {decode : Payload → Except PayloadError Bool} {reply : Reply}

lemma onSince?_of_ok {b : Bool} (h : decode reply.payload = .ok b) :
    reply.onSince? decode = if b then some reply.time else none := by
  rw [onSince?, h]
  cases b <;> rfl

lemma onSince?_eq_some_iff {t : Nat} :
    reply.onSince? decode = some t ↔ decode reply.payload = .ok true ∧ reply.time = t := by
  cases hdecode : decode reply.payload with
  | error cause => simp [onSince?, hdecode]
  | ok b => cases b <;> simp [onSince?, hdecode]

end Reply

namespace Vehicle

open MetricStore (ChangesOnly)

variable [Responder ρ] (v : Vehicle ρ)

/-- The reply that a step completes and applies. -/
def appliedReply? (s : Step ρ) : Option Reply :=
  match s.operation with
  | .chunk part =>
    match (v.reassembly.receive part).value.2, (v.step s).2 with
    | some payload, some .applied =>
      some { sender := part.sender, pid := part.pid, payload, time := s.time }
    | _, _ => none
  | _ => none

/-- The replies that a run applies, in order. -/
def appliedReplies (v : Vehicle ρ) : List (Step ρ) → List Reply
  | [] => []
  | s :: rest => (v.appliedReply? s).toList ++ (v.step s).1.appliedReplies rest

/-- The last reply for a data identifier that a run applies. -/
def lastReply? (pid : Pid) (steps : List (Step ρ)) : Option Reply :=
  ((v.appliedReplies steps).filter (·.pid == pid.number)).getLast?

lemma appliedReplies_concat (before : List (Step ρ)) (s : Step ρ) :
    v.appliedReplies (before ++ [s]) =
      v.appliedReplies before ++ ((v.run before).appliedReply? s).toList := by
  induction before generalizing v with
  | nil => exact List.append_nil _
  | cons first rest ih =>
      rw [List.cons_append, appliedReplies, ih, appliedReplies, run_cons, List.append_assoc]

lemma lastReply?_concat_of_eq {pid : Pid} {before : List (Step ρ)} {s : Step ρ} {reply : Reply}
    (h : (v.run before).appliedReply? s = some reply) (hpid : reply.pid = pid.number) :
    v.lastReply? pid (before ++ [s]) = some reply := by
  have hreply : [reply].filter (·.pid == pid.number) = [reply] := by simp [hpid]
  rw [lastReply?, appliedReplies_concat, h, Option.toList_some, List.filter_append, hreply,
    List.getLast?_concat]

lemma lastReply?_concat_of_ne {pid : Pid} {before : List (Step ρ)} {s : Step ρ}
    (h : ∀ reply, (v.run before).appliedReply? s = some reply → reply.pid ≠ pid.number) :
    v.lastReply? pid (before ++ [s]) = v.lastReply? pid before := by
  have hnone : ((v.run before).appliedReply? s).toList.filter (·.pid == pid.number) = [] := by
    rw [List.filter_eq_nil_iff]
    intro reply hreply
    simpa using h reply (Option.mem_toList.mp hreply)
  rw [lastReply?, appliedReplies_concat, List.filter_append, hnone, List.append_nil, lastReply?]

lemma appliedReply?_of_not_chunk {s : Step ρ} (h : ∀ part, s.operation ≠ .chunk part) :
    v.appliedReply? s = none := by
  obtain ⟨now, operation⟩ := s
  cases operation with
  | chunk part => exact absurd rfl (h part)
  | _ => rfl

/-- A step with a part of a response applies a reply, or leaves the metrics. -/
lemma step_of_chunk {s : Step ρ} {part : Chunk} (hpart : s.operation = .chunk part) :
    (v.appliedReply? s = none ∧ (v.step s).1.store = v.store) ∨
      ∃ reply, v.appliedReply? s = some reply ∧ reply.time = s.time ∧
        (platformTable.dispatch reply v.recorder).value.2 = .applied ∧
        (v.step s).1.store = (platformTable.dispatch reply v.recorder).value.1.store := by
  obtain ⟨now, operation⟩ := s
  obtain rfl : operation = .chunk part := hpart
  have hstep : v.step ⟨now, .chunk part⟩ = (v.receiveChunk now part).value := rfl
  cases hpayload : (v.reassembly.receive part).value.2 with
  | none =>
      refine .inl ⟨?_, ?_⟩
      · simp only [appliedReply?, hpayload]
      · rw [hstep, value_receiveChunk_of_none now hpayload]
        rfl
  | some payload =>
      set reply : Reply := { sender := part.sender, pid := part.pid, payload, time := now }
        with hreply
      by_cases happlied : (platformTable.dispatch reply v.recorder).value.2 = .applied
      · refine .inr ⟨reply, ?_, rfl, happlied, ?_⟩
        · simp only [appliedReply?, hpayload, hstep, value_receiveChunk_of_some now hpayload,
            ← hreply, happlied]
        · rw [hstep, value_receiveChunk_of_some now hpayload]
          rfl
      · refine .inl ⟨?_, ?_⟩
        · simp only [appliedReply?, hpayload, hstep, value_receiveChunk_of_some now hpayload,
            ← hreply]
          split
          · next heq => exact absurd (Option.some.inj heq) happlied
          · rfl
        · rw [hstep, value_receiveChunk_of_some now hpayload]
          exact congrArg Recorder.store (dispatch_of_not_applied reply v.recorder happlied)

/-! ### What a step does to a signal -/

/-- What a step does to the entry of a signal, and to the time since which its last
report has had it on. -/
inductive Hears (s : Step ρ) (name : String) (since : Option Nat) : Option Nat → Prop
  | report (b : Bool) (hentry : (v.step s).1.store.entry name =
      (v.store.entry name).write s.time (.bool b)) :
      Hears s name since (if b then some s.time else none)
  | silence (hentry : (v.step s).1.store.entry name = v.store.entry name) :
      Hears s name since since
  | tick (hentry : (v.step s).1.store.entry name =
      (v.recorder.switchOff s.time name).store.entry name) : Hears s name since since

variable {v}

lemma Hears.tracks {s : Step ρ} {name : String} {since after : Option Nat} {lifetime : Nat}
    (h : v.Hears s name since after)
    (htracks : (v.store.entry name).Tracks lifetime s.time since) :
    ((v.step s).1.store.entry name).Tracks lifetime s.time after := by
  cases h with
  | report b hentry =>
      rw [hentry]
      exact .report htracks.lifetime_eq s.time b
  | silence hentry =>
      rw [hentry]
      exact htracks
  | tick hentry =>
      rw [hentry]
      exact htracks.switchOff

variable (v)

/-- A tick does nothing to a signal but switch it off. -/
lemma entry_tick {name : String} (hname : name ∈ Signal.switched) (now : Nat) :
    (v.tick now).value.store.entry name = (v.recorder.switchOff now name).store.entry name := by
  have hperformed : name ∉ Signal.performed := by
    revert name
    decide
  have hperform := (v.decided now).performFrame_performAll now (v.decision now).1
  rw [value_tick, hperform.changesOnly name hperformed]
  exact v.recorder.entry_reconcile now hname

/-- A step that brings no report does nothing else to a signal. -/
lemma hears_of_not_reported {s : Step ρ} {name : String} (hname : name ∈ Signal.switched)
    (hleaves : s.Leaves Signal.switched) (hframe : s.operation = .frame → name ≠ Signal.awake)
    (hchunk : ∀ part, s.operation = .chunk part → name ∉ Signal.ofPid part.pid)
    (since : Option Nat) : v.Hears s name since since := by
  have hanswered : ∀ other ∈ Signal.switched, other ∉ Signal.answered := by decide
  by_cases htick : s.operation = .tick
  · refine .tick ?_
    rw [step, htick]
    exact v.entry_tick hname s.time
  · refine .silence (v.changesOnly_step s name ?_)
    exact Operation.not_mem_signals (hanswered name hname) hframe hchunk (fun h => absurd h htick)
      fun htouched => hleaves name htouched hname

/-- Frames are the reports of activity on the bus. -/
lemma hears_awake (before : List (Step ρ)) {s : Step ρ} (hleaves : s.Leaves Signal.switched) :
    v.Hears s Signal.awake (frameTimes before).getLast? (frameTimes (before ++ [s])).getLast? := by
  rw [getLast?_frameTimes_concat]
  by_cases hframe : s.operation = .frame
  · have hentry : (v.step s).1.store.entry Signal.awake =
        (v.store.entry Signal.awake).write s.time (.bool true) := by
      rw [step, hframe]
      exact MetricStore.entry_set_self _ _ _ _
    have htimes : (frameTimes [s]).getLast? = some s.time := by
      rw [frameTimes, List.filterMap_cons, hframe]
      rfl
    rw [htimes]
    exact .report true hentry
  · have htimes : frameTimes [s] = [] := by
      obtain ⟨now, operation⟩ := s
      cases operation with
      | frame => exact absurd rfl hframe
      | _ => rfl
    rw [htimes]
    exact v.hears_of_not_reported (by decide) hleaves (fun h => absurd h hframe)
      (fun part _ => Signal.not_mem_ofPid (by decide) part.pid) _

/-- Applied replies for its data identifier are the reports of any other signal. -/
lemma hears_reported {name : String} {pid : Pid} {decode : Payload → Except PayloadError Bool}
    (h : Signal.Reported name pid decode) (before : List (Step ρ)) {s : Step ρ}
    (hleaves : s.Leaves Signal.switched) :
    (v.run before).Hears s name ((v.lastReply? pid before).bind (Reply.onSince? decode))
      ((v.lastReply? pid (before ++ [s])).bind (Reply.onSince? decode)) := by
  by_cases hchunk : ∃ part, s.operation = .chunk part
  · obtain ⟨part, hpart⟩ := hchunk
    obtain ⟨hnone, hstore⟩ | ⟨reply, hsome, htime, happlied, hstore⟩ :=
      (v.run before).step_of_chunk hpart
    · rw [v.lastReply?_concat_of_ne fun reply hreply => nomatch hnone.symm.trans hreply]
      exact .silence (by rw [hstore])
    · by_cases hpid : reply.pid = pid.number
      · obtain ⟨b, hdecode, hentry⟩ := h.entry_dispatch hpid happlied
        rw [v.lastReply?_concat_of_eq hsome hpid, Option.bind_some, Reply.onSince?_of_ok hdecode,
          htime]
        refine .report b ?_
        rw [hstore, hentry, htime]
        rfl
      · have hother : ∀ other, (v.run before).appliedReply? s = some other →
            other.pid ≠ pid.number := by
          intro other hsome'
          obtain rfl := Option.some.inj (hsome.symm.trans hsome')
          exact hpid
        rw [v.lastReply?_concat_of_ne hother]
        refine .silence ?_
        rw [hstore]
        exact h.entry_dispatch_of_ne hpid
  · have hnone := (v.run before).appliedReply?_of_not_chunk fun part h => hchunk ⟨part, h⟩
    rw [v.lastReply?_concat_of_ne fun reply hreply => nomatch hnone.symm.trans hreply]
    exact (v.run before).hears_of_not_reported h.mem_switched hleaves (fun _ => h.ne_awake)
      (fun part hpart => absurd ⟨part, hpart⟩ hchunk) _

/-! ### Runs -/

/-- Over a run with a clock that goes forward, the entry of a signal tracks what is
reported of it. -/
lemma tracks_run (since : List (Step ρ) → Option Nat) {name : String} {lifetime start : Nat}
    (hinit : (v.store.entry name).Tracks lifetime start (since [])) {steps : List (Step ρ)}
    (hhears : ∀ before, ∀ s ∈ steps, (v.run before).Hears s name (since before)
      (since (before ++ [s])))
    (hclock : (start :: steps.map Step.time).Pairwise (· ≤ ·)) {now : Nat}
    (hnow : ∀ t ∈ start :: steps.map Step.time, t ≤ now) :
    ((v.run steps).store.entry name).Tracks lifetime now (since steps) := by
  induction steps using List.reverseRecOn generalizing now with
  | nil => exact hinit.later (hnow start (.head _))
  | append_singleton before s ih =>
      rw [List.map_append, List.map_singleton, ← List.cons_append] at hclock hnow
      rw [List.pairwise_append] at hclock
      obtain ⟨hbefore, -, hle⟩ := hclock
      have htracks : ((v.run before).store.entry name).Tracks lifetime s.time (since before) :=
        ih (fun prior t ht => hhears prior t (List.mem_append_left _ ht)) hbefore
          (fun t ht => hle t ht s.time (.head _))
      have hafter := (hhears before s (by simp)).tracks htracks
      rw [run_append]
      exact hafter.later (hnow s.time (List.mem_append_right _ (.head _)))

/-- A tick after such a run has a signal on if the last reply for it is on and no older
than its lifetime. -/
lemma bool_reconcile_iff_reply {name : String} {pid : Pid}
    {decode : Payload → Except PayloadError Bool} (h : Signal.Reported name pid decode)
    {lifetime start : Nat} (hinit : (v.store.entry name).Tracks lifetime start none)
    {steps : List (Step ρ)} (hleaves : ∀ s ∈ steps, s.Leaves Signal.switched)
    (hclock : (start :: steps.map Step.time).Pairwise (· ≤ ·)) {now : Nat}
    (hnow : ∀ t ∈ start :: steps.map Step.time, t ≤ now) :
    ((v.run steps).recorder.reconcile now).value.store.bool name = true ↔
      ∃ reply, v.lastReply? pid steps = some reply ∧ decode reply.payload = .ok true ∧
        now ≤ reply.time + 1000 * lifetime := by
  have htracks := v.tracks_run (fun steps => (v.lastReply? pid steps).bind (Reply.onSince? decode))
    hinit (fun before s hs => v.hears_reported h before (hleaves s hs)) hclock hnow
  rw [htracks.bool_reconcile_iff h.mem_switched]
  constructor
  · rintro ⟨t, hsince, hfresh⟩
    obtain ⟨reply, hlast, hreply⟩ := Option.bind_eq_some_iff.mp hsince
    obtain ⟨hdecode, rfl⟩ := Reply.onSince?_eq_some_iff.mp hreply
    exact ⟨reply, hlast, hdecode, hfresh⟩
  · rintro ⟨reply, hlast, hdecode, hfresh⟩
    refine ⟨reply.time, ?_, hfresh⟩
    rw [hlast]
    exact Reply.onSince?_eq_some_iff.mpr ⟨hdecode, rfl⟩

omit [Responder ρ] in
/-- A new vehicle has nothing reported, and its signals last as long as the store and
the configuration say. -/
lemma tracks_create (config : VehicleConfig) {store : MetricStore} (poller : Poller ρ) (start : Nat)
    (hstore : store.HasLifetimes) :
    let w := (create config store poller start).value.store
    (w.entry Signal.awake).Tracks Signal.mediumLifetime start none ∧
      (w.entry Signal.on).Tracks Signal.shortLifetime start none ∧
      (w.entry Signal.chargePort).Tracks config.chargePortLifetime start none := by
  intro w
  set awakened := store.set start Signal.awake (.bool false) with hawakened
  set readied := awakened.set start Signal.on (.bool false) with hreadied
  set closed := readied.set start Signal.chargePort (.bool false) with hclosed
  set lasting := closed.setLifetime Signal.chargePort (some config.chargePortLifetime) with hlasting
  -- the signals are set one after another; what comes later leaves the entry as it was set
  have hw : ChangesOnly [Signal.pollState] lasting w := .set (by simp) _ _ _
  have hport : ChangesOnly [Signal.pollState, Signal.chargePort] readied w :=
    ((ChangesOnly.set (by simp) _ _ _).trans (.setLifetime (by simp) _ _)).trans (hw.mono (by simp))
  have hon : ChangesOnly [Signal.pollState, Signal.chargePort, Signal.on] awakened w :=
    (ChangesOnly.set (by simp) _ _ _).trans (hport.mono (by simp))
  have hlifetime : (awakened.entry Signal.on).lifetime = some Signal.shortLifetime := by
    rw [hawakened, MetricStore.entry_set, if_neg (by decide)]
    exact hstore (Signal.on, Signal.shortLifetime) (by decide)
  refine ⟨?_, ?_, ?_⟩
  · rw [hon _ (by decide), hawakened, MetricStore.entry_set_self]
    exact .report (hstore (Signal.awake, Signal.mediumLifetime) (by decide)) start false
  · rw [hport _ (by decide), hreadied, MetricStore.entry_set_self]
    exact .report hlifetime start false
  · rw [hw _ (by decide), hlasting, MetricStore.entry_setLifetime, if_pos rfl, hclosed,
      MetricStore.entry_set_self]
    exact ⟨rfl, rfl, .inr ⟨rfl, nofun⟩⟩

/-- **The signals that a tick acts on are the last reports, within their lifetimes.**
For a run of a new vehicle and a tick at time `now` after it, with a clock that goes
forward and a host that leaves the three signals alone, the tick evaluates the
machine on inputs in which

* the vehicle is awake if there has been a frame, the last one at most two minutes
  ago;
* it is on if a ready signal has been applied, the last one says ready, and came at
  most ten seconds ago;
* the lid is open if a report of the lid has been applied, the last one says open,
  and came no longer ago than the configuration lets it last. -/
theorem inputs_run (config : VehicleConfig) {store : MetricStore} (poller : Poller ρ)
    {start now : Nat} {steps : List (Step ρ)} (hstore : store.HasLifetimes)
    (hleaves : ∀ s ∈ steps, s.Leaves [Signal.awake, Signal.on, Signal.chargePort])
    (hclock : (start :: (steps.map Step.time ++ [now])).Pairwise (· ≤ ·)) :
    let v := (create config store poller start).value
    let w := v.run steps
    let inputs := w.inputs now
    (w.step ⟨now, .tick⟩).1.machine = (w.machine.step inputs).value.2 ∧
    (inputs.awake = true ↔ ∃ t, (frameTimes steps).getLast? = some t ∧ now ≤ t + 120000) ∧
    (inputs.vehicleOn = true ↔ ∃ reply, v.lastReply? .readySignal steps = some reply ∧
      Decode.ready reply.payload = .ok true ∧ now ≤ reply.time + 10000) ∧
    (inputs.chargePortOpen = true ↔ ∃ reply, v.lastReply? .chargingLid steps = some reply ∧
      Decode.chargingDoorOpen reply.payload = .ok true ∧
      now ≤ reply.time + 1000 * config.chargePortLifetime) := by
  intro v w inputs
  obtain ⟨hawake, hon, hport⟩ := tracks_create config poller start hstore
  rw [← List.cons_append, List.pairwise_append] at hclock
  obtain ⟨hsteps, -, hle⟩ := hclock
  have hnow : ∀ t ∈ start :: steps.map Step.time, t ≤ now := fun t ht => hle t ht now (.head _)
  -- each input is a signal that tracks its last report up to `now`, as the reconciliation leaves it
  have hawakes := (v.tracks_run (fun steps => (frameTimes steps).getLast?) hawake
    (fun before s hs => hears_awake _ before (hleaves s hs)) hsteps hnow).bool_reconcile_iff
      (by decide)
  have hready := v.bool_reconcile_iff_reply .ready hon hleaves hsteps hnow
  have hlid := v.bool_reconcile_iff_reply .chargingLid hport hleaves hsteps hnow
  have hmachine := congrArg Prod.snd (w.decision_eq now)
  exact ⟨(w.machine_tick now).trans hmachine, hawakes, hready, hlid⟩

/-- A frame, a ready signal and an open lid; one millisecond after the ready signal
has outlived its ten seconds a tick goes by the other two only. -/
theorem inputs_run_ready_outlived :
    let part (ecu : Ecu) (pid : Pid) (bytes : List UInt8) : Operation Script :=
      .chunk { sender := ecu.responseId, pid := pid.number, first := true, bytes, remaining := 0 }
    let steps : List (Step Script) := [⟨1000, .frame⟩, ⟨1000, .tick⟩,
      ⟨2000, part .hybridControl .readySignal [0, 1]⟩,
      ⟨3000, part .plugInControl .chargingLid [0, 2]⟩, ⟨5000, .tick⟩]
    let inputs := (bench.run steps).inputs 12001
    MetricStore.withLifetimes.HasLifetimes ∧
      (∀ s ∈ steps, s.Leaves [Signal.awake, Signal.on, Signal.chargePort]) ∧
      (0 :: (steps.map Step.time ++ [12001])).Pairwise (· ≤ ·) ∧
      inputs.awake = true ∧ inputs.vehicleOn = false ∧ inputs.chargePortOpen = true ∧
      (∃ t, (frameTimes steps).getLast? = some t ∧ 12001 ≤ t + 120000) ∧
      (¬ ∃ reply, bench.lastReply? .readySignal steps = some reply ∧
        Decode.ready reply.payload = .ok true ∧ 12001 ≤ reply.time + 10000) ∧
      ∃ reply, bench.lastReply? .chargingLid steps = some reply ∧
        Decode.chargingDoorOpen reply.payload = .ok true ∧ 12001 ≤ reply.time + 1000 * 10 := by
  intro part steps inputs
  have hstore : MetricStore.withLifetimes.HasLifetimes := by decide +kernel
  have hleaves : ∀ s ∈ steps, s.Leaves [Signal.awake, Signal.on, Signal.chargePort] := by
    simp [steps, part, Step.Leaves, Operation.touched]
  have hclock : (0 :: (steps.map Step.time ++ [12001])).Pairwise (· ≤ ·) := by decide
  have hawake : inputs.awake = true := by decide +kernel
  have hon : inputs.vehicleOn = false := by decide +kernel
  have hport : inputs.chargePortOpen = true := by decide +kernel
  -- what is left does not depend on the steps, and must not evaluate the run again
  clear_value steps
  have h := inputs_run VehicleConfig.bench ScriptedPoller.empty hstore hleaves hclock
  have hbench : bench =
      (create VehicleConfig.bench MetricStore.withLifetimes ScriptedPoller.empty 0).value := rfl
  simp only [← hbench] at h
  obtain ⟨-, hframe, hready, hlid⟩ := h
  refine ⟨hstore, hleaves, hclock, hawake, hon, hport, hframe.mp hawake, fun hreply => ?_,
    hlid.mp hport⟩
  rw [hready.mpr hreply] at hon
  cases hon

end Vehicle

end VehicleTelemetry
