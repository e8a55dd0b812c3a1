import Mathlib.Tactic
import VehicleTelemetry.Proofs.Recorder.Frame
import VehicleTelemetry.Proofs.Reply.Outcome
import VehicleTelemetry.Proofs.Vehicle.Perform

/-!
The session machine, the published metric and the poller agree.

* `Agrees`: the three show the same state, and the poll states so far are a walk
  along the edges of a session;
* `Vehicle.publications`, `Vehicle.published`: the states that a step publishes,
  each with the metrics at that moment; `Timely` is what these metrics show;
* `KeepsSession.step`: whatever is no tick touches none of the three;
* `Agrees.step`: a step adds the states that it publishes to the walk;
* `run_session`: the theorem for all runs of a new vehicle.
-/

namespace VehicleTelemetry

variable {ρ : Type}

/-- A step in which the host leaves the state of the session to the vehicle. -/
@[mk_iff]
structure Step.LeavesPollState (s : Step ρ) : Prop where
  metric : ∀ name value, s.operation = .setMetric name value → name ≠ Signal.pollState
  poller : ∀ change, s.operation = .changePoller change →
    ∀ poller : Poller ρ, (change poller).pollStates = poller.pollStates

namespace Vehicle

/-! ### Agreement -/

/-- Machine, metric and poll states are as before. -/
structure KeepsSession (before after : Vehicle ρ) : Prop where
  machine_eq : after.machine = before.machine
  pollStates_eq : after.poller.pollStates = before.poller.pollStates
  value?_eq : after.store.value? Signal.pollState = before.store.value? Signal.pollState

/-- Machine, metric and poller agree, and the poll states that were added to some
older ones are a walk from sleep to the machine's state. -/
structure Agrees (older : List UInt8) (walk : List SessionState) (v : Vehicle ρ) : Prop where
  value?_eq : v.store.value? Signal.pollState = some v.state.published
  pollStates_eq : v.poller.pollStates.toList = older ++ walk.map SessionState.number
  head?_eq : walk.head? = some .sleep
  getLast?_eq : walk.getLast? = some v.state
  isChain : walk.IsChain SessionState.Edge

namespace KeepsSession

lemma refl (v : Vehicle ρ) : KeepsSession v v :=
  ⟨rfl, rfl, rfl⟩

lemma chunk (v : Vehicle ρ) (now : Nat) (chunk : Chunk) :
    KeepsSession v (v.receiveChunk now chunk).value.1 := by
  cases hpayload : (v.reassembly.receive chunk).value.2 with
  | none =>
      rw [value_receiveChunk_of_none now hpayload]
      exact ⟨rfl, rfl, rfl⟩
  | some payload =>
      rw [value_receiveChunk_of_some now hpayload]
      exact ⟨rfl, rfl, (changesOnly_dispatch _ v.recorder).value?_eq (by decide)⟩

/-- An answer is no state, and requests choose none. -/
lemma answered (v : Vehicle ρ) (now : Nat) {name : String} (hname : name ≠ Signal.pollState)
    (decode : Payload → Except PayloadError String) (answer : Except PollError Payload × Poller ρ)
    (hpoller : ∃ responder queries, answer.2 = { v.poller with responder, queries }) :
    KeepsSession v (v.answered now name decode answer) := by
  obtain ⟨responder, queries, hpoller⟩ := hpoller
  have hstore := (PerformFrame.answered v now name decode answer).changesOnly
  refine ⟨rfl, ?_, hstore.value?_eq (by simpa using hname.symm)⟩
  rw [Vehicle.answered, hpoller]

end KeepsSession

namespace Agrees

variable {older : List UInt8} {walk : List SessionState} {v w : Vehicle ρ}

lemma create (config : VehicleConfig) (store : MetricStore) (poller : Poller ρ) (start : Nat) :
    Agrees poller.pollStates.toList [.sleep] (create config store poller start).value := by
  rw [value_create]
  refine ⟨?_, Array.toList_push, rfl, rfl, .singleton _⟩
  exact MetricStore.value?_set_self _ _ _ _

lemma keep (h : Agrees older walk v) (hkeep : KeepsSession v w) : Agrees older walk w := by
  have hstate : w.state = v.state := congrArg SessionMachine.state hkeep.machine_eq
  refine ⟨?_, ?_, h.head?_eq, ?_, h.isChain⟩
  · rw [hkeep.value?_eq, hstate, h.value?_eq]
  · rw [hkeep.pollStates_eq, h.pollStates_eq]
  · rw [hstate, h.getLast?_eq]

/-- The poller's current state is the machine's. -/
lemma currentState?_eq (h : Agrees older walk v) :
    v.poller.currentState? = some v.state.number := by
  rw [Poller.currentState?, ← Array.getLast?_toList, h.pollStates_eq, List.getLast?_append,
    List.getLast?_map, h.getLast?_eq]
  rfl

end Agrees

lemma moves_decision (v : Vehicle ρ) (now : Nat) : v.machine.Moves (v.decision now) :=
  v.machine.moves_step _

variable [Responder ρ]

/-! ### The moment of a publication -/

/-- The states that actions publish, each with the metrics at that moment. -/
def publications (v : Vehicle ρ) (now : Nat) :
    List SessionAction → List (SessionState × MetricStore)
  | [] => []
  | action :: rest =>
    action.entered?.toList.map (·, v.store) ++ (v.perform now action).value.publications now rest

/-- The states that a step publishes, each with the metrics at that moment. -/
def published (v : Vehicle ρ) (s : Step ρ) : List (SessionState × MetricStore) :=
  match s.operation with
  | .tick => (v.decided s.time).publications s.time (v.decision s.time).1
  | _ => []

lemma map_fst_publications (v : Vehicle ρ) (now : Nat) (actions : List SessionAction) :
    (v.publications now actions).map Prod.fst = actions.filterMap SessionAction.entered? := by
  induction actions generalizing v with
  | nil => rfl
  | cons action rest ih =>
      rw [publications, List.map_append, ih, List.filterMap_cons]
      cases action.entered? <;> rfl

/-- The state of charging is the open lid by the time charging is published, and
the baseline of the trip is stale once ready has been. -/
def Timely (after : Vehicle ρ) (p : SessionState × MetricStore) : Prop :=
  (p.1 = .charging → p.2.value? Signal.chargeState = some (.text ChargeState.doorOpen.text)) ∧
    (p.1 = .ready → ∀ time, after.store.isStale time Signal.tripStart)

lemma timely_entryActions (v : Vehicle ρ) (now : Nat) (source target : SessionState) :
    ∀ p ∈ v.publications now (SessionMachine.entryActions source target),
      Timely (v.performAll now (SessionMachine.entryActions source target)) p := by
  intro p hp
  cases target with
  | sleep =>
      obtain rfl := List.mem_singleton.mp hp
      exact ⟨nofun, nofun⟩
  | awake =>
      obtain rfl := List.mem_singleton.mp hp
      exact ⟨nofun, nofun⟩
  | ready =>
      obtain rfl := List.mem_singleton.mp hp
      exact ⟨nofun, fun _ time => MetricStore.isStale_mark _ time _⟩
  | charging =>
      obtain rfl := List.mem_singleton.mp hp
      exact ⟨fun _ => MetricStore.value?_set_self _ _ _ _, nofun⟩

lemma timely_of_moves (v : Vehicle ρ) (now : Nat) {machine : SessionMachine}
    {result : List SessionAction × SessionMachine} (h : machine.Moves result) :
    ∀ p ∈ v.publications now result.1, Timely (v.performAll now result.1) p := by
  cases h with
  | stay hquiet =>
      intro p hp
      have hnone := List.filterMap_eq_nil_iff.mpr hquiet
      rw [← map_fst_publications v now, List.map_eq_nil_iff] at hnone
      rw [hnone] at hp
      cases hp
  | enter hedge => exact v.timely_entryActions now _ _
  | resetAndEnter hedge =>
      exact (v.perform now .resetBus).value.timely_entryActions now _ _

lemma published_of_not_tick (v : Vehicle ρ) {s : Step ρ} (h : s.operation ≠ .tick) :
    v.published s = [] := by
  rw [published]
  split
  · next htick => exact absurd htick h
  · rfl

/-! ### Steps -/

namespace KeepsSession

lemma requestVin (v : Vehicle ρ) (now : Nat) : KeepsSession v (v.requestVin now).value := by
  rw [value_requestVin]
  exact .answered v now (by decide) _ _ (v.poller.exists_ask _)

/-- Only a tick can change the state of the session. -/
lemma step (v : Vehicle ρ) {s : Step ρ} (hs : s.LeavesPollState) (htick : s.operation ≠ .tick) :
    KeepsSession v (v.step s).1 := by
  obtain ⟨now, operation⟩ := s
  cases operation with
  | tick => exact absurd rfl htick
  | frame => exact ⟨rfl, rfl, MetricStore.value?_set_of_ne _ _ (by decide) _⟩
  | chunk chunk => exact .chunk v now chunk
  | slowTick =>
      show KeepsSession v (v.slowTick now).value
      rw [value_slowTick]
      split
      · exact .requestVin v now
      · exact .refl v
  | requestVin => exact .requestVin v now
  | requestChargeMode =>
      show KeepsSession v (v.requestChargeMode now).value
      rw [value_requestChargeMode]
      exact .answered v now (by decide) _ _ (v.poller.exists_retry _ _)
  | requestChargeType =>
      show KeepsSession v (v.requestChargeType now).value
      rw [value_requestChargeType]
      exact .answered v now (by decide) _ _ (v.poller.exists_retry _ _)
  | setMetric name value =>
      have hne : Signal.pollState ≠ name := (hs.metric name value rfl).symm
      exact ⟨rfl, rfl, MetricStore.value?_set_of_ne _ _ hne _⟩
  | markMetric name stale => exact ⟨rfl, rfl, MetricStore.value?_mark _ _ _ _⟩
  | setLifetime name seconds => exact ⟨rfl, rfl, MetricStore.value?_setLifetime _ _ _ _⟩
  | changePoller change => exact ⟨rfl, hs.poller change rfl v.poller, rfl⟩

end KeepsSession

namespace Agrees

variable {older : List UInt8} {walk : List SessionState} {v : Vehicle ρ}

/-- A tick adds what it publishes to the walk. -/
lemma tick (h : Agrees older walk v) (now : Nat) :
    Agrees older (walk ++ (v.decision now).1.filterMap SessionAction.entered?)
      (v.tick now).value := by
  have hmachine := v.machine_tick now
  have hpollStates := (v.decided now).pollStates_performAll now (v.decision now).1
  have hmetric := (v.decided now).pollState_performAll now (v.decision now).1
  have hbefore : (v.decided now).store.value? Signal.pollState = some v.state.published := by
    rw [← h.value?_eq]
    exact (v.recorder.changesOnly_reconcile now).value?_eq (by decide)
  rw [← value_tick] at hpollStates hmetric
  have hold : (v.decided now).poller.pollStates.toList = older ++ walk.map SessionState.number :=
    h.pollStates_eq
  rw [hold, List.append_assoc, ← List.map_append] at hpollStates
  rw [hbefore] at hmetric
  -- either the state stays and nothing is published, or the walk goes on by one edge
  obtain ⟨hstays, hnothing⟩ | ⟨hedge, hentered⟩ := (v.moves_decision now).stays_or_enters
  · rw [hnothing, List.append_nil] at hpollStates ⊢
    rw [hnothing] at hmetric
    have hstate : (v.tick now).value.state = v.state :=
      (congrArg SessionMachine.state hmachine).trans hstays
    exact ⟨hstate ▸ hmetric, hpollStates, h.head?_eq, hstate ▸ h.getLast?_eq, h.isChain⟩
  · have hstate : (v.tick now).value.state = (v.decision now).2.state :=
      congrArg SessionMachine.state hmachine
    rw [hentered] at hpollStates hmetric ⊢
    refine ⟨hstate ▸ hmetric, hpollStates, ?_, ?_, ?_⟩
    · rw [List.head?_append, h.head?_eq]
      rfl
    · rw [List.getLast?_concat, hstate]
    · refine h.isChain.append (.singleton _) fun x hx y hy => ?_
      rw [h.getLast?_eq, Option.mem_some_iff] at hx
      rw [List.head?_singleton, Option.mem_some_iff] at hy
      exact hx ▸ hy ▸ hedge

/-- Every step adds what it publishes to the walk. -/
lemma step (h : Agrees older walk v) {s : Step ρ} (hs : s.LeavesPollState) :
    Agrees older (walk ++ (v.published s).map Prod.fst) (v.step s).1 := by
  by_cases htick : s.operation = .tick
  · have hstep : (v.step s).1 = (v.tick s.time).value := by rw [Vehicle.step, htick]
    rw [hstep, published, htick]
    simp only [map_fst_publications]
    exact h.tick s.time
  · rw [published_of_not_tick v htick, List.map_nil, List.append_nil]
    exact h.keep (.step v hs htick)

end Agrees

/-! ### Runs -/

/-- What a step publishes, and when. -/
lemma published_step (v : Vehicle ρ) {s : Step ρ} (hs : s.LeavesPollState) :
    (v.step s).1.poller.pollStates.toList =
        v.poller.pollStates.toList ++ (v.published s).map (fun p => p.1.number) ∧
      (v.published s).length ≤ 1 ∧ (s.operation ≠ .tick → v.published s = []) ∧
      ∀ p ∈ v.published s, Timely (v.step s).1 p := by
  by_cases htick : s.operation = .tick
  -- what a tick publishes is read off its actions, of which one at most enters a state
  · have hstep : (v.step s).1 = (v.decided s.time).performAll s.time (v.decision s.time).1 := by
      rw [← value_tick, step, htick]
    have hpublished : v.published s =
        (v.decided s.time).publications s.time (v.decision s.time).1 := by
      rw [published, htick]
    have hstates : (v.published s).map Prod.fst =
        (v.decision s.time).1.filterMap SessionAction.entered? := by
      rw [hpublished, map_fst_publications]
    refine ⟨?_, ?_, fun h => absurd htick h, ?_⟩
    · rw [hstep, pollStates_performAll, ← hstates, List.map_map]
      rfl
    · rw [← List.length_map Prod.fst, hstates]
      obtain ⟨-, hnothing⟩ | ⟨-, hentered⟩ := (v.moves_decision s.time).stays_or_enters
      · simp [hnothing]
      · simp [hentered]
    · rw [hstep, hpublished]
      exact (v.decided s.time).timely_of_moves s.time (v.moves_decision s.time)
  · rw [v.published_of_not_tick htick, (KeepsSession.step v hs htick).pollStates_eq]
    exact ⟨(List.append_nil _).symm, Nat.zero_le 1, fun _ => rfl, List.forall_mem_nil _⟩

/-- **Machine, metric and poller never disagree.** In every run of a new vehicle,
with a host that leaves the state of the session to it:

* the metric and the poller's current state are the machine's state;
* the poll states that were chosen are a walk that starts at sleep and follows
  the six edges;
* only ticks add to it, and one state at most; the state of charging is the open
  lid when charging is published, and the baseline of the trip is stale after a
  tick that publishes ready. -/
theorem run_session (config : VehicleConfig) (store : MetricStore) (poller : Poller ρ)
    (start : Nat) {steps : List (Step ρ)} (hsteps : ∀ s ∈ steps, s.LeavesPollState) :
    let v := (create config store poller start).value
    let w := v.run steps
    (w.store.value? Signal.pollState = some (.int (Int64.ofNat w.state.number.toNat)) ∧
      w.poller.currentState? = some w.state.number) ∧
    (∃ walk : List SessionState,
      w.poller.pollStates.toList = poller.pollStates.toList ++ walk.map SessionState.number ∧
      walk.head? = some .sleep ∧ walk.IsChain SessionState.Edge) ∧
    ∀ before s after, steps = before ++ s :: after →
      let u := v.run before
      (u.step s).1.poller.pollStates.toList =
          u.poller.pollStates.toList ++ (u.published s).map (fun p => p.1.number) ∧
        (u.published s).length ≤ 1 ∧ (s.operation ≠ .tick → u.published s = []) ∧
        ∀ p ∈ u.published s,
          (p.1 = .charging →
            p.2.value? Signal.chargeState = some (.text ChargeState.doorOpen.text)) ∧
          (p.1 = .ready → ∀ time, (u.step s).1.store.isStale time Signal.tripStart) := by
  intro v w
  have hcreated : ∃ walk, Agrees poller.pollStates.toList walk v :=
    ⟨_, Agrees.create config store poller start⟩
  -- the walk grows with the run, so the invariant is that there is one
  have hrun : ∃ walk, Agrees poller.pollStates.toList walk w := by
    refine run_preserves (P := fun u => ∃ walk, Agrees poller.pollStates.toList walk u) steps ?_
      hcreated
    rintro u s hs ⟨walk, h⟩
    exact ⟨_, h.step (hsteps s hs)⟩
  obtain ⟨walk, h⟩ := hrun
  refine ⟨⟨h.value?_eq, h.currentState?_eq⟩, ⟨walk, h.pollStates_eq, h.head?_eq, h.isChain⟩, ?_⟩
  rintro before s after rfl
  exact (v.run before).published_step (hsteps s (by simp))

/-- A vehicle wakes, its lid is opened, a cable is plugged in and out as the host
sees it, and the vehicle falls asleep when nothing is heard from it any more. -/
theorem run_session_lid :
    let lid : Chunk :=
      { sender := Ecu.plugInControl.responseId, pid := Pid.chargingLid.number, first := true,
        bytes := [0, 2], remaining := 0 }
    let steps : List (Step Script) := [⟨1000, .frame⟩, ⟨1000, .tick⟩, ⟨1500, .chunk lid⟩,
      ⟨2000, .tick⟩, ⟨2500, .setMetric Signal.pilot (.bool true)⟩, ⟨3000, .tick⟩,
      ⟨3500, .setMetric Signal.pilot (.bool false)⟩, ⟨500000, .tick⟩, ⟨501000, .tick⟩,
      ⟨502000, .tick⟩]
    let w := bench.run steps
    (∀ s ∈ steps, s.LeavesPollState) ∧ w.poller.pollStates.toList = [0, 1, 3, 1, 0] ∧
      w.store.value? Signal.pollState = some (.int (Int64.ofNat w.state.number.toNat)) ∧
      w.poller.currentState? = some w.state.number := by
  intro lid steps
  have hsteps : ∀ s ∈ steps, s.LeavesPollState := by
    have hpilot : Signal.pilot ≠ Signal.pollState := by decide
    simp [steps, Step.leavesPollState_iff, hpilot]
  have hwalk : (bench.run steps).poller.pollStates.toList = [0, 1, 3, 1, 0] := by decide +kernel
  -- what is left does not depend on the steps, and must not evaluate the run again
  clear_value steps
  have h := run_session VehicleConfig.bench MetricStore.withLifetimes ScriptedPoller.empty 0 hsteps
  exact ⟨hsteps, hwalk, h.1⟩

end Vehicle

end VehicleTelemetry
