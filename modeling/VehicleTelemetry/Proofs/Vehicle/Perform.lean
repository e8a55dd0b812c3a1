import Mathlib.Tactic
import VehicleTelemetry.Proofs.Session.Moves
import VehicleTelemetry.Proofs.Vehicle.Requests
import VehicleTelemetry.Proofs.Vehicle.Run

/-!
What the vehicle does for the session machine, apart from what it reports.

* `SessionAction.signals` lists the metrics that an action can write, and
  `PerformFrame` is what all actions leave alone besides;
* `pollStates_performAll`, `pollState_performAll`: actions publish the states
  that they enter, in order, to the poller and as a metric.
-/

namespace VehicleTelemetry

/-- The metrics that an action of the session machine can write. -/
def SessionAction.signals : SessionAction → List String
  | .resetBus => []
  | .transition _ _ => [Signal.pollState]
  | .setChargeState _ => [Signal.chargeState]
  | .markTripStart => [Signal.tripStart]
  | .requestChargeMode => [Signal.chargeMode]
  | .requestChargeType => [Signal.chargeType]

/-- The metrics that some action of the session machine can write. -/
def Signal.performed : List String :=
  [pollState, chargeState, tripStart, chargeMode, chargeType]

lemma SessionAction.signals_subset (action : SessionAction) :
    action.signals ⊆ Signal.performed := by
  cases action <;> simp [signals, Signal.performed]

/-- The value that a state is published as. -/
def SessionState.published (state : SessionState) : MetricValue :=
  .int (Int64.ofNat state.number.toNat)

namespace Vehicle

variable {ρ : Type}

/-! ### What actions leave alone -/

/-- What the actions of the session machine leave alone, besides all metrics but
some. -/
structure PerformFrame (names : List String) (before after : Vehicle ρ) : Prop where
  config_eq : after.config = before.config
  machine_eq : after.machine = before.machine
  reassembly_eq : after.reassembly = before.reassembly
  meter_eq : after.recorder.meter = before.recorder.meter
  changesOnly : MetricStore.ChangesOnly names before.store after.store

namespace PerformFrame

variable {names more : List String} {a b c : Vehicle ρ}

lemma refl (names : List String) (a : Vehicle ρ) : PerformFrame names a a :=
  ⟨rfl, rfl, rfl, rfl, .refl _ _⟩

lemma trans (h : PerformFrame names a b) (h' : PerformFrame names b c) :
    PerformFrame names a c where
  config_eq := h'.config_eq.trans h.config_eq
  machine_eq := h'.machine_eq.trans h.machine_eq
  reassembly_eq := h'.reassembly_eq.trans h.reassembly_eq
  meter_eq := h'.meter_eq.trans h.meter_eq
  changesOnly := h.changesOnly.trans h'.changesOnly

lemma mono (h : PerformFrame names a b) (hsub : names ⊆ more) : PerformFrame more a b :=
  ⟨h.config_eq, h.machine_eq, h.reassembly_eq, h.meter_eq, h.changesOnly.mono hsub⟩

lemma answered (v : Vehicle ρ) (now : Nat) (name : String)
    (decode : Payload → Except PayloadError String)
    (answer : Except PollError Payload × Poller ρ) :
    PerformFrame [name] v (v.answered now name decode answer) := by
  obtain ⟨hmeter, hstore⟩ := recordAnswer_frame now v.recorder name decode answer.1
  exact ⟨rfl, rfl, rfl, hmeter, hstore⟩

end PerformFrame

variable [Responder ρ] (v : Vehicle ρ) (now : Nat)

@[simp] lemma value_perform_requestChargeMode :
    (v.perform now .requestChargeMode).value = (v.requestChargeMode now).value := rfl

@[simp] lemma value_perform_requestChargeType :
    (v.perform now .requestChargeType).value = (v.requestChargeType now).value := rfl

lemma performFrame_perform (action : SessionAction) :
    PerformFrame action.signals v (v.perform now action).value := by
  cases action with
  | resetBus => exact ⟨rfl, rfl, rfl, rfl, .refl _ _⟩
  | transition source target =>
      exact ⟨rfl, rfl, rfl, rfl, .set (by simp [SessionAction.signals]) _ _ _⟩
  | setChargeState state =>
      exact ⟨rfl, rfl, rfl, rfl, .set (by simp [SessionAction.signals]) _ _ _⟩
  | markTripStart =>
      exact ⟨rfl, rfl, rfl, rfl, .mark (by simp [SessionAction.signals]) _ _⟩
  | requestChargeMode =>
      rw [value_perform_requestChargeMode, value_requestChargeMode]
      exact .answered v now _ _ _
  | requestChargeType =>
      rw [value_perform_requestChargeType, value_requestChargeType]
      exact .answered v now _ _ _

@[simp] lemma performAll_cons (action : SessionAction) (rest : List SessionAction) :
    v.performAll now (action :: rest) = (v.perform now action).value.performAll now rest := rfl

lemma performFrame_performAll (actions : List SessionAction) :
    PerformFrame Signal.performed v (v.performAll now actions) := by
  induction actions generalizing v with
  | nil => exact .refl _ v
  | cons action rest ih =>
      have hfirst := (v.performFrame_perform now action).mono action.signals_subset
      exact hfirst.trans (ih (v.perform now action).value)

/-- Actions leave the machine alone, so a tick leaves it as it has been decided. -/
lemma machine_tick : (v.tick now).value.machine = (v.decision now).2 := by
  rw [value_tick, ((v.decided now).performFrame_performAll now _).machine_eq, decided]

/-! ### What actions publish -/

lemma pollStates_perform (action : SessionAction) :
    (v.perform now action).value.poller.pollStates.toList =
      v.poller.pollStates.toList ++ action.entered?.toList.map SessionState.number := by
  cases action with
  | resetBus => exact (List.append_nil _).symm
  | transition source target => exact Array.toList_push
  | setChargeState state => exact (List.append_nil _).symm
  | markTripStart => exact (List.append_nil _).symm
  | requestChargeMode =>
      obtain ⟨responder, queries, hpoller⟩ :=
        v.poller.exists_retry v.chargeModeQuery v.config.queryAttempts
      rw [value_perform_requestChargeMode, value_requestChargeMode, answered, hpoller]
      exact (List.append_nil _).symm
  | requestChargeType =>
      obtain ⟨responder, queries, hpoller⟩ :=
        v.poller.exists_retry v.chargeTypeQuery v.config.queryAttempts
      rw [value_perform_requestChargeType, value_requestChargeType, answered, hpoller]
      exact (List.append_nil _).symm

/-- Every state that is entered is handed to the poller, and no other one. -/
lemma pollStates_performAll (actions : List SessionAction) :
    (v.performAll now actions).poller.pollStates.toList =
      v.poller.pollStates.toList ++
        (actions.filterMap SessionAction.entered?).map SessionState.number := by
  induction actions generalizing v with
  | nil => exact (List.append_nil _).symm
  | cons action rest ih =>
      rw [performAll_cons, ih, pollStates_perform, List.append_assoc, List.filterMap_cons]
      cases action.entered? <;> rfl

lemma pollState_perform (action : SessionAction) :
    (v.perform now action).value.store.value? Signal.pollState =
      (action.entered?.map SessionState.published).or (v.store.value? Signal.pollState) := by
  have hother (h : Signal.pollState ∉ action.signals) :
      (v.perform now action).value.store.value? Signal.pollState =
        v.store.value? Signal.pollState :=
    (v.performFrame_perform now action).changesOnly.value?_eq h
  cases action with
  | transition source target => exact MetricStore.value?_set_self _ _ _ _
  | resetBus => exact hother (by decide)
  | setChargeState state => exact hother (by simp only [SessionAction.signals]; decide)
  | markTripStart => exact hother (by decide)
  | requestChargeMode => exact hother (by decide)
  | requestChargeType => exact hother (by decide)

/-- The metric shows the last state that is entered. -/
lemma pollState_performAll (actions : List SessionAction) :
    (v.performAll now actions).store.value? Signal.pollState =
      ((actions.filterMap SessionAction.entered?).getLast?.map SessionState.published).or
        (v.store.value? Signal.pollState) := by
  induction actions generalizing v with
  | nil => rfl
  | cons action rest ih =>
      rw [performAll_cons, ih, pollState_perform, List.filterMap_cons]
      cases action.entered? with
      | none => rfl
      | some target =>
          rw [List.getLast?_cons]
          cases (rest.filterMap SessionAction.entered?).getLast? <;> rfl

end Vehicle

end VehicleTelemetry
