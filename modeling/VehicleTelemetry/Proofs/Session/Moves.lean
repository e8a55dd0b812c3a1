import Mathlib.Tactic
import VehicleTelemetry.Proofs.Session.Evaluation

/-!
What an evaluation of the session machine can come to.

* `SessionState.Edge`: the six ways from one state to another;
* `SessionAction.entered?`: the state that an action publishes;
* `SessionMachine.Moves`: the machine stays and publishes nothing, or takes an
  edge and asks for the actions of entering, after a reset of the bus at most.
  `moves_step` says so of every evaluation, and `Moves.stays_or_enters` counts what is
  published;
* `markTripStart_mem_iff`: the machine asks for a new baseline of the trip when it gets
  ready, and at no other time;
* `vehicleOn_of_ready`, `not_vehicleOn_of_not_ready`: it gets ready by a vehicle that is on, and
  ceases to be by one that is off.
-/

namespace VehicleTelemetry

/-- The ways from one state of a session to another. -/
inductive SessionState.Edge : SessionState → SessionState → Prop
  | wake : Edge .sleep .awake
  | fallAsleep : Edge .awake .sleep
  | getReady : Edge .awake .ready
  | openLid : Edge .awake .charging
  | switchOff : Edge .ready .awake
  | closeLid : Edge .charging .awake

/-- The state that an action publishes, if it publishes one. -/
def SessionAction.entered? : SessionAction → Option SessionState
  | .transition _ target => some target
  | _ => none

namespace SessionMachine

/-- What an evaluation of a machine can come to. -/
inductive Moves (machine : SessionMachine) : List SessionAction × SessionMachine → Prop
  | stay {actions : List SessionAction} (hquiet : ∀ action ∈ actions, action.entered? = none) :
      Moves machine (actions, machine)
  | enter {target : SessionState} (hedge : SessionState.Edge machine.state target) :
      Moves machine (machine.enter target)
  | resetAndEnter {target : SessionState} (hedge : SessionState.Edge machine.state target) :
      Moves machine (.resetBus :: (machine.enter target).1, (machine.enter target).2)

lemma entered_entryActions (source target : SessionState) :
    (entryActions source target).filterMap SessionAction.entered? = [target] := by
  cases target <;> rfl

/-- Either the machine stays and no state is published, or it takes an edge and
the state at the other end is. -/
lemma Moves.stays_or_enters {machine : SessionMachine}
    {result : List SessionAction × SessionMachine} (h : Moves machine result) :
    (result.2.state = machine.state ∧ result.1.filterMap SessionAction.entered? = []) ∨
      SessionState.Edge machine.state result.2.state ∧
        result.1.filterMap SessionAction.entered? = [result.2.state] := by
  cases h with
  | stay hquiet => exact .inl ⟨rfl, List.filterMap_eq_nil_iff.mpr hquiet⟩
  | enter hedge => exact .inr ⟨hedge, entered_entryActions _ _⟩
  | resetAndEnter hedge => exact .inr ⟨hedge, entered_entryActions _ _⟩

variable (machine : SessionMachine) (inputs : SessionInputs)

/-- Whatever the signals are, the machine stays or takes an edge. -/
lemma moves_step : Moves machine (machine.step inputs).value := by
  have hway := machine.evaluates_step inputs
  generalize (machine.step inputs).value = result at hway ⊢
  cases hway with
  | wake hstate => exact .enter (hstate ▸ .wake)
  | wakeByVoltage hstate => exact .resetAndEnter (hstate ▸ .wake)
  | fallAsleep hstate => exact .enter (hstate ▸ .fallAsleep)
  | getReady hstate => exact .enter (hstate ▸ .getReady)
  | openLid hstate => exact .enter (hstate ▸ .openLid)
  | switchOff hstate => exact .enter (hstate ▸ .switchOff)
  | closeLid hstate => exact .enter (hstate ▸ .closeLid)
  | sleepOn | stayAwake | stayReady | stayOpen | stayConnected | chargeOn =>
      exact .stay (List.forall_mem_nil _)
  | plugIn | start | unplug | stop | recover => exact .stay (by simp [SessionAction.entered?])

/-- Getting ready, and nothing else, asks for a new baseline of the trip. -/
lemma markTripStart_mem_iff :
    .markTripStart ∈ (machine.step inputs).value.1 ↔
      machine.state ≠ .ready ∧ (machine.step inputs).value.2.state = .ready := by
  have hway := machine.evaluates_step inputs
  generalize (machine.step inputs).value = result at hway ⊢
  cases hway <;> simp [enter, entryActions, *]

/-! ### Readiness -/

/-- A machine that is ready after an evaluation has found the vehicle on. -/
lemma vehicleOn_of_ready (h : (machine.step inputs).value.2.state = .ready) :
    inputs.vehicleOn = true := by
  have hway := machine.evaluates_step inputs
  generalize (machine.step inputs).value = result at hway h
  cases hway with
  | getReady _ _ hon => exact hon
  | stayReady _ hon => exact hon
  | _ => simp_all [enter]

/-- A machine that is no longer ready after an evaluation has found the vehicle off. -/
lemma not_vehicleOn_of_not_ready (hready : machine.state = .ready)
    (h : (machine.step inputs).value.2.state ≠ .ready) : inputs.vehicleOn = false := by
  have hway := machine.evaluates_step inputs
  generalize (machine.step inputs).value = result at hway h
  cases hway with
  | switchOff _ hoff => exact hoff
  | _ => simp_all

end SessionMachine

end VehicleTelemetry
