import Mathlib.Tactic
import VehicleTelemetry.Proofs.Session.Charging
import VehicleTelemetry.Proofs.Session.Moves

/-!
How long a session machine keeps asking for something when the signals stay as they are.

Nothing but its own state and the state of charging that it publishes moves it then, and the
second is read back at the next evaluation (`SessionInputs.showing`).

* `SessionMachine.ticksLeft`: how many evaluations are to come that ask for something. It
  follows the ways of the machine from the states that it stays in;
* `settles_step`: an evaluation asks for nothing and changes nothing when none is left, and
  leaves one less otherwise;
* `ticksLeft_le`: there are never more than four;
* `Restless`: the one case that is left out. The bus is silent, so an awake machine falls
  asleep, and the auxiliary battery is being charged, so a sleeping one wakes.
-/

namespace VehicleTelemetry

/-- The signals once a state of charging has been published, if one has. -/
def SessionInputs.showing (inputs : SessionInputs) : Option ChargeState → SessionInputs
  | none => inputs
  | some state => { inputs with chargeState := state.text }

namespace SessionMachine

/-- The signals send an awake machine to sleep and wake a sleeping one. -/
def Restless (machine : SessionMachine) (inputs : SessionInputs) : Prop :=
  inputs.awake = false ∧ inputs.auxVoltage > machine.threshold inputs

/-- What an evaluation publishes of charging at last. -/
def shown (result : List SessionAction × SessionMachine) : Option ChargeState :=
  (result.1.filterMap SessionAction.shown?).getLast?

/-! ### Evaluations to come -/

variable (inputs : SessionInputs)

/-- From the open lid on, as long as the lid or the cable keeps the machine charging. -/
def plugTicks : Nat :=
  if inputs.pilotPresent then if inputs.chargingInProgress then 2 else 1 else 0

/-- From awake on. -/
def awakeTicks : Nat :=
  if !inputs.awake then 1
  else if inputs.vehicleOn then 1
  else if inputs.chargePortOpen && ChargeState.ofText? inputs.chargeState != some .done then
    plugTicks inputs + 1
  else 0

/-- From the open lid on. -/
def lidTicks : Nat :=
  if inputs.pilotPresent || inputs.chargePortOpen then plugTicks inputs
  else awakeTicks inputs + 1

/-- From the connected cable on. -/
def cableTicks : Nat :=
  if inputs.chargingInProgress then 1
  else if inputs.pilotPresent then 0
  else lidTicks inputs + 1

/-- From a state of charging on. The machine knows no other text than that of three states. -/
def chargingTicks : Option ChargeState → Nat
  | some .doorOpen => lidTicks inputs
  | some .connected => cableTicks inputs
  | some .charging => if inputs.chargingInProgress then 0 else cableTicks inputs + 1
  | some .done | none => lidTicks inputs + 1

/-- How many evaluations are to come that ask for something. -/
def ticksLeft : SessionState → Nat
  | .sleep => if inputs.awake then awakeTicks inputs + 1 else 0
  | .awake => awakeTicks inputs
  | .ready => if inputs.vehicleOn then 0 else awakeTicks inputs + 1
  | .charging => chargingTicks inputs (ChargeState.ofText? inputs.chargeState)

lemma plugTicks_le : plugTicks inputs ≤ 2 := by
  rw [plugTicks]
  split_ifs <;> decide

lemma awakeTicks_le : awakeTicks inputs ≤ 3 := by
  have hplug := plugTicks_le inputs
  rw [awakeTicks]
  split_ifs <;> omega

/-- A closed lid keeps an awake machine from charging. -/
lemma awakeTicks_of_closed (h : inputs.chargePortOpen = false) :
    awakeTicks inputs = if inputs.awake && !inputs.vehicleOn then 0 else 1 := by
  rw [awakeTicks, h]
  cases inputs.awake <;> cases inputs.vehicleOn <;> rfl

lemma lidTicks_le : lidTicks inputs ≤ 2 := by
  rw [lidTicks]
  split_ifs with hkept
  · exact plugTicks_le inputs
  · rw [Bool.or_eq_true, not_or, Bool.not_eq_true, Bool.not_eq_true] at hkept
    rw [awakeTicks_of_closed inputs hkept.2]
    split_ifs <;> decide

lemma cableTicks_le : cableTicks inputs ≤ 3 := by
  have hlid := lidTicks_le inputs
  rw [cableTicks]
  split_ifs <;> omega

lemma chargingTicks_le (state : Option ChargeState) : chargingTicks inputs state ≤ 4 := by
  have hlid := lidTicks_le inputs
  have hcable := cableTicks_le inputs
  rw [chargingTicks.eq_def]
  split
  · omega
  · omega
  · split_ifs <;> omega
  · omega
  · omega

/-- There are never more than four. -/
lemma ticksLeft_le (state : SessionState) : ticksLeft inputs state ≤ 4 := by
  have hawake := awakeTicks_le inputs
  cases state with
  | sleep =>
      rw [ticksLeft]
      split_ifs <;> omega
  | awake => exact hawake.trans (by decide)
  | ready =>
      rw [ticksLeft]
      split_ifs <;> omega
  | charging => exact chargingTicks_le inputs _

/-! ### What is published -/

/-- From the open lid on it does not count what has been published. -/
lemma lidTicks_showing (shown : Option ChargeState) :
    lidTicks (inputs.showing shown) = lidTicks inputs := by
  cases shown with
  | none => rfl
  | some state =>
      have hopen : (inputs.showing (some state)).chargePortOpen = inputs.chargePortOpen := rfl
      rw [lidTicks, lidTicks, hopen]
      cases hport : inputs.chargePortOpen with
      | true => rw [Bool.or_true, Bool.or_true]; rfl
      | false => rw [awakeTicks_of_closed _ hport, awakeTicks_of_closed _ (hopen.trans hport)]; rfl

lemma cableTicks_showing (shown : Option ChargeState) :
    cableTicks (inputs.showing shown) = cableTicks inputs := by
  cases shown with
  | none => rfl
  | some state => rw [cableTicks, lidTicks_showing]; rfl

/-- It counts for the way of a charging machine by the state that is read back. -/
lemma ticksLeft_showing (state : ChargeState) :
    ticksLeft (inputs.showing (some state)) .charging = chargingTicks inputs (some state) := by
  have hlid := lidTicks_showing inputs (some state)
  have hcable := cableTicks_showing inputs (some state)
  have htext : ChargeState.ofText? (inputs.showing (some state)).chargeState = some state :=
    state.ofText?_text
  rw [ticksLeft, htext]
  cases state with
  | doorOpen => exact hlid
  | connected => exact hcable
  | charging => rw [chargingTicks, hcable]; rfl
  | done => exact congrArg (· + 1) hlid

/-! ### Evaluations -/

variable (machine : SessionMachine) {inputs}

/-- What an evaluation comes to: nothing is asked for and nothing changes, or one evaluation less
is left by the signals that it leads to. -/
inductive Settles (inputs : SessionInputs) (machine : SessionMachine) :
    List SessionAction × SessionMachine → Prop
  | idle (hleft : ticksLeft inputs machine.state = 0) : Settles inputs machine ([], machine)
  | busy {result : List SessionAction × SessionMachine} (hasks : result.1 ≠ [])
      (hleft : ticksLeft inputs machine.state =
        ticksLeft (inputs.showing (shown result)) result.2.state + 1) :
      Settles inputs machine result

namespace Settles

lemma enter {target : SessionState} (htarget : target ≠ .charging)
    (hleft : ticksLeft inputs machine.state = ticksLeft inputs target + 1) :
    Settles inputs machine (machine.enter target) := by
  cases target with
  | sleep => exact .busy (List.cons_ne_nil _ _) hleft
  | awake => exact .busy (List.cons_ne_nil _ _) hleft
  | ready => exact .busy (List.cons_ne_nil _ _) hleft
  | charging => exact absurd rfl htarget

lemma openLid (hleft : ticksLeft inputs machine.state = lidTicks inputs + 1) :
    Settles inputs machine (machine.enter .charging) := by
  refine .busy (List.cons_ne_nil _ _) (hleft.trans (congrArg (· + 1) ?_))
  exact (ticksLeft_showing inputs .doorOpen).symm

/-- A machine that goes on charging publishes a state of charging, and may ask for more. -/
lemma publish {state : ChargeState} {more : List SessionAction}
    (hmore : more.filterMap SessionAction.shown? = []) (hcharging : machine.state = .charging)
    (hleft : ticksLeft inputs machine.state = chargingTicks inputs (some state) + 1) :
    Settles inputs machine (.setChargeState state :: more, machine) := by
  have hshown : shown (.setChargeState state :: more, machine) = some state := by
    rw [shown, List.filterMap_cons, hmore]
    rfl
  refine .busy (List.cons_ne_nil _ _) ?_
  rw [hleft, hshown, hcharging, ticksLeft_showing]

end Settles

variable {machine} in
/-- A charging machine goes by the state that is published. -/
lemma ticksLeft_of_text {state : ChargeState} (hstate : machine.state = .charging)
    (htext : inputs.chargeState = state.text) :
    ticksLeft inputs machine.state = chargingTicks inputs (some state) := by
  rw [hstate, ticksLeft, htext, state.ofText?_text]

variable {machine} in
/-- Any other text is replaced by the open lid first. -/
lemma ticksLeft_of_other (hstate : machine.state = .charging)
    (hother : ∀ state : ChargeState, inputs.chargeState = state.text → state = .done) :
    ticksLeft inputs machine.state = lidTicks inputs + 1 := by
  rw [hstate, ticksLeft]
  cases hshown : ChargeState.ofText? inputs.chargeState with
  | none => rfl
  | some state =>
      obtain rfl := hother state (ChargeState.ofText?_eq_some_iff.mp hshown)
      rfl

/-- An evaluation comes to one of the two, unless the signals let the machine have no rest. -/
lemma settles_step (h : ¬ machine.Restless inputs) :
    Settles inputs machine (machine.step inputs).value := by
  have hway := machine.evaluates_step inputs
  generalize (machine.step inputs).value = result at hway ⊢
  -- on each way, what is left before it is one more than what is left after, by the definitions
  cases hway with
  | wake hstate hawake => exact .enter machine nofun (by simp [hstate, ticksLeft, hawake])
  | wakeByVoltage hstate hsilent hvoltage => exact absurd ⟨hsilent, hvoltage⟩ h
  | sleepOn hstate hsilent => exact .idle (by simp [hstate, ticksLeft, hsilent])
  | fallAsleep hstate hsilent =>
      exact .enter machine nofun (by simp [hstate, ticksLeft, awakeTicks, hsilent])
  | getReady hstate hawake hon =>
      exact .enter machine nofun (by simp [hstate, ticksLeft, awakeTicks, hawake, hon])
  | openLid hstate hawake hoff hopen =>
      refine .openLid machine ?_
      rw [Bool.and_eq_true] at hopen
      simp [hstate, ticksLeft, awakeTicks, lidTicks, hawake, hoff, hopen]
  | stayAwake hstate hawake hoff hclosed =>
      refine .idle ?_
      simp [hstate, ticksLeft, awakeTicks, hawake, hoff, hclosed]
  | stayReady hstate hon => exact .idle (by simp [hstate, ticksLeft, hon])
  | switchOff hstate hoff => exact .enter machine nofun (by simp [hstate, ticksLeft, hoff])
  | plugIn hstate htext hpilot =>
      refine .publish machine rfl hstate ?_
      rw [ticksLeft_of_text hstate htext]
      cases hcharging : inputs.chargingInProgress <;>
        simp [chargingTicks, lidTicks, cableTicks, plugTicks, hpilot, hcharging]
  | stayOpen hstate htext hpilot hopen =>
      refine .idle ?_
      rw [ticksLeft_of_text hstate htext]
      simp [chargingTicks, lidTicks, plugTicks, hpilot, hopen]
  | closeLid hstate htext hpilot hclosed =>
      refine .enter machine nofun ?_
      rw [ticksLeft_of_text hstate htext]
      simp [chargingTicks, lidTicks, ticksLeft, hpilot, hclosed]
  | start hstate htext hcharging =>
      refine .publish machine rfl hstate ?_
      rw [ticksLeft_of_text hstate htext]
      simp [chargingTicks, cableTicks, hcharging]
  | stayConnected hstate htext hidle hpilot =>
      refine .idle ?_
      rw [ticksLeft_of_text hstate htext]
      simp [chargingTicks, cableTicks, hidle, hpilot]
  | unplug hstate htext hidle hpilot =>
      refine .publish machine rfl hstate ?_
      rw [ticksLeft_of_text hstate htext]
      simp [chargingTicks, cableTicks, hidle, hpilot]
  | chargeOn hstate htext hcharging =>
      refine .idle ?_
      rw [ticksLeft_of_text hstate htext]
      simp [chargingTicks, hcharging]
  | stop hstate htext hidle =>
      refine .publish machine rfl hstate ?_
      rw [ticksLeft_of_text hstate htext]
      simp [chargingTicks, hidle]
  -- the lid takes the place of a text that names no state, and its way is what is left
  | recover hstate hother => exact .publish machine rfl hstate (ticksLeft_of_other hstate hother)

/-! ### No rest -/

/-- A sleeping machine that has no rest resets the bus and wakes. -/
lemma Restless.wakes (h : machine.Restless inputs) (hstate : machine.state = .sleep) :
    (machine.step inputs).value =
      ([.resetBus, .transition .sleep .awake], { machine with state := .awake }) := by
  obtain ⟨hawake, haux⟩ := h
  rw [step, hstate]
  simp only [Logged.value_ite]
  rw [hawake, if_neg Bool.false_ne_true, if_pos haux]
  simp only [Logged.value_bind, Logged.value_pure, enter, entryActions, hstate]

/-- An awake one falls asleep. -/
lemma Restless.fallsAsleep (h : machine.Restless inputs) (hstate : machine.state = .awake) :
    (machine.step inputs).value =
      ([.transition .awake .sleep], { machine with state := .sleep }) := by
  rw [step, hstate]
  simp only [Logged.value_ite]
  rw [h.1, if_pos Bool.not_false]
  simp only [Logged.value_pure, enter, entryActions, hstate]

/-- No evaluation changes the machine's setting. -/
lemma margin_step (inputs : SessionInputs) :
    (machine.step inputs).value.2.margin = machine.margin := by
  have hmoves := machine.moves_step inputs
  generalize (machine.step inputs).value = result at hmoves
  cases hmoves <;> rfl

end SessionMachine

end VehicleTelemetry
