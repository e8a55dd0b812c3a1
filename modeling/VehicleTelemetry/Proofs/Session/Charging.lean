import Mathlib.Tactic
import VehicleTelemetry.Proofs.Session.Evaluation

/-!
What an evaluation of the session machine makes of the state of charging.

* `ChargeState.Edge`: the four ways from one state of charging to another, each
  with the signals that it takes;
* `SessionAction.shown?`: the state of charging that an action publishes;
* `SessionMachine.Leads`: all that an evaluation can come to, for the session and
  for the published state of charging together; `led_step` says so of every
  evaluation;
* `Leads.closes_iff`, `Leads.shows`, `Leads.stays_or_moves` read off it when the
  machine stops charging and what is published while it does not;
* `SessionMachine.StartsCharge`: when the machine asks for the charge mode and for the
  connector, and `not_request_step` that it does not do so at any other time.
-/

namespace VehicleTelemetry

namespace ChargeState

/-- The ways from one state of charging to another, by the signals. -/
inductive Edge (inputs : SessionInputs) : ChargeState → ChargeState → Prop
  | plugIn (hpilot : inputs.pilotPresent = true) : Edge inputs .doorOpen .connected
  | start (hcharging : inputs.chargingInProgress = true) : Edge inputs .connected .charging
  | unplug (hidle : inputs.chargingInProgress = false) (hpilot : inputs.pilotPresent = false) :
      Edge inputs .connected .doorOpen
  | stop (hidle : inputs.chargingInProgress = false) : Edge inputs .charging .connected

lemma Edge.ne_done {inputs : SessionInputs} {state next : ChargeState}
    (h : Edge inputs state next) : next ≠ .done := by
  cases h <;> decide

end ChargeState

/-- The state of charging that an action publishes, if it publishes one. -/
def SessionAction.shown? : SessionAction → Option ChargeState
  | .setChargeState state => some state
  | _ => none

/-- The open lid is all that charging has come to, and nothing is plugged in, and
the lid is closed by now. -/
structure SessionInputs.LidClosed (inputs : SessionInputs) : Prop where
  chargeState_eq : inputs.chargeState = ChargeState.doorOpen.text
  pilotPresent_eq : inputs.pilotPresent = false
  chargePortOpen_eq : inputs.chargePortOpen = false

namespace SessionMachine

variable {inputs : SessionInputs}

/-- What an evaluation can come to: the state of the session before it, the state
of charging that it publishes, and the state of the session after it. -/
inductive Leads (inputs : SessionInputs) :
    SessionState → Option ChargeState → SessionState → Prop
  | elsewhere {source target : SessionState} (hsource : source ≠ .charging)
      (htarget : target ≠ .charging) : Leads inputs source none target
  | openLid {source : SessionState} (hsource : source ≠ .charging) :
      Leads inputs source (some .doorOpen) .charging
  | keep {state : ChargeState} (htext : inputs.chargeState = state.text) (hdone : state ≠ .done)
      (hstill : ∀ next, ¬ ChargeState.Edge inputs state next) (hopen : ¬ inputs.LidClosed) :
      Leads inputs .charging none .charging
  | move {state next : ChargeState} (htext : inputs.chargeState = state.text)
      (hedge : ChargeState.Edge inputs state next) : Leads inputs .charging (some next) .charging
  | recover (htext : ∀ state : ChargeState, inputs.chargeState = state.text → state = .done) :
      Leads inputs .charging (some .doorOpen) .charging
  | closeLid (hclosed : inputs.LidClosed) : Leads inputs .charging none .awake

namespace Leads

variable {source target : SessionState} {shown : Option ChargeState}

/-- A charging machine stops only when the lid is closed, and then it wakes. -/
lemma closes_iff (h : Leads inputs .charging shown target) :
    (target = .charging ∨ target = .awake) ∧ (target = .awake ↔ inputs.LidClosed) := by
  cases h with
  | elsewhere hsource => exact absurd rfl hsource
  | openLid hsource => exact absurd rfl hsource
  | keep htext hdone hstill hopen => exact ⟨.inl rfl, nofun, fun hclosed => absurd hclosed hopen⟩
  | move htext hedge =>
      refine ⟨.inl rfl, nofun, fun hclosed => ?_⟩
      obtain rfl := ChargeState.text_injective (htext.symm.trans hclosed.chargeState_eq)
      cases hedge with
      | plugIn hpilot =>
          rw [hclosed.pilotPresent_eq] at hpilot
          cases hpilot
  | recover htext =>
      refine ⟨.inl rfl, nofun, fun hclosed => ?_⟩
      cases htext .doorOpen hclosed.chargeState_eq
  | closeLid hclosed => exact ⟨.inr rfl, fun _ => hclosed, fun _ => rfl⟩

/-- Whatever is published is published by a machine that charges from then on, and
it is not the end of charging. -/
lemma of_shown {state : ChargeState} (h : Leads inputs source (some state) target) :
    state ≠ .done ∧ target = .charging := by
  cases h with
  | openLid hsource => exact ⟨nofun, rfl⟩
  | move htext hedge => exact ⟨hedge.ne_done, rfl⟩
  | recover htext => exact ⟨nofun, rfl⟩

/-- A machine that charges has published the state of charging, or finds one of
the three texts that it leads from. -/
lemma shows (h : Leads inputs source shown .charging) :
    ∃ state, state ≠ .done ∧
      (shown = some state ∨ shown = none ∧ inputs.chargeState = state.text) := by
  cases h with
  | elsewhere hsource htarget => exact absurd rfl htarget
  | openLid hsource => exact ⟨.doorOpen, nofun, .inl rfl⟩
  | keep htext hdone hstill hopen => exact ⟨_, hdone, .inr ⟨rfl, htext⟩⟩
  | move htext hedge => exact ⟨_, hedge.ne_done, .inl rfl⟩
  | recover htext => exact ⟨.doorOpen, nofun, .inl rfl⟩

/-- A charging machine takes an edge from the state of charging if there is one, and
leaves it as it is otherwise. -/
lemma stays_or_moves {state : ChargeState} (h : Leads inputs .charging shown target)
    (htext : inputs.chargeState = state.text) (hdone : state ≠ .done) :
    (shown = none ∧ ∀ next, ¬ ChargeState.Edge inputs state next) ∨
      ∃ next, shown = some next ∧ ChargeState.Edge inputs state next := by
  cases h with
  | elsewhere hsource => exact absurd rfl hsource
  | openLid hsource => exact absurd rfl hsource
  | keep htext' hdone' hstill hopen =>
      obtain rfl := ChargeState.text_injective (htext'.symm.trans htext)
      exact .inl ⟨rfl, hstill⟩
  | move htext' hedge =>
      obtain rfl := ChargeState.text_injective (htext'.symm.trans htext)
      exact .inr ⟨_, rfl, hedge⟩
  | recover hother => exact absurd (hother state htext) hdone
  | closeLid hclosed =>
      obtain rfl := ChargeState.text_injective (htext.symm.trans hclosed.chargeState_eq)
      refine .inl ⟨rfl, fun next hedge => ?_⟩
      cases hedge with
      | plugIn hpilot =>
          rw [hclosed.pilotPresent_eq] at hpilot
          cases hpilot

end Leads

/-! ### Evaluations -/

/-- What an evaluation publishes of charging, and where it ends. -/
def Led (inputs : SessionInputs) (source : SessionState)
    (result : List SessionAction × SessionMachine) : Prop :=
  ∃ shown : Option ChargeState, result.1.filterMap SessionAction.shown? = shown.toList ∧
    Leads inputs source shown result.2.state

variable (machine : SessionMachine) (inputs)

namespace Led

variable {machine} {inputs} {actions : List SessionAction}

/-- Outside of charging the session alone matters. -/
lemma elsewhere {target : SessionState} (hsource : machine.state ≠ .charging)
    (htarget : target ≠ .charging) (hnothing : actions.filterMap SessionAction.shown? = []) :
    Led inputs machine.state (actions, { machine with state := target }) :=
  ⟨none, hnothing, .elsewhere hsource htarget⟩

/-- While the machine goes on charging, it is the text that is published. -/
lemma charging {shown : Option ChargeState} (hstate : machine.state = .charging)
    (hshown : actions.filterMap SessionAction.shown? = shown.toList)
    (hleads : Leads inputs .charging shown .charging) :
    Led inputs machine.state (actions, machine) :=
  ⟨shown, hshown, by rwa [hstate]⟩

end Led

/-- Whatever the signals are, an evaluation leads the state of charging. -/
lemma led_step : Led inputs machine.state (machine.step inputs).value := by
  have hway := machine.evaluates_step inputs
  generalize (machine.step inputs).value = result at hway ⊢
  cases hway with
  | wake hstate | wakeByVoltage hstate | fallAsleep hstate | getReady hstate | switchOff hstate =>
      exact .elsewhere (by simp [hstate]) nofun rfl
  | sleepOn hstate | stayAwake hstate | stayReady hstate =>
      exact .elsewhere (by simp [hstate]) (by simp [hstate]) rfl
  | openLid hstate => exact ⟨some .doorOpen, rfl, .openLid (by simp [hstate])⟩
  | plugIn hstate htext hpilot => exact .charging hstate rfl (.move htext (.plugIn hpilot))
  -- where nothing is published, the guards that were refused leave no edge to walk
  | stayOpen hstate htext hpilot hopen =>
      refine .charging hstate rfl (.keep htext nofun (fun next hedge => ?_) fun hclosed => ?_)
      · cases hedge with
        | plugIn hpresent => simp [hpilot] at hpresent
      · simp [hclosed.chargePortOpen_eq] at hopen
  | closeLid hstate htext hpilot hclosed =>
      exact ⟨none, rfl, by rw [hstate]; exact .closeLid ⟨htext, hpilot, hclosed⟩⟩
  | start hstate htext hstarts => exact .charging hstate rfl (.move htext (.start hstarts))
  | stayConnected hstate htext hidle hpilot =>
      refine .charging hstate rfl (.keep htext nofun (fun next hedge => ?_) fun hclosed => ?_)
      · cases hedge with
        | start hstarts => simp [hidle] at hstarts
        | unplug _ habsent => simp [hpilot] at habsent
      · cases ChargeState.text_injective (htext.symm.trans hclosed.chargeState_eq)
  | unplug hstate htext hidle hpilot =>
      exact .charging hstate rfl (.move htext (.unplug hidle hpilot))
  | chargeOn hstate htext hgoes =>
      refine .charging hstate rfl (.keep htext nofun (fun next hedge => ?_) fun hclosed => ?_)
      · cases hedge with
        | stop hidle => simp [hgoes] at hidle
      · cases ChargeState.text_injective (htext.symm.trans hclosed.chargeState_eq)
  | stop hstate htext hidle => exact .charging hstate rfl (.move htext (.stop hidle))
  | recover hstate hother => exact .charging hstate rfl (.recover hother)

/-! ### Requests -/

/-- The machine finds the cable connected and that charging has begun. -/
structure StartsCharge (machine : SessionMachine) (inputs : SessionInputs) : Prop where
  state_eq : machine.state = .charging
  chargeState_eq : inputs.chargeState = ChargeState.connected.text
  chargingInProgress_eq : inputs.chargingInProgress = true

/-- Then it asks for the charge mode and for the connector. -/
lemma StartsCharge.step_eq {machine : SessionMachine} (h : machine.StartsCharge inputs) :
    (machine.step inputs).value =
      ([.setChargeState .charging, .requestChargeMode, .requestChargeType], machine) := by
  have hstate := ChargeState.connected.ofText?_text
  simp only [step, h.state_eq, stepCharging, h.chargeState_eq, hstate, h.chargingInProgress_eq,
    if_true, Logged.value_pure]

/-- It asks for them at no other time. -/
lemma not_request_step (h : ¬ machine.StartsCharge inputs) :
    ∀ action ∈ (machine.step inputs).value.1,
      action ≠ .requestChargeMode ∧ action ≠ .requestChargeType := by
  have hway := machine.evaluates_step inputs
  generalize (machine.step inputs).value = result at hway ⊢
  cases hway with
  | start hstate htext hcharging => exact absurd ⟨hstate, htext, hcharging⟩ h
  | _ => simp [enter, entryActions]

end SessionMachine

end VehicleTelemetry
