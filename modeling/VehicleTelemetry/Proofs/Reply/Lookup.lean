import Mathlib.Tactic
import VehicleTelemetry.Vehicle.Replies

/-!
Which action a reply finds.

* `ReplyTable.action?` reads a table as a map from pairs of sender and data
  identifier; `action?_register` and `action?_registerEcu` say how the table
  grows, and `value_dispatch` that dispatching is applying the action found;
* `PlatformReply` lists the thirteen replies that the platform decodes, and
  `action?_platformTable` that its table has an action for these only.
-/

namespace VehicleTelemetry

/-! ### A table as a map -/

/-- The outcome that an action's result stands for. -/
def ReplyOutcome.ofResult : Except PayloadError Disposition → ReplyOutcome
  | .ok .applied => .applied
  | .ok (.gated reason) => .gated reason
  | .error cause => .refused cause

lemma ReplyOutcome.ofResult_injective : Function.Injective ofResult := by
  rintro (cause | ⟨_ | reason⟩) (cause' | ⟨_ | reason'⟩) h <;> simp_all [ofResult]

lemma ReplyOutcome.ofResult_eq_applied {result : Except PayloadError Disposition} :
    ofResult result = .applied ↔ result = .ok .applied :=
  ofResult_injective.eq_iff (b := .ok .applied)

namespace ReplyTable

variable {σ : Type} (table : ReplyTable σ) (sender other : UInt32) (pid : UInt16) (name : String)

/-- The action for a sender's data identifier. -/
def action? (table : ReplyTable σ) (sender : UInt32) (pid : UInt16) : Option (DecodeAction σ) :=
  table.handlers[sender]?.bind fun handler => handler.actions[pid]?

lemma action?_empty : (empty : ReplyTable σ).action? sender pid = none := by
  simp [action?, empty]

/-- A new handler has no actions, an old one those of the table. -/
lemma actions_handler : (table.handler sender name).actions[pid]? = table.action? sender pid := by
  rw [handler, action?, Std.ExtTreeMap.getD_eq_getD_getElem?]
  cases table.handlers[sender]? <;> simp

lemma actions_on (handler : ReplyHandler σ) (known : UInt16) (action : DecodeAction σ) :
    (handler.on known action).actions[pid]? =
      if pid = known then some action else handler.actions[pid]? := by
  rw [ReplyHandler.on, Std.ExtTreeMap.getElem?_insert]
  by_cases h : pid = known
  · simp [h]
  · simp [h, Ne.symm h]

/-- Registering a sender changes the actions of that sender only. -/
lemma action?_register (change : ReplyHandler σ → ReplyHandler σ) :
    (table.register sender name change).action? other pid =
      if other = sender then (change (table.handler sender name)).actions[pid]?
      else table.action? other pid := by
  rw [action?, register, Std.ExtTreeMap.getElem?_insert]
  by_cases h : other = sender
  · simp [h]
  · simp [h, Ne.symm h, action?]

/-- Expecting replies that nobody asked for changes no action. -/
lemma action?_silence :
    (table.register sender name ReplyHandler.silence).action? other pid =
      table.action? other pid := by
  rw [action?_register]
  split
  · next h => rw [h, ← actions_handler table sender pid name]; rfl
  · rfl

/-- What dispatching does, reports apart: a reply without an action leaves the
target alone, and any other is applied by its action. -/
lemma value_dispatch (reply : Reply) (target : σ) :
    (table.dispatch reply target).value =
      match table.action? reply.sender reply.pid with
      | some action =>
        let result := (action reply.time reply.payload target).value
        (result.1, ReplyOutcome.ofResult result.2)
      | none =>
        (target, match table.handlers[reply.sender]? with
          | some _ => .unknownPid reply.sender reply.pid
          | none => .unknownSender reply.sender) := by
  rw [dispatch, action?]
  cases table.handlers[reply.sender]? with
  | none => rfl
  | some handler =>
    simp only [Option.bind_some]
    cases handler.actions[reply.pid]? with
    | none => rfl
    | some action =>
      simp only [Logged.value_bind]
      rcases (action reply.time reply.payload target).value with ⟨after, cause | ⟨_ | reason⟩⟩ <;>
        rfl

end ReplyTable

/-! ### The platform's table -/

/-- Setting actions one after the other finds one of them, or what was there. -/
lemma ReplyHandler.actions_foldl_on {σ : Type} (entries : List (Pid × DecodeAction σ))
    (handler : ReplyHandler σ) {pid : UInt16} {action : DecodeAction σ}
    (h : (entries.foldl (fun handler (pid, action) => handler.on pid.number action)
      handler).actions[pid]? = some action) :
    (∃ known, (known, action) ∈ entries ∧ pid = known.number) ∨
      handler.actions[pid]? = some action := by
  induction entries generalizing handler with
  | nil => exact .inr h
  | cons entry rest ih =>
    obtain ⟨known, hmem, hpid⟩ | hold := ih _ h
    · exact .inl ⟨known, List.mem_cons_of_mem _ hmem, hpid⟩
    · rw [ReplyTable.actions_on] at hold
      split at hold
      · next hpid => exact .inl ⟨entry.1, by simp [← Option.some.inj hold], hpid⟩
      · exact .inr hold

/-- An action of a table with one more control unit is one of the unit's, or
was there before. -/
lemma ReplyTable.action?_registerEcu (table : ReplyTable Recorder) (ecu : Ecu)
    (entries : List (Pid × DecodeAction Recorder)) {sender : UInt32} {pid : UInt16}
    {action : DecodeAction Recorder}
    (h : (table.registerEcu ecu entries).action? sender pid = some action) :
    (sender = ecu.responseId ∧ ∃ known, (known, action) ∈ entries ∧ pid = known.number) ∨
      table.action? sender pid = some action := by
  rw [registerEcu, action?_register] at h
  split at h
  · next hsender =>
    subst hsender
    obtain hnew | hold := ReplyHandler.actions_foldl_on entries _ h
    · exact .inl ⟨rfl, hnew⟩
    · exact .inr (by rwa [actions_handler] at hold)
  · exact .inr h

/-- The replies that the platform decodes. -/
inductive PlatformReply : Ecu → Pid → DecodeAction Recorder → Prop
  | packReading :
      PlatformReply .hybridControl .batteryVoltageAndCurrent ReplyAction.packReading
  | ready : PlatformReply .hybridControl .readySignal ReplyAction.ready
  | shiftPosition : PlatformReply .hybridControl .shiftPosition ReplyAction.shiftPosition
  | chargingLid : PlatformReply .plugInControl .chargingLid ReplyAction.chargingLid
  | batterySoc : PlatformReply .plugInControl .batterySoc ReplyAction.batterySoc
  | pilot : PlatformReply .plugInControl .piswStatus ReplyAction.pilot
  | charging : PlatformReply .plugInControl .charging ReplyAction.charging
  | batteryChargingPower :
      PlatformReply .plugInControl .batteryChargingPower ReplyAction.batteryChargingPower
  | chargerInputPower :
      PlatformReply .plugInControl .chargerInputPower ReplyAction.chargerInputPower
  | batteryTemperatures :
      PlatformReply .hybridBattery .batteryTemperatures ReplyAction.batteryTemperatures
  | odometer : PlatformReply .powertrain .odometer ReplyAction.odometer
  | vehicleSpeed : PlatformReply .powertrain .vehicleSpeed ReplyAction.vehicleSpeed
  | ambientTemperature :
      PlatformReply .powertrain .ambientTemperature ReplyAction.ambientTemperature

/-- The platform's table has no other action. -/
lemma action?_platformTable {sender : UInt32} {number : UInt16} {action : DecodeAction Recorder}
    (h : platformTable.action? sender number = some action) :
    ∃ ecu pid, sender = ecu.responseId ∧ number = pid.number ∧ PlatformReply ecu pid action := by
  rw [platformTable, ReplyTable.action?_silence] at h
  -- the units in turn, the last one first
  obtain ⟨hs, pid, hmem, hp⟩ | h := ReplyTable.action?_registerEcu _ _ _ h
  · simp only [List.mem_cons, Prod.mk.injEq, List.not_mem_nil, or_false] at hmem
    rcases hmem with ⟨rfl, rfl⟩ | ⟨rfl, rfl⟩ | ⟨rfl, rfl⟩
    · exact ⟨_, _, hs, hp, .odometer⟩
    · exact ⟨_, _, hs, hp, .vehicleSpeed⟩
    · exact ⟨_, _, hs, hp, .ambientTemperature⟩
  obtain ⟨hs, pid, hmem, hp⟩ | h := ReplyTable.action?_registerEcu _ _ _ h
  · simp only [List.mem_cons, Prod.mk.injEq, List.not_mem_nil, or_false] at hmem
    rcases hmem with ⟨rfl, rfl⟩
    exact ⟨_, _, hs, hp, .batteryTemperatures⟩
  obtain ⟨hs, pid, hmem, hp⟩ | h := ReplyTable.action?_registerEcu _ _ _ h
  · simp only [List.mem_cons, Prod.mk.injEq, List.not_mem_nil, or_false] at hmem
    rcases hmem with ⟨rfl, rfl⟩ | ⟨rfl, rfl⟩ | ⟨rfl, rfl⟩ | ⟨rfl, rfl⟩ | ⟨rfl, rfl⟩ | ⟨rfl, rfl⟩
    · exact ⟨_, _, hs, hp, .chargingLid⟩
    · exact ⟨_, _, hs, hp, .batterySoc⟩
    · exact ⟨_, _, hs, hp, .pilot⟩
    · exact ⟨_, _, hs, hp, .charging⟩
    · exact ⟨_, _, hs, hp, .batteryChargingPower⟩
    · exact ⟨_, _, hs, hp, .chargerInputPower⟩
  obtain ⟨hs, pid, hmem, hp⟩ | h := ReplyTable.action?_registerEcu _ _ _ h
  · simp only [List.mem_cons, Prod.mk.injEq, List.not_mem_nil, or_false] at hmem
    rcases hmem with ⟨rfl, rfl⟩ | ⟨rfl, rfl⟩ | ⟨rfl, rfl⟩
    · exact ⟨_, _, hs, hp, .packReading⟩
    · exact ⟨_, _, hs, hp, .ready⟩
    · exact ⟨_, _, hs, hp, .shiftPosition⟩
  rw [ReplyTable.action?_empty] at h
  cases h

end VehicleTelemetry
