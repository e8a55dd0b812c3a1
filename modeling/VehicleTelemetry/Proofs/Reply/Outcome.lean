import Mathlib.Tactic
import VehicleTelemetry.Proofs.Reply.Effect

/-!
What becomes of the recorder when a reply is dispatched.

Each action carries out the effect of its payload or none at all, so that two things hold
of all thirteen at once:

* `PlatformReply.changesOnly`: an action writes the metrics of its data identifier only, and
  `changesOnly_dispatch_ofPid`, `changesOnly_dispatch` are the same for the whole table;
* `AllOrNothing`: an action applies its payload, or leaves its target as it is
  (`PlatformReply.allOrNothing`).

`exists_of_dispatch_applied` and `dispatch_of_not_applied` are the two ways through the
whole table.
-/

namespace VehicleTelemetry

open MetricStore (ChangesOnly)

/-- An action either applies a payload or leaves its target as it is. -/
def AllOrNothing {σ : Type} (action : DecodeAction σ) : Prop :=
  ∀ time payload target, (action time payload target).value.2 ≠ .ok .applied →
    (action time payload target).value.1 = target

/-- A payload that is applied has been decoded and recorded. -/
lemma ReplyAction.exists_of_recording_applied {α : Type} {decode : Payload → Except PayloadError α}
    {time : Nat} {payload : Payload} {r : Recorder} {record : Recorder → Nat → α → Logged Recorder}
    (h : (recording decode record time payload r).value.2 = .ok .applied) :
    ∃ reading, decode payload = .ok reading ∧
      (recording decode record time payload r).value.1 = (record r time reading).value := by
  rw [value_recording] at h ⊢
  cases hdecode : decode payload with
  | error cause =>
      rw [hdecode] at h
      cases h
  | ok reading => exact ⟨reading, rfl, rfl⟩

namespace PlatformReply

variable {ecu : Ecu} {pid : Pid} {action : DecodeAction Recorder}

/-- An action of the platform writes the metrics of its data identifier only. -/
lemma changesOnly (h : PlatformReply ecu pid action) (time : Nat) (payload : Payload)
    (r : Recorder) : ChangesOnly pid.signals r.store (action time payload r).value.1.store := by
  have hresult : (action time payload r).value.1 =
      (r.take time (pid.effect r time payload)).1 :=
    congrArg Prod.fst (h.outcome_eq r time payload)
  rw [hresult]
  exact Pid.changesOnly_take

/-- Every action of the platform applies its payload or leaves no trace. -/
lemma allOrNothing (h : PlatformReply ecu pid action) : AllOrNothing action := by
  intro time payload r hnot
  have houtcome := h.outcome_eq r time payload
  cases heffect : pid.effect r time payload with
  | error outcome =>
      rw [heffect] at houtcome
      exact congrArg Prod.fst houtcome
  | ok effect =>
      rw [heffect] at houtcome
      exact absurd (ReplyOutcome.ofResult_eq_applied.mp (congrArg Prod.snd houtcome)) hnot

end PlatformReply

/-! ### The whole table -/

/-- A reply writes the metrics of its data identifier only, whatever becomes of it. -/
lemma changesOnly_dispatch_ofPid (reply : Reply) (r : Recorder) :
    ChangesOnly (Signal.ofPid reply.pid) r.store
      (platformTable.dispatch reply r).value.1.store := by
  rw [ReplyTable.value_dispatch]
  cases haction : platformTable.action? reply.sender reply.pid with
  | none => exact .refl _ _
  | some action =>
      obtain ⟨ecu, pid, -, hpid, hreply⟩ := action?_platformTable haction
      rw [hpid, Signal.ofPid, Pid.ofNumber?_number]
      exact hreply.changesOnly reply.time reply.payload r

/-- A reply writes no other metric, whatever becomes of it. -/
lemma changesOnly_dispatch (reply : Reply) (r : Recorder) :
    ChangesOnly Signal.replied r.store (platformTable.dispatch reply r).value.1.store :=
  (changesOnly_dispatch_ofPid reply r).mono (Signal.ofPid_subset reply.pid)

/-- A reply that the platform's table applies is one of the thirteen. -/
lemma exists_of_dispatch_applied {reply : Reply} {r : Recorder}
    (h : (platformTable.dispatch reply r).value.2 = .applied) :
    ∃ ecu pid action, PlatformReply ecu pid action ∧ reply.sender = ecu.responseId ∧
      reply.pid = pid.number ∧ (action reply.time reply.payload r).value.2 = .ok .applied ∧
      (platformTable.dispatch reply r).value.1 = (action reply.time reply.payload r).value.1 := by
  rw [ReplyTable.value_dispatch] at h ⊢
  cases haction : platformTable.action? reply.sender reply.pid with
  | none =>
      rw [haction] at h
      cases hhandler : platformTable.handlers[reply.sender]? <;> simp [hhandler] at h
  | some action =>
      obtain ⟨ecu, pid, hsender, hpid, hreply⟩ := action?_platformTable haction
      rw [haction] at h
      exact ⟨ecu, pid, action, hreply, hsender, hpid, ReplyOutcome.ofResult_eq_applied.mp h, rfl⟩

/-- A reply that the platform's table does not apply leaves the recorder as it is. -/
lemma dispatch_of_not_applied (reply : Reply) (r : Recorder)
    (h : (platformTable.dispatch reply r).value.2 ≠ .applied) :
    (platformTable.dispatch reply r).value.1 = r := by
  rw [ReplyTable.value_dispatch] at h ⊢
  cases haction : platformTable.action? reply.sender reply.pid with
  | none => rfl
  | some action =>
      obtain ⟨ecu, pid, -, -, hreply⟩ := action?_platformTable haction
      refine hreply.allOrNothing reply.time reply.payload r fun happlied => ?_
      rw [haction] at h
      exact h (ReplyOutcome.ofResult_eq_applied.mpr happlied)

end VehicleTelemetry
