import Mathlib.Tactic
import VehicleTelemetry.Proofs.Recorder.Alike
import VehicleTelemetry.Proofs.Reply.Effect

/-!
Replies do not depend on the answers to requests.

* `ReplyAction.Respects`: an action that gives alike recorders the same result, and
  leaves them alike;
* `Alike.effect_eq`, `Alike.take`: alike recorders have the same effects, and carrying one
  out leaves them alike;
* `PlatformReply.respects`: every action of the platform respects alike recorders, and
  `alike_dispatch` is the same for the whole table.
-/

namespace VehicleTelemetry

namespace ReplyAction

/-- An action gives recorders that differ in answers to requests the same result,
and makes no other difference between them. -/
def Respects (action : DecodeAction Recorder) : Prop :=
  ∀ ⦃r s : Recorder⦄, r.Alike s → ∀ time payload,
    (action time payload s).value.2 = (action time payload r).value.2 ∧
      (action time payload r).value.1.Alike (action time payload s).value.1

end ReplyAction

namespace Recorder.Alike

variable {r s : Recorder} (h : r.Alike s) (now : Nat)
include h

/-- The same effect makes no other difference between recorders. -/
lemma take (result : Except ReplyOutcome ReplyEffect) :
    (s.take now result).2 = (r.take now result).2 ∧
      (r.take now result).1.Alike (s.take now result).1 := by
  cases result with
  | error outcome => exact ⟨rfl, h⟩
  | ok effect =>
      exact ⟨rfl, congrArg (EnergyMeter.recordAll · effect.events) h.meter_eq,
        h.changesOnly.setAll_both now effect.writes⟩

/-- No effect depends on an answer to a request. -/
lemma effect_eq (pid : Pid) (data : Payload) : pid.effect s now data = pid.effect r now data := by
  have hreads : ∀ pid ∈ Pid.all, ∀ name ∈ pid.reads, name ∉ Signal.answered := by decide
  exact Pid.effect_congr (fun name hname => h.changesOnly name (hreads pid pid.mem_all name hname))
    fun c _ => congrArg (EnergyMeter.channel · c) h.meter_eq

end Recorder.Alike

/-- No action of the platform reads an answer to a request. -/
lemma PlatformReply.respects {ecu : Ecu} {pid : Pid} {action : DecodeAction Recorder}
    (h : PlatformReply ecu pid action) : ReplyAction.Respects action := by
  intro r s halike time payload
  have htake := halike.take time (pid.effect r time payload)
  rw [← h.outcome_eq r, ← halike.effect_eq time pid payload, ← h.outcome_eq s] at htake
  exact ⟨ReplyOutcome.ofResult_injective htake.1, htake.2⟩

/-- The outcome of a reply does not depend on the answers to requests, and makes no
other difference. -/
lemma alike_dispatch {r s : Recorder} (h : r.Alike s) (reply : Reply) :
    (platformTable.dispatch reply s).value.2 = (platformTable.dispatch reply r).value.2 ∧
      (platformTable.dispatch reply r).value.1.Alike (platformTable.dispatch reply s).value.1 := by
  rw [ReplyTable.value_dispatch, ReplyTable.value_dispatch]
  cases haction : platformTable.action? reply.sender reply.pid with
  | none => exact ⟨rfl, h⟩
  | some action =>
      obtain ⟨ecu, pid, -, -, hreply⟩ := action?_platformTable haction
      obtain ⟨hresult, halike⟩ := hreply.respects h reply.time reply.payload
      exact ⟨congrArg ReplyOutcome.ofResult hresult, halike⟩

end VehicleTelemetry
