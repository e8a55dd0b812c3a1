import Mathlib.Tactic
import VehicleTelemetry.Proofs.Reply.Independent
import VehicleTelemetry.Proofs.Vehicle.Run

/-!
Replies that come at the same time can be delivered in either order, but for four pairs.

* `Vehicle.Commute`: two chunks have the same outcomes in either order and leave the same
  vehicle;
* `not_commute_of_coupledKeys`: each of the four pairs has payloads with which a new
  vehicle tells the orders apart;
* `receiveChunk_comm`: no vehicle does so for any other pair, whatever the payloads.
-/

namespace VehicleTelemetry

/-- The sender and the data identifier of a chunk. -/
def Chunk.key (chunk : Chunk) : UInt32 × UInt16 :=
  (chunk.sender, chunk.pid)

namespace Vehicle

variable {ρ : Type}

/-- Two chunks have the same outcomes in either order and leave the same vehicle. -/
def Commute (v : Vehicle ρ) (now : Nat) (chunk other : Chunk) : Prop :=
  let first := (v.receiveChunk now chunk).value
  let second := (v.receiveChunk now other).value
  let firstAfter := (second.1.receiveChunk now chunk).value
  let secondAfter := (first.1.receiveChunk now other).value
  firstAfter.2 = first.2 ∧ secondAfter.2 = second.2 ∧ secondAfter.1 = firstAfter.1

lemma Commute.symm {v : Vehicle ρ} {now : Nat} {chunk other : Chunk}
    (h : v.Commute now chunk other) : v.Commute now other chunk := by
  obtain ⟨hfirst, hsecond, hvehicle⟩ := h
  exact ⟨hsecond, hfirst, hvehicle.symm⟩

/-- Whole responses that are not coupled commute. -/
lemma commute_of_not_coupledKeys (v : Vehicle ρ) (now : Nat) {chunk other : Chunk}
    (hchunk : chunk.Whole) (hother : other.Whole) (hne : chunk.key ≠ other.key)
    (h : ¬ CoupledKeys chunk.key other.key) : v.Commute now chunk other := by
  have htime : (other.reply now).time = (chunk.reply now).time := rfl
  obtain ⟨hfirst, hsecond, hrecorder⟩ := dispatch_comm htime hne h v.recorder
  rw [Commute, v.value_receiveChunk_of_whole now hchunk, v.value_receiveChunk_of_whole now hother,
    value_receiveChunk_of_whole _ now hchunk, value_receiveChunk_of_whole _ now hother]
  dsimp only
  rw [hfirst, hsecond, hrecorder, v.reassembly.receive_comm_of_whole hchunk hother]
  exact ⟨rfl, rfl, rfl⟩

/-- A payload that switches ready and charging on, and that is no zero power. -/
def ones : List UInt8 := List.replicate 6 1

/-- A new vehicle tells the two orders of a coupled pair apart by the times of the last
samples: one order drops a sample that the other one counts. -/
lemma not_commute_of_coupledKeys {key other : UInt32 × UInt16} (h : CoupledKeys key other) :
    ¬ bench.Commute 1000 (.whole key ones) (.whole other ones) := by
  let after (first second : UInt32 × UInt16) : Vehicle Script :=
    let once := (bench.receiveChunk 1000 (.whole first ones)).value.1
    (once.receiveChunk 1000 (.whole second ones)).value.1
  -- along the list of pairs, since there are too many keys to go through
  have hall : coupledKeys.all (fun pair => (after pair.1 pair.2).recorder.meter.last !=
      (after pair.2 pair.1).recorder.meter.last) = true := by
    decide +kernel
  have hlast : ∀ pair ∈ coupledKeys,
      (after pair.1 pair.2).recorder.meter.last ≠ (after pair.2 pair.1).recorder.meter.last :=
    fun pair hmem => bne_iff_ne.mp (List.all_eq_true.mp hall pair hmem)
  intro hcommute
  obtain hmem | hmem := h
  · exact hlast (key, other) hmem (congrArg (·.recorder.meter.last) hcommute.2.2)
  · exact hlast (other, key) hmem (congrArg (·.recorder.meter.last) hcommute.symm.2.2)

/-- **Replies that come at the same time can be delivered in either order.** Take any two
whole responses that differ in sender or data identifier, whether the platform knows them
or not:

* unless they are coupled, they have the same outcomes in either order in every vehicle,
  and leave the same vehicle, with metrics, meter, session, poller and buffers;
* if they are, there are payloads that a new vehicle does not take in either order. -/
theorem receiveChunk_comm (v : Vehicle ρ) (now : Nat) {chunk other : Chunk} (hchunk : chunk.Whole)
    (hother : other.Whole) (hne : chunk.key ≠ other.key) :
    (¬ CoupledKeys chunk.key other.key → v.Commute now chunk other) ∧
      (CoupledKeys chunk.key other.key → ∃ bytes bytes',
        ¬ bench.Commute 1000 (.whole chunk.key bytes) (.whole other.key bytes')) :=
  ⟨v.commute_of_not_coupledKeys now hchunk hother hne,
    fun h => ⟨ones, ones, not_commute_of_coupledKeys h⟩⟩

/-- Ready and charging both count the battery anew, in either order; a reading of the pack
is lost if it comes before ready and counted if it comes after. -/
theorem receiveChunk_comm_ready :
    let ready := Chunk.whole (Ecu.hybridControl.responseId, Pid.readySignal.number) ones
    let charging := Chunk.whole (Ecu.plugInControl.responseId, Pid.charging.number) ones
    let pack := (Ecu.hybridControl.responseId, Pid.batteryVoltageAndCurrent.number)
    ready.key ≠ charging.key ∧ ¬ CoupledKeys ready.key charging.key ∧
      bench.Commute 1000 ready charging ∧ CoupledKeys pack ready.key ∧
      ∃ bytes bytes', ¬ bench.Commute 1000 (.whole pack bytes) (.whole ready.key bytes') := by
  intro ready charging pack
  have hapart : ready.key ≠ charging.key ∧ ¬ CoupledKeys ready.key charging.key := by decide
  have hcoupled : pack ≠ ready.key ∧ CoupledKeys pack ready.key := by decide
  have hwhole : ready.Whole ∧ charging.Whole ∧ (Chunk.whole pack ones).Whole :=
    ⟨⟨rfl, rfl⟩, ⟨rfl, rfl⟩, ⟨rfl, rfl⟩⟩
  have hcommute := (bench.receiveChunk_comm 1000 hwhole.1 hwhole.2.1 hapart.1).1 hapart.2
  have hnot := (bench.receiveChunk_comm 1000 hwhole.2.2 hwhole.1 hcoupled.1).2 hcoupled.2
  exact ⟨hapart.1, hapart.2, hcommute, hcoupled.2, hnot⟩

end Vehicle

end VehicleTelemetry
