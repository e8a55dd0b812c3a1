import Mathlib.Tactic
import VehicleTelemetry.Proofs.Recorder.Energy
import VehicleTelemetry.Proofs.Reply.Effect

/-!
Which replies can come in either order.

An effect depends on some metrics and channels and changes some (`Pid.reads`,
`Pid.sampled`, `Pid.signals`, `Pid.channels`). Two data identifiers are independent if
neither changes what the other one depends on (`Pid.Apart`) and they agree on what both
change (`ReplyEffect.Agree`). The platform's are, but for four pairs: ready and charging
clear energies, which agree with each other, but not with a sample of the pack, and
charging opens the gate for the two powers of charging.

* `Pid.coupled`: the four pairs;
* `Pid.apart_of_not_coupled`, `Pid.agree_of_not_coupled`: all other pairs are independent;
* `dispatch_comm`: replies of other pairs, at one time, can be dispatched in either order.
-/

namespace VehicleTelemetry

/-! ### Effects that agree -/

/-- Two effects agree on the metrics that both write, and what they share of a channel is
one event. -/
structure ReplyEffect.Agree (first second : ReplyEffect) : Prop where
  writes : ∀ name value next, (name, value) ∈ first.writes → (name, next) ∈ second.writes →
    value = next
  events : ∀ event ∈ first.events, ∀ other ∈ second.events, event.channel = other.channel →
    event = other

/-- Effects that agree can be carried out in either order. -/
lemma Recorder.apply_comm (r : Recorder) (now : Nat) {first second : ReplyEffect}
    (h : first.Agree second) (hfirst : (first.writes.map Prod.fst).Nodup)
    (hsecond : (second.writes.map Prod.fst).Nodup) :
    (r.apply now first).apply now second = (r.apply now second).apply now first :=
  congrArg₂ Recorder.mk (r.store.setAll_comm hfirst hsecond h.writes)
    (r.meter.recordAll_comm h.events)

namespace Pid

/-- The pairs of data identifiers whose order makes a difference. -/
def coupled : List (Pid × Pid) :=
  [(.batteryVoltageAndCurrent, .readySignal), (.batteryVoltageAndCurrent, .charging),
    (.batteryChargingPower, .charging), (.chargerInputPower, .charging)]

/-- The order of two data identifiers makes a difference. -/
def Coupled (pid other : Pid) : Prop :=
  (pid, other) ∈ coupled ∨ (other, pid) ∈ coupled

instance (pid other : Pid) : Decidable (pid.Coupled other) :=
  inferInstanceAs (Decidable (_ ∨ _))

variable {pid other : Pid} {r : Recorder} {now : Nat} {data more : Payload}
  {first second : ReplyEffect}

lemma Coupled.symm (h : pid.Coupled other) : other.Coupled pid :=
  Or.symm h

/-- None of the platform's data identifiers but the coupled ones depends on another one. -/
lemma apart_of_not_coupled (hne : pid ≠ other) (h : ¬ pid.Coupled other) : pid.Apart other := by
  have hall : ∀ pid ∈ all, ∀ other ∈ all, pid ≠ other → ¬ pid.Coupled other →
      (∀ name ∈ pid.reads, name ∉ other.signals) ∧ ∀ c ∈ pid.sampled, c ∉ other.channels := by
    decide
  obtain ⟨hreads, hsampled⟩ := hall pid pid.mem_all other other.mem_all hne h
  exact ⟨hreads, hsampled⟩

/-- Ready and charging clear the energies that they write, and count nothing. -/
lemma clears (h : pid = .readySignal ∨ pid = .charging)
    (hfirst : pid.effect r now data = .ok first) :
    (∀ write ∈ first.writes, write.1 ∈ Signal.energies → write.2 = .float 0.0) ∧
      ∀ event ∈ first.events, event = .reset event.channel := by
  have hsignals : Signal.on ∉ Signal.energies ∧ Signal.chargeInProgress ∉ Signal.energies := by
    decide
  obtain rfl | rfl := h <;> obtain ⟨on, -, hon⟩ := exists_of_bind_eq_ok hfirst <;>
    split at hon <;> obtain rfl := Except.ok.inj hon <;>
    exact ⟨by simp [hsignals], by simp [EnergyEvent.channel, EnergyChannel.all]⟩

/-- The effects of two of the platform's data identifiers that are not coupled agree. -/
lemma agree_of_not_coupled (hne : pid ≠ other) (h : ¬ pid.Coupled other)
    (hfirst : pid.effect r now data = .ok first) (hsecond : other.effect r now more = .ok second) :
    first.Agree second := by
  -- what two of them both change, ready and charging clear
  have hall : ∀ pid ∈ all, ∀ other ∈ all, pid ≠ other → ¬ pid.Coupled other →
      ((∀ name ∈ pid.signals, name ∉ other.signals) ∧ ∀ c ∈ pid.channels, c ∉ other.channels) ∨
        (pid = .readySignal ∨ pid = .charging) ∧ (other = .readySignal ∨ other = .charging) ∧
          ∀ name ∈ pid.signals, name ∈ other.signals → name ∈ Signal.energies := by
    decide
  obtain ⟨hsignals, hchannels⟩ | ⟨hpid, hother, hshared⟩ :=
    hall pid pid.mem_all other other.mem_all hne h
  · refine ⟨fun name value next hvalue hnext => ?_, fun event hevent event' hevent' hsame => ?_⟩
    · exact absurd ((writes_sublist hsecond).subset (List.mem_map_of_mem hnext))
        (hsignals name ((writes_sublist hfirst).subset (List.mem_map_of_mem hvalue)))
    · exact absurd (hsame ▸ channel_mem hsecond hevent')
        (hchannels _ (channel_mem hfirst hevent))
  · obtain ⟨hzero, hreset⟩ := clears hpid hfirst
    obtain ⟨hzero', hreset'⟩ := clears hother hsecond
    refine ⟨fun name value next hvalue hnext => ?_, fun event hevent event' hevent' hsame => ?_⟩
    · have henergy : name ∈ Signal.energies :=
        hshared name ((writes_sublist hfirst).subset (List.mem_map_of_mem hvalue))
          ((writes_sublist hsecond).subset (List.mem_map_of_mem hnext))
      exact (hzero _ hvalue henergy).trans (hzero' _ hnext henergy).symm
    · calc event = .reset event.channel := hreset _ hevent
        _ = .reset event'.channel := by rw [hsame]
        _ = event' := (hreset' _ hevent').symm

/-- Two payloads for data identifiers that are not coupled come to the same in either
order. -/
lemma take_comm (hne : pid ≠ other) (h : ¬ pid.Coupled other) :
    let first := r.take now (pid.effect r now data)
    let second := r.take now (other.effect r now more)
    let firstAfter := second.1.take now (pid.effect second.1 now data)
    let secondAfter := first.1.take now (other.effect first.1 now more)
    firstAfter.2 = first.2 ∧ secondAfter.2 = second.2 ∧ secondAfter.1 = firstAfter.1 := by
  have hfirst := apart_of_not_coupled hne h
  have hsecond := apart_of_not_coupled hne.symm fun hcoupled => h hcoupled.symm
  -- neither payload has another effect when the other one comes first
  cases heffect : pid.effect r now data with
  | error outcome =>
      cases hmore : other.effect r now more with
      | error outcome' => simp [Recorder.take, heffect, hmore]
      | ok second => simp [Recorder.take, effect_apply hfirst hmore, heffect, hmore]
  | ok first =>
      cases hmore : other.effect r now more with
      | error outcome => simp [Recorder.take, effect_apply hsecond heffect, heffect, hmore]
      | ok second =>
          have hcomm := r.apply_comm now (agree_of_not_coupled hne h heffect hmore)
            (nodup_writes heffect) (nodup_writes hmore)
          simp [Recorder.take, effect_apply hfirst hmore, effect_apply hsecond heffect, heffect,
            hmore, hcomm]

end Pid

/-! ### Replies -/

/-- What tells two replies apart: the sender and the data identifier. -/
def Reply.key (reply : Reply) : UInt32 × UInt16 :=
  (reply.sender, reply.pid)

/-- The pairs of replies whose order makes a difference. -/
def coupledKeys : List ((UInt32 × UInt16) × (UInt32 × UInt16)) :=
  let key (ecu : Ecu) (pid : Pid) := (ecu.responseId, pid.number)
  let pack := key .hybridControl .batteryVoltageAndCurrent
  let ready := key .hybridControl .readySignal
  let charging := key .plugInControl .charging
  [(pack, ready), (pack, charging), (key .plugInControl .batteryChargingPower, charging),
    (key .plugInControl .chargerInputPower, charging)]

/-- The order of the replies with two keys makes a difference. -/
def CoupledKeys (key other : UInt32 × UInt16) : Prop :=
  (key, other) ∈ coupledKeys ∨ (other, key) ∈ coupledKeys

instance (key other : UInt32 × UInt16) : Decidable (CoupledKeys key other) :=
  inferInstanceAs (Decidable (_ ∨ _))

/-- The keys are those of the coupled data identifiers. -/
lemma coupledKeys_of_coupled {ecu ecu' : Ecu} {pid pid' : Pid}
    {action action' : DecodeAction Recorder} (h : PlatformReply ecu pid action)
    (h' : PlatformReply ecu' pid' action') (hcoupled : pid.Coupled pid') :
    CoupledKeys (ecu.responseId, pid.number) (ecu'.responseId, pid'.number) := by
  cases h <;> cases h' <;> revert hcoupled <;> decide

/-- A data identifier has an action for one control unit only. -/
lemma PlatformReply.ecu_unique {ecu ecu' : Ecu} {pid : Pid} {action action' : DecodeAction Recorder}
    (h : PlatformReply ecu pid action) (h' : PlatformReply ecu' pid action') : ecu = ecu' := by
  cases h <;> cases h' <;> rfl

/-- A reply without an action leaves the recorder as it is, and its outcome does not depend
on it. -/
lemma dispatch_of_action?_eq_none {reply : Reply}
    (h : platformTable.action? reply.sender reply.pid = none) (r s : Recorder) :
    (platformTable.dispatch reply r).value.1 = r ∧
      (platformTable.dispatch reply r).value.2 = (platformTable.dispatch reply s).value.2 := by
  rw [ReplyTable.value_dispatch, ReplyTable.value_dispatch, h]
  exact ⟨rfl, rfl⟩

/-- Two replies at one time that are not coupled have the same outcomes in either order and
leave the same recorder. -/
theorem dispatch_comm {reply other : Reply} (htime : other.time = reply.time)
    (hne : reply.key ≠ other.key) (h : ¬ CoupledKeys reply.key other.key) (r : Recorder) :
    let first := (platformTable.dispatch reply r).value
    let second := (platformTable.dispatch other r).value
    let firstAfter := (platformTable.dispatch reply second.1).value
    let secondAfter := (platformTable.dispatch other first.1).value
    firstAfter.2 = first.2 ∧ secondAfter.2 = second.2 ∧ secondAfter.1 = firstAfter.1 := by
  cases haction : platformTable.action? reply.sender reply.pid with
  | none =>
      have hnone := dispatch_of_action?_eq_none haction
      dsimp only
      rw [(hnone r r).1, (hnone _ r).1]
      exact ⟨(hnone _ r).2, rfl, rfl⟩
  | some action =>
      obtain ⟨ecu, pid, hsender, hpid, hreply⟩ := action?_platformTable haction
      cases haction' : platformTable.action? other.sender other.pid with
      | none =>
          have hnone := dispatch_of_action?_eq_none haction'
          dsimp only
          rw [(hnone r r).1, (hnone _ r).1]
          exact ⟨rfl, (hnone _ r).2, rfl⟩
      | some action' =>
          obtain ⟨ecu', pid', hsender', hpid', hreply'⟩ := action?_platformTable haction'
          -- an identifier belongs to one unit, so replies with different keys differ in it
          have hpids : pid ≠ pid' := by
            rintro rfl
            rw [Reply.key, Reply.key, hsender, hpid, hsender', hpid',
              hreply.ecu_unique hreply'] at hne
            exact hne rfl
          have hcoupled : ¬ pid.Coupled pid' := by
            intro hcoupled
            rw [Reply.key, Reply.key, hsender, hpid, hsender', hpid'] at h
            exact h (coupledKeys_of_coupled hreply hreply' hcoupled)
          dsimp only
          rw [value_dispatch_platform hreply haction r, value_dispatch_platform hreply' haction' r,
            value_dispatch_platform hreply haction, value_dispatch_platform hreply' haction', htime]
          exact Pid.take_comm hpids hcoupled

end VehicleTelemetry
