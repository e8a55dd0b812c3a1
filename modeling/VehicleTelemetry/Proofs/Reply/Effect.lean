import Mathlib.Tactic
import VehicleTelemetry.Proofs.Energy.History
import VehicleTelemetry.Proofs.Metric.Writes
import VehicleTelemetry.Proofs.Recorder.Effects
import VehicleTelemetry.Proofs.Reply.Actions

/-!
What a reply comes to, as a value.

* `ReplyEffect`: some metrics that are written at the time of the reply, and some events
  for the meter; `Recorder.apply` carries one out;
* `Pid.effect` computes the effect of a payload for each data identifier of the platform,
  or the outcome for which it has none, from what the recorder holds before;
* `value_dispatch_platform`: dispatching a reply is carrying out its effect;
* `Pid.reads` and `Pid.sampled`: the metrics and the channels that an effect depends on
  (`effect_congr`); `Pid.signals` and `Pid.channels`: those that it changes (`footprint`);
* `entry_apply`, `bool_apply` and so on: what the recorder holds after an effect. One that
  is apart from another (`Pid.Apart`) is the same after it (`effect_apply`);
* `exists_effect_of_applied`: a reply that is applied has an effect, and does nothing else.
-/

namespace VehicleTelemetry

/-- What a reply comes to: writes of metrics, all at one time, and events for the
meter. -/
structure ReplyEffect where
  writes : List (String × MetricValue)
  events : List (EnergyEvent Float) := []

namespace Recorder

/-- Carries out an effect. -/
def apply (r : Recorder) (now : Nat) (effect : ReplyEffect) : Recorder :=
  ⟨r.store.setAll now effect.writes, r.meter.recordAll effect.events⟩

/-- Carries out an effect if there is one, and says what has become of the reply. -/
def take (r : Recorder) (now : Nat) (result : Except ReplyOutcome ReplyEffect) :
    Recorder × ReplyOutcome :=
  match result with
  | .ok effect => (r.apply now effect, .applied)
  | .error outcome => (r, outcome)

end Recorder

/-- A reading, or the outcome of a payload that cannot be decoded. -/
def decoded {α : Type} : Except PayloadError α → Except ReplyOutcome α
  | .ok reading => .ok reading
  | .error cause => .error (.refused cause)

/-- The effect of a payload for a data identifier on a recorder at a time, or the outcome
if the payload has none. A payload for any other identifier has an empty effect. -/
def Pid.effect (r : Recorder) (now : Nat) (data : Payload) :
    Pid → Except ReplyOutcome ReplyEffect
  | .batteryVoltageAndCurrent => do
    let reading ← decoded (Decode.packReading data)
    let totals := (r.meter.sample .battery reading.power now).totals
    return {
      writes := [
        (Signal.batteryVoltage, .float reading.voltage),
        (Signal.batteryCurrent, .float reading.current),
        (Signal.batteryPower, .float reading.power),
        (Signal.energyUsed, .float totals.used),
        (Signal.energyRecovered, .float totals.recovered)]
      events := [.sample .battery reading.power now] }
  | .readySignal => do
    let ready ← decoded (Decode.ready data)
    if ready && !r.store.bool Signal.on then
      return {
        writes := [(Signal.on, .bool ready), (Signal.energyUsed, .float 0.0),
          (Signal.energyRecovered, .float 0.0)]
        events := [.reset .battery] }
    else return { writes := [(Signal.on, .bool ready)] }
  | .shiftPosition => do
    let position ← decoded (Decode.shiftPosition data)
    return { writes := [(Signal.gear, .int position.gear)] }
  | .chargingLid => do
    let isOpen ← decoded (Decode.chargingDoorOpen data)
    return { writes := [(Signal.chargePort, .bool isOpen)] }
  | .batterySoc => do
    let soc ← decoded (Decode.batterySoc data)
    if soc == 0.0 && r.store.float Signal.batterySoc > 1.0 then
      throw (.gated "zero SOC after a valid reading")
    else return { writes := [(Signal.batterySoc, .float soc)] }
  | .piswStatus => do
    let present ← decoded (Decode.pilotPresent data)
    return { writes := [(Signal.pilot, .bool present)] }
  | .charging => do
    let charging ← decoded (Decode.chargingInProgress data)
    if charging && !r.store.bool Signal.chargeInProgress then
      return {
        writes := [(Signal.chargeInProgress, .bool charging), (Signal.energyUsed, .float 0.0),
          (Signal.energyRecovered, .float 0.0), (Signal.chargeEnergy, .float 0.0),
          (Signal.gridEnergy, .float 0.0)]
        events := EnergyChannel.all.map .reset }
    else return { writes := [(Signal.chargeInProgress, .bool charging)] }
  | .batteryChargingPower => do
    let power ← decoded (Decode.batteryChargingPower data)
    if r.store.bool Signal.chargeInProgress then
      return {
        writes := [(Signal.chargeEnergy,
          .float (r.meter.sample .charger power now).totals.charger)]
        events := [.sample .charger power now] }
    else throw (.gated "not charging")
  | .chargerInputPower => do
    let power ← decoded (Decode.chargerInputPower data)
    if r.store.bool Signal.chargeInProgress then
      return {
        writes := [(Signal.chargePower, .float power),
          (Signal.gridEnergy, .float (r.meter.sample .grid power now).totals.grid)]
        events := [.sample .grid power now] }
    else throw (.gated "not charging")
  | .batteryTemperatures => do
    let reading ← decoded (Decode.batteryTemperatures data)
    return {
      writes := [
        (Signal.cellTemperatures, .floats reading.sensors),
        (Signal.packTemperatureLeast, .float reading.statistics.least),
        (Signal.packTemperatureGreatest, .float reading.statistics.greatest),
        (Signal.packTemperatureMean, .float reading.statistics.mean),
        (Signal.packTemperatureDeviation, .float reading.statistics.deviation),
        (Signal.batteryTemperature, .float reading.statistics.least)] }
  | .odometer => do
    let reading ← decoded (Decode.odometer data)
    if r.store.isStale now Signal.tripStart then
      return {
        writes := [(Signal.odometer, .float reading), (Signal.tripStart, .float reading),
          (Signal.trip, .float (reading - reading))] }
    else
      return {
        writes := [(Signal.odometer, .float reading),
          (Signal.trip, .float (reading - r.store.float Signal.tripStart))] }
  | .vehicleSpeed => do
    let speed ← decoded (Decode.vehicleSpeed data)
    return { writes := [(Signal.speed, .float speed)] }
  | .ambientTemperature => do
    let temperature ← decoded (Decode.ambientTemperature data)
    if Decode.isAmbientSentinel temperature then throw (.gated "no ambient reading")
    else return { writes := [(Signal.outsideTemperature, .float temperature)] }
  | _ => return { writes := [] }

/-! ### The actions carry out the effects -/

namespace ReplyAction

variable {α : Type} {decode : Payload → Except PayloadError α} {r : Recorder} {now : Nat}
  {data : Payload}

/-- What the result of an action stands for. -/
def outcome (result : Recorder × Except PayloadError Disposition) : Recorder × ReplyOutcome :=
  (result.1, ReplyOutcome.ofResult result.2)

lemma outcome_recording {record : Recorder → Nat → α → Logged Recorder}
    {effect : α → Except ReplyOutcome ReplyEffect}
    (hrecord : ∀ reading, ((record r now reading).value, .applied) = r.take now (effect reading)) :
    outcome (recording decode record now data r).value =
      r.take now (decoded (decode data) >>= effect) := by
  rw [value_recording]
  cases decode data with
  | error cause => rfl
  | ok reading => exact hrecord reading

lemma outcome_checking {record : Recorder → Nat → α → Logged (Recorder × Bool)} {reason : String}
    {effect : α → Except ReplyOutcome ReplyEffect}
    (hrecord : ∀ reading, let checked := (record r now reading).value
      (checked.1, if checked.2 then ReplyOutcome.applied else .gated reason) =
        r.take now (effect reading)) :
    outcome (checking decode record reason now data r).value =
      r.take now (decoded (decode data) >>= effect) := by
  rw [value_checking]
  cases decode data with
  | error cause => rfl
  | ok reading =>
      refine Eq.trans ?_ (hrecord reading)
      refine Prod.ext rfl ?_
      show ReplyOutcome.ofResult (.ok (if _ then _ else _)) = if _ then _ else _
      split <;> rfl

end ReplyAction

open ReplyAction

/-- Every action of the platform carries out the effect of its data identifier. -/
lemma PlatformReply.outcome_eq {ecu : Ecu} {pid : Pid} {action : DecodeAction Recorder}
    (h : PlatformReply ecu pid action) (r : Recorder) (now : Nat) (data : Payload) :
    outcome (action now data r).value = r.take now (pid.effect r now data) := by
  -- a setter with a guard tests what its effect tests, so the two split together
  cases h with
  | packReading => exact outcome_recording fun reading => rfl
  | ready =>
      refine outcome_recording fun ready => ?_
      rw [Recorder.value_setReady]
      split_ifs <;> rfl
  | shiftPosition => exact outcome_recording fun reading => rfl
  | chargingLid => exact outcome_recording fun reading => rfl
  | batterySoc =>
      refine outcome_checking fun soc => ?_
      rw [Recorder.value_setBatterySoc]
      split_ifs <;> rfl
  | pilot => exact outcome_recording fun reading => rfl
  | charging =>
      refine outcome_recording fun charging => ?_
      rw [Recorder.value_setChargingStatus]
      split_ifs <;> rfl
  | batteryChargingPower =>
      refine outcome_checking fun power => ?_
      rw [value_whileCharging, Recorder.chargingInProgress]
      split_ifs <;> rfl
  | chargerInputPower =>
      refine outcome_checking fun power => ?_
      rw [value_whileCharging, Recorder.chargingInProgress]
      split_ifs <;> rfl
  | batteryTemperatures => exact outcome_recording fun reading => rfl
  | odometer =>
      refine outcome_recording fun reading => ?_
      rw [Recorder.value_setOdometer_eq_ite]
      split_ifs <;> rfl
  | vehicleSpeed => exact outcome_recording fun reading => rfl
  | ambientTemperature =>
      refine outcome_checking fun temperature => ?_
      rw [Recorder.value_setAmbientTemperature]
      split_ifs <;> rfl

/-- Dispatching a reply that the platform decodes carries out its effect. -/
lemma value_dispatch_platform {reply : Reply} {ecu : Ecu} {pid : Pid}
    {action : DecodeAction Recorder} (h : PlatformReply ecu pid action)
    (haction : platformTable.action? reply.sender reply.pid = some action) (r : Recorder) :
    (platformTable.dispatch reply r).value =
      r.take reply.time (pid.effect r reply.time reply.payload) := by
  rw [ReplyTable.value_dispatch, haction, ← h.outcome_eq]
  rfl

/-! ### What an effect depends on, and what it changes -/

namespace Pid

/-- The metrics that the effect of a payload depends on. -/
def reads : Pid → List String
  | .readySignal => [Signal.on]
  | .batterySoc => [Signal.batterySoc]
  | .charging | .batteryChargingPower | .chargerInputPower => [Signal.chargeInProgress]
  | .odometer => [Signal.tripStart]
  | _ => []

/-- The channels that the effect of a payload depends on, since it counts a sample. -/
def sampled : Pid → List EnergyChannel
  | .batteryVoltageAndCurrent => [.battery]
  | .batteryChargingPower => [.charger]
  | .chargerInputPower => [.grid]
  | _ => []

/-- The channels that the effect of a payload changes. -/
def channels : Pid → List EnergyChannel
  | .batteryVoltageAndCurrent | .readySignal => [.battery]
  | .charging => EnergyChannel.all
  | .batteryChargingPower => [.charger]
  | .chargerInputPower => [.grid]
  | _ => []

/-- The effects that a reading can have. -/
lemma exists_of_bind_eq_ok {α : Type} {result : Except PayloadError α}
    {effect : α → Except ReplyOutcome ReplyEffect} {e : ReplyEffect}
    (h : decoded result >>= effect = .ok e) : ∃ reading, result = .ok reading ∧
      effect reading = .ok e := by
  cases result with
  | error cause => cases h
  | ok reading => exact ⟨reading, rfl, h⟩

variable {pid : Pid} {r s : Recorder} {now : Nat} {data : Payload} {effect : ReplyEffect}

/-- Ready is written, whether or not a trip begins with it. -/
lemma ready_mem_writes {ready : Bool} (h : readySignal.effect r now data = .ok effect)
    (hdecode : Decode.ready data = .ok ready) : (Signal.on, .bool ready) ∈ effect.writes := by
  obtain ⟨_, hdecode', heffect⟩ := exists_of_bind_eq_ok h
  obtain rfl := Except.ok.inj (hdecode.symm.trans hdecode')
  split at heffect <;> obtain rfl := Except.ok.inj heffect <;> exact .head _

/-- Charging is written, whether or not it begins. -/
lemma charging_mem_writes {charging : Bool} (h : Pid.charging.effect r now data = .ok effect)
    (hdecode : Decode.chargingInProgress data = .ok charging) :
    (Signal.chargeInProgress, .bool charging) ∈ effect.writes := by
  obtain ⟨_, hdecode', heffect⟩ := exists_of_bind_eq_ok h
  obtain rfl := Except.ok.inj (hdecode.symm.trans hdecode')
  split at heffect <;> obtain rfl := Except.ok.inj heffect <;> exact .head _

/-- A payload without an effect is refused or gated. -/
lemma effect_ne_applied : pid.effect r now data ≠ .error .applied := by
  have hbind {α : Type} {result : Except PayloadError α}
      {effect : α → Except ReplyOutcome ReplyEffect}
      (h : ∀ reading, effect reading ≠ .error .applied) :
      decoded result >>= effect ≠ .error .applied := by
    cases result with
    | error cause => exact nofun
    | ok reading => exact h reading
  cases pid with
  | batteryVoltageAndCurrent | shiftPosition | chargingLid | piswStatus | batteryTemperatures
  | vehicleSpeed => exact hbind fun reading => nofun
  | readySignal | charging | odometer | batterySoc | ambientTemperature | batteryChargingPower
  | chargerInputPower =>
      refine hbind fun reading => ?_
      split <;> exact nofun
  | _ => exact nofun

/-- The metrics that are written come in the order in which they are listed, and the events
that are recorded are events of the channels. -/
lemma footprint (h : pid.effect r now data = .ok effect) :
    (effect.writes.map Prod.fst).Sublist pid.signals ∧
      ∀ event ∈ effect.events, event.channel ∈ pid.channels := by
  -- one case for each shape of an effect: plain, with an edge, with a check, with a gate
  cases pid with
  | batteryVoltageAndCurrent | shiftPosition | chargingLid | piswStatus | batteryTemperatures
  | vehicleSpeed =>
      obtain ⟨reading, -, h⟩ := exists_of_bind_eq_ok h
      obtain rfl := Except.ok.inj h
      exact ⟨.refl _, by simp [channels, EnergyEvent.channel]⟩
  | readySignal | charging | odometer =>
      obtain ⟨reading, -, h⟩ := exists_of_bind_eq_ok h
      split at h <;> obtain rfl := Except.ok.inj h
      · exact ⟨.refl _, by simp [channels, EnergyEvent.channel, EnergyChannel.all]⟩
      · exact ⟨List.isSublist_iff_sublist.mp rfl, List.forall_mem_nil _⟩
  | batterySoc | ambientTemperature =>
      obtain ⟨reading, -, h⟩ := exists_of_bind_eq_ok h
      split at h
      · cases h
      · obtain rfl := Except.ok.inj h
        exact ⟨.refl _, List.forall_mem_nil _⟩
  | batteryChargingPower | chargerInputPower =>
      obtain ⟨reading, -, h⟩ := exists_of_bind_eq_ok h
      split at h
      · obtain rfl := Except.ok.inj h
        exact ⟨.refl _, by simp [channels, EnergyEvent.channel]⟩
      · cases h
  | _ =>
      obtain rfl := Except.ok.inj h
      exact ⟨List.nil_sublist _, List.forall_mem_nil _⟩

lemma writes_sublist (h : pid.effect r now data = .ok effect) :
    (effect.writes.map Prod.fst).Sublist pid.signals :=
  (footprint h).1

/-- No metric is written twice. -/
lemma nodup_writes (h : pid.effect r now data = .ok effect) :
    (effect.writes.map Prod.fst).Nodup := by
  have hall : ∀ pid ∈ all, pid.signals.Nodup := by decide
  exact (hall pid pid.mem_all).sublist (writes_sublist h)

lemma channel_mem (h : pid.effect r now data = .ok effect) {event : EnergyEvent Float}
    (hevent : event ∈ effect.events) : event.channel ∈ pid.channels :=
  (footprint h).2 event hevent

lemma events_eq_nil (h : pid.effect r now data = .ok effect) (hchannels : pid.channels = []) :
    effect.events = [] := by
  refine List.eq_nil_iff_forall_not_mem.mpr fun event hevent => ?_
  have hchannel := channel_mem h hevent
  rw [hchannels] at hchannel
  cases hchannel

/-- A channel that is none of these is left alone. -/
lemma channel_apply (h : pid.effect r now data = .ok effect) {c : EnergyChannel}
    (hc : c ∉ pid.channels) : (r.apply now effect).meter.channel c = r.meter.channel c :=
  EnergyMeter.channel_recordAll_of_ne _ fun _ hevent hchannel =>
    hc (hchannel ▸ channel_mem h hevent)

/-- The effect of a payload is the same on two recorders that agree on what it depends
on. -/
lemma effect_congr (hreads : ∀ name ∈ pid.reads, s.store.entry name = r.store.entry name)
    (hsampled : ∀ c ∈ pid.sampled, s.meter.channel c = r.meter.channel c) :
    pid.effect s now data = pid.effect r now data := by
  have hbool {name : String} (h : name ∈ pid.reads) : s.store.bool name = r.store.bool name :=
    MetricStore.bool_congr (hreads name h)
  have hfloat {name : String} (h : name ∈ pid.reads) : s.store.float name = r.store.float name :=
    MetricStore.float_congr (hreads name h)
  have hstale {name : String} (h : name ∈ pid.reads) :
      s.store.isStale now name = r.store.isStale now name :=
    MetricStore.isStale_congr (hreads name h) now
  have hcounted {c : EnergyChannel} (h : c ∈ pid.sampled) (power : Float) :
      (s.meter.sample c power now).totals.counted c =
        (r.meter.sample c power now).totals.counted c :=
    congrArg Prod.fst (EnergyMeter.channel_sample_congr (hsampled c h) power now)
  cases pid with
  | batteryVoltageAndCurrent =>
      refine congrArg (decoded (Decode.packReading data) >>= ·) (funext fun reading => ?_)
      have hbattery := hcounted (.head _) reading.power
      simp only [EnergyTotals.counted, List.cons.injEq, and_true] at hbattery
      simp only [hbattery]
  | readySignal | charging => simp only [effect, hbool (.head _)]
  | batterySoc => simp only [effect, hfloat (.head _)]
  | batteryChargingPower =>
      have hcharger (power : Float) := List.head_eq_of_cons_eq (hcounted (.head _) power)
      simp only [effect, hbool (.head _), hcharger]
  | chargerInputPower =>
      have hgrid (power : Float) := List.head_eq_of_cons_eq (hcounted (.head _) power)
      simp only [effect, hbool (.head _), hgrid]
  | odometer => simp only [effect, hstale (.head _), hfloat (.head _)]
  | _ => rfl

/-! ### The recorder afterwards -/

section Afterwards

variable (h : pid.effect r now data = .ok effect) {name : String}

include h

lemma entry_apply {value : MetricValue} (hmem : (name, value) ∈ effect.writes) :
    (r.apply now effect).store.entry name = (r.store.entry name).write now value :=
  MetricStore.entry_setAll_of_mem _ (nodup_writes h) hmem

lemma bool_apply {on : Bool} (hmem : (name, .bool on) ∈ effect.writes) :
    (r.apply now effect).store.bool name = on := by
  rw [MetricStore.bool, MetricStore.value?, entry_apply h hmem]
  rfl

lemma float_apply {x : Float} (hmem : (name, .float x) ∈ effect.writes) :
    (r.apply now effect).store.float name = x := by
  rw [MetricStore.float, MetricStore.value?, entry_apply h hmem]
  rfl

lemma isStale_apply {value : MetricValue} (hmem : (name, value) ∈ effect.writes) :
    (r.apply now effect).store.isStale now name = false := by
  rw [MetricStore.isStale, entry_apply h hmem, MetricEntry.write]
  cases (r.store.entry name).lifetime <;> simp

end Afterwards

lemma changesOnly_apply (r : Recorder) (now : Nat) (effect : ReplyEffect) :
    MetricStore.ChangesOnly (effect.writes.map Prod.fst) r.store (r.apply now effect).store :=
  MetricStore.changesOnly_setAll _ now _

lemma changesOnly_apply_signals (h : pid.effect r now data = .ok effect) :
    MetricStore.ChangesOnly pid.signals r.store (r.apply now effect).store :=
  (changesOnly_apply r now effect).mono (writes_sublist h).subset

/-- A data identifier changes nothing that another one depends on. -/
structure Apart (pid other : Pid) : Prop where
  reads : ∀ name ∈ pid.reads, name ∉ other.signals
  sampled : ∀ c ∈ pid.sampled, c ∉ other.channels

/-- The effect of a payload is the same after one that is apart from it. -/
lemma effect_apply {other : Pid} {more : Payload} (hapart : pid.Apart other)
    (h : other.effect r now more = .ok effect) :
    pid.effect (r.apply now effect) now data = pid.effect r now data :=
  effect_congr (fun name hname => changesOnly_apply_signals h name (hapart.reads name hname))
    fun c hc => channel_apply h (hapart.sampled c hc)

/-- Whatever becomes of a payload, it writes the metrics of its data identifier only. -/
lemma changesOnly_take :
    MetricStore.ChangesOnly pid.signals r.store
      (r.take now (pid.effect r now data)).1.store := by
  cases heffect : pid.effect r now data with
  | error outcome => exact .refl _ _
  | ok effect => exact changesOnly_apply_signals heffect

end Pid

/-- A reply that is applied has an effect, and that is all it does. -/
lemma exists_effect_of_applied {reply : Reply} {r : Recorder}
    (h : (platformTable.dispatch reply r).value.2 = .applied) :
    ∃ ecu pid action effect, PlatformReply ecu pid action ∧ reply.sender = ecu.responseId ∧
      reply.pid = pid.number ∧ pid.effect r reply.time reply.payload = .ok effect ∧
      (platformTable.dispatch reply r).value.1 = r.apply reply.time effect := by
  cases haction : platformTable.action? reply.sender reply.pid with
  | none =>
      rw [ReplyTable.value_dispatch, haction] at h
      cases hhandler : platformTable.handlers[reply.sender]? <;> simp [hhandler] at h
  | some action =>
      obtain ⟨ecu, pid, hsender, hpid, hreply⟩ := action?_platformTable haction
      rw [value_dispatch_platform hreply haction] at h ⊢
      cases heffect : pid.effect r reply.time reply.payload with
      | error outcome =>
          rw [heffect] at h
          obtain rfl : outcome = .applied := h
          exact absurd heffect Pid.effect_ne_applied
      | ok effect => exact ⟨ecu, pid, action, effect, hreply, hsender, hpid, heffect, rfl⟩

end VehicleTelemetry
