import Mathlib.Tactic
import VehicleTelemetry.Proofs.Energy.Repeated
import VehicleTelemetry.Proofs.Reply.Effect

/-!
A payload that is received twice at one time counts once.

The second effect need not be the first one. An edge is no edge any more and resets
nothing, and an odometer reading that has begun a trip finds its own baseline. What is
left is a part of the first effect, in writes, and nothing at all for the meter, since
between the two no time has passed.

* `ReplyEffect.Repeats`: what the second effect has to be for the recorder to stay as the
  first one has left it (`Repeats.apply_eq`);
* `Pid.exists_repeats`: the effects of every data identifier are so;
* `take_take`: carried out twice, a payload comes to the same as once.
-/

namespace VehicleTelemetry

/-- An effect that finds everything done by another one. -/
structure ReplyEffect.Repeats (r : Recorder) (now : Nat) (effect again : ReplyEffect) : Prop where
  writes : again.writes ⊆ effect.writes
  meter : (r.apply now effect).meter.recordAll again.events = (r.apply now effect).meter

variable {pid : Pid} {r : Recorder} {now : Nat} {data : Payload} {effect again : ReplyEffect}

lemma ReplyEffect.Repeats.apply_eq (h : effect.Repeats r now again)
    (hnodup : (effect.writes.map Prod.fst).Nodup) :
    (r.apply now effect).apply now again = r.apply now effect := by
  rw [Recorder.apply, h.meter]
  exact congrArg (Recorder.mk · _) (MetricStore.setAll_setAll_eq_self _ hnodup h.writes)

namespace Pid

/-! ### Effects that leave nothing to do -/

lemma repeats_of_nil (hevents : effect.events = []) : effect.Repeats r now effect :=
  ⟨List.Subset.refl _, by rw [hevents]; rfl⟩

/-- An effect that counts one sample can be carried out again, since no time has passed. -/
lemma repeats_of_sample {c : EnergyChannel} {power : Float} (hsound : r.meter.Sound)
    (hevents : effect.events = [.sample c power now]) : effect.Repeats r now effect := by
  refine ⟨List.Subset.refl _, ?_⟩
  rw [Recorder.apply, hevents]
  exact EnergyMeter.sample_sample hsound c power now

/-- After an edge the signal is written once more, and nothing is reset. -/
lemma repeats_of_signal {name : String} {on : Bool} (hmem : (name, .bool on) ∈ effect.writes) :
    effect.Repeats r now { writes := [(name, .bool on)] } :=
  ⟨List.cons_subset.mpr ⟨hmem, List.nil_subset _⟩, rfl⟩

/-! ### What the second effect finds -/

/-- The energies that the sample has come to are what it comes to again. -/
lemma totals_apply {c : EnergyChannel} {power : Float} (hsound : r.meter.Sound)
    (hevents : effect.events = [.sample c power now]) :
    ((r.apply now effect).meter.sample c power now).totals =
      (r.meter.sample c power now).totals := by
  rw [Recorder.apply, hevents]
  exact congrArg EnergyMeter.totals (EnergyMeter.sample_sample hsound c power now)

/-- A reading has the effect that it has whatever payload it comes from. -/
lemma bind_eq_of_decode {α : Type} {result : Except PayloadError α} {reading : α}
    (h : result = .ok reading) (effect : α → Except ReplyOutcome ReplyEffect) :
    decoded result >>= effect = effect reading := by
  rw [h]
  rfl

/-! ### The second effect -/

/-- A state of charge that has been recorded opens its own gate: if it is zero, so is the
one before it now. -/
lemma exists_repeats_batterySoc (h : batterySoc.effect r now data = .ok effect) :
    ∃ again, batterySoc.effect (r.apply now effect) now data = .ok again ∧
      effect.Repeats r now again := by
  obtain ⟨soc, hdecode, hsoc⟩ := exists_of_bind_eq_ok h
  split at hsoc
  · cases hsoc
  · obtain rfl := Except.ok.inj hsoc
    have hopen : ¬ (soc == 0.0 && decide (soc > 1.0)) = true := by
      rw [Bool.and_eq_true, not_and, decide_eq_true_iff]
      exact fun hzero => Binary64.not_one_lt_of_beq_zero hzero
    refine ⟨_, (bind_eq_of_decode hdecode _).trans ?_, repeats_of_nil rfl⟩
    rw [float_apply h (.head _), if_neg hopen]
    rfl

/-- An odometer reading that has begun a trip counts from itself when it comes again, and
any other one from the same baseline. -/
lemma exists_repeats_odometer (h : odometer.effect r now data = .ok effect) :
    ∃ again, odometer.effect (r.apply now effect) now data = .ok again ∧
      effect.Repeats r now again := by
  have hframe := changesOnly_apply r now effect
  obtain ⟨reading, hdecode, hreading⟩ := exists_of_bind_eq_ok h
  split at hreading
  · obtain rfl := Except.ok.inj hreading
    refine ⟨{ writes := [(Signal.odometer, .float reading),
      (Signal.trip, .float (reading - reading))] }, (bind_eq_of_decode hdecode _).trans ?_,
      by simp, rfl⟩
    rw [isStale_apply h (.tail _ (.head _)), float_apply h (.tail _ (.head _))]
    rfl
  · next hfresh =>
    obtain rfl := Except.ok.inj hreading
    have hother : Signal.tripStart ∉ [Signal.odometer, Signal.trip] := by decide
    refine ⟨_, (bind_eq_of_decode hdecode _).trans ?_, repeats_of_nil rfl⟩
    rw [hframe.isStale_eq hother, if_neg hfresh, hframe.float_eq hother]
    rfl

/-- An effect that does not depend on what it changes is the same again. -/
lemma exists_repeats_of_apart (hapart : pid.Apart pid) (hchannels : pid.channels = [])
    (h : pid.effect r now data = .ok effect) :
    ∃ again, pid.effect (r.apply now effect) now data = .ok again ∧
      effect.Repeats r now again :=
  ⟨effect, (effect_apply hapart h).trans h, repeats_of_nil (events_eq_nil h hchannels)⟩

/-- A power that is counted while the vehicle charges finds it charging again. -/
lemma exists_repeats_power {c : EnergyChannel} {result : Except PayloadError Float}
    (writes : Float → EnergyTotals Float → List (String × MetricValue))
    (hdefinition : ∀ s : Recorder, pid.effect s now data = decoded result >>= fun power =>
      if s.store.bool Signal.chargeInProgress then
        .ok { writes := writes power (s.meter.sample c power now).totals
              events := [.sample c power now] }
      else .error (.gated "not charging"))
    (hsignals : Signal.chargeInProgress ∉ pid.signals) (hsound : r.meter.Sound)
    (h : pid.effect r now data = .ok effect) :
    ∃ again, pid.effect (r.apply now effect) now data = .ok again ∧
      effect.Repeats r now again := by
  have hgate := (changesOnly_apply_signals h).bool_eq hsignals
  obtain ⟨power, hdecode, hpower⟩ := exists_of_bind_eq_ok ((hdefinition r).symm.trans h)
  split at hpower
  · next hcharging =>
    obtain rfl := Except.ok.inj hpower
    refine ⟨_, ((hdefinition _).trans (bind_eq_of_decode hdecode _)).trans ?_,
      repeats_of_sample hsound rfl⟩
    rw [hgate, if_pos hcharging, totals_apply hsound rfl]
  · cases hpower

/-- Once an effect has been carried out, the same payload has an effect again, and that
changes nothing. -/
theorem exists_repeats (hsound : r.meter.Sound) (h : pid.effect r now data = .ok effect) :
    ∃ again, pid.effect (r.apply now effect) now data = .ok again ∧
      effect.Repeats r now again := by
  -- no time passes between the two, so a sample adds nothing and a signal that is on stays on
  cases pid with
  | batteryVoltageAndCurrent =>
      obtain ⟨reading, hdecode, hreading⟩ := exists_of_bind_eq_ok h
      obtain rfl := Except.ok.inj hreading
      refine ⟨_, (bind_eq_of_decode hdecode _).trans ?_, repeats_of_sample hsound rfl⟩
      rw [totals_apply hsound rfl]
      rfl
  | batteryChargingPower =>
      exact exists_repeats_power (fun _ totals => [(Signal.chargeEnergy, .float totals.charger)])
        (fun _ => rfl) (by decide) hsound h
  | chargerInputPower =>
      exact exists_repeats_power (fun power totals => [(Signal.chargePower, .float power),
        (Signal.gridEnergy, .float totals.grid)]) (fun _ => rfl) (by decide) hsound h
  | readySignal =>
      obtain ⟨ready, hdecode, -⟩ := exists_of_bind_eq_ok h
      have hon := ready_mem_writes h hdecode
      refine ⟨_, (bind_eq_of_decode hdecode _).trans ?_, repeats_of_signal hon⟩
      rw [bool_apply h hon]
      cases ready <;> rfl
  | charging =>
      obtain ⟨charging, hdecode, -⟩ := exists_of_bind_eq_ok h
      have hon := charging_mem_writes h hdecode
      refine ⟨_, (bind_eq_of_decode hdecode _).trans ?_, repeats_of_signal hon⟩
      rw [bool_apply h hon]
      cases charging <;> rfl
  | batterySoc => exact exists_repeats_batterySoc h
  | odometer => exact exists_repeats_odometer h
  | _ => exact exists_repeats_of_apart ⟨by decide, by decide⟩ rfl h

end Pid

/-- Carried out twice, a payload comes to the same as once. -/
lemma take_take (hsound : r.meter.Sound) :
    let first := r.take now (pid.effect r now data)
    first.1.take now (pid.effect first.1 now data) = first := by
  intro first
  cases heffect : pid.effect r now data with
  | error outcome =>
      have hfirst : first = (r, outcome) := by rw [show first = r.take now _ from rfl, heffect]; rfl
      rw [hfirst, heffect]
      rfl
  | ok effect =>
      have hfirst : first = (r.apply now effect, .applied) := by
        rw [show first = r.take now _ from rfl, heffect]
        rfl
      obtain ⟨again, hagain, hrepeats⟩ := Pid.exists_repeats hsound heffect
      rw [hfirst, hagain]
      exact congrArg (·, ReplyOutcome.applied) (hrepeats.apply_eq (Pid.nodup_writes heffect))

/-- A reply that is dispatched twice has the same outcome again and changes nothing. -/
theorem dispatch_dispatch (reply : Reply) (hsound : r.meter.Sound) :
    let first := (platformTable.dispatch reply r).value
    (platformTable.dispatch reply first.1).value = first := by
  intro first
  cases haction : platformTable.action? reply.sender reply.pid with
  | none =>
      have hnone (r : Recorder) : (platformTable.dispatch reply r).value.1 = r := by
        rw [ReplyTable.value_dispatch, haction]
      have hfirst : first.1 = r := hnone r
      rw [hfirst]
  | some action =>
      obtain ⟨ecu, pid, -, -, hreply⟩ := action?_platformTable haction
      have hfirst : first = r.take reply.time (pid.effect r reply.time reply.payload) :=
        value_dispatch_platform hreply haction r
      rw [value_dispatch_platform hreply haction, hfirst]
      exact take_take hsound

end VehicleTelemetry
