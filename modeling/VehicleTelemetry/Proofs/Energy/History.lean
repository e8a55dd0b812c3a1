import Mathlib.Tactic
import VehicleTelemetry.Energy.Meter

/-!
What a meter has counted, as a function of its history.

* `EnergyEvent`, `EnergyMeter.recordAll`: samples and resets in any order;
* `EnergyMeter.channel`: what a meter holds of one channel, energies and time
  of the last sample. A channel does not see the events of the other ones
  (`channel_record_of_ne`), and what an event makes of it depends on the channel
  alone (`channel_sample_congr`, `channel_reset`);
* `samplesSinceReset`: the part of a history that still counts for a channel.
  `channel_recordAll` is the theorem that nothing else does, and with a reset in the
  history nothing from before it does either (`channel_recordAll_of_reset`). The time
  of the last sample is read off it too (`last_recordAll`);
* `recordAll_comm`: histories of different channels can come in either order.
-/

namespace VehicleTelemetry

/-- What can happen to a meter. -/
inductive EnergyEvent (α : Type) where
  | sample (channel : EnergyChannel) (power : α) (time : Nat)
  | reset (channel : EnergyChannel)

/-- The channel that an event is about. -/
def EnergyEvent.channel {α : Type} : EnergyEvent α → EnergyChannel
  | .sample channel _ _ => channel
  | .reset channel => channel

/-- The samples of a channel since its last reset, powers and times in order. -/
def samplesSinceReset {α : Type} (channel : EnergyChannel) (events : List (EnergyEvent α)) :
    List (α × Nat) :=
  events.foldl (fun samples event =>
    if event.channel = channel then
      match event with
      | .sample _ power time => samples ++ [(power, time)]
      | .reset _ => []
    else samples) []

/-- The energies that are counted on a channel. -/
def EnergyTotals.counted {α : Type} (totals : EnergyTotals α) : EnergyChannel → List α
  | .battery => [totals.used, totals.recovered]
  | .charger => [totals.charger]
  | .grid => [totals.grid]

namespace EnergyMeter

variable {α : Type}

/-- What a meter holds of a channel: its energies and the time of its last sample. -/
def channel (meter : EnergyMeter α) (channel : EnergyChannel) : List α × Option Nat :=
  (meter.totals.counted channel, meter.last.get channel)

variable [Scalar α]

/-- What an event makes of a meter. -/
def record (meter : EnergyMeter α) : EnergyEvent α → EnergyMeter α
  | .sample channel power time => meter.sample channel power time
  | .reset channel => meter.reset channel

/-- The meter after some events. -/
def recordAll (meter : EnergyMeter α) (events : List (EnergyEvent α)) : EnergyMeter α :=
  events.foldl record meter

/-- A new meter that is fed samples of one channel in order. -/
def fed (channel : EnergyChannel) (samples : List (α × Nat)) : EnergyMeter α :=
  samples.foldl (fun meter (power, time) => meter.sample channel power time) empty

lemma recordAll_append (meter : EnergyMeter α) (before after : List (EnergyEvent α)) :
    meter.recordAll (before ++ after) = (meter.recordAll before).recordAll after :=
  List.foldl_append

/-! ### The channels are apart -/

lemma counted_credit_of_ne (totals : EnergyTotals α) {c d : EnergyChannel} (h : d ≠ c) (delta : α) :
    (totals.credit c delta).counted d = totals.counted d := by
  cases c with
  | battery =>
      rw [EnergyTotals.credit]
      split_ifs <;> cases d <;> first | rfl | exact absurd rfl h
  | charger => cases d <;> first | rfl | exact absurd rfl h
  | grid => cases d <;> first | rfl | exact absurd rfl h

lemma counted_clear_of_ne (totals : EnergyTotals α) {c d : EnergyChannel} (h : d ≠ c) :
    (totals.clear c).counted d = totals.counted d := by
  cases c <;> cases d <;> first | rfl | exact absurd rfl h

/-- A channel does not see the events of the other ones. -/
lemma channel_record_of_ne (meter : EnergyMeter α) {event : EnergyEvent α} {c : EnergyChannel}
    (h : event.channel ≠ c) : (meter.record event).channel c = meter.channel c := by
  cases event with
  | sample d power time =>
      refine Prod.ext (counted_credit_of_ne _ (Ne.symm h) _) ?_
      exact (LastSamples.get_set _ _ _ _).trans (if_neg (Ne.symm h))
  | reset d =>
      refine Prod.ext (counted_clear_of_ne _ (Ne.symm h)) ?_
      exact (LastSamples.get_set _ _ _ _).trans (if_neg (Ne.symm h))

lemma channel_recordAll_of_ne (meter : EnergyMeter α) {events : List (EnergyEvent α)}
    {c : EnergyChannel} (h : ∀ event ∈ events, event.channel ≠ c) :
    (meter.recordAll events).channel c = meter.channel c := by
  induction events generalizing meter with
  | nil => rfl
  | cons event rest ih =>
      obtain ⟨hfirst, hrest⟩ := List.forall_mem_cons.mp h
      exact (ih (meter.record event) hrest).trans (meter.channel_record_of_ne hfirst)

/-- A reset channel is one of a new meter. -/
lemma channel_reset (meter : EnergyMeter α) (c : EnergyChannel) :
    (meter.reset c).channel c = (empty : EnergyMeter α).channel c := by
  cases c <;> rfl

lemma counted_credit_congr {totals others : EnergyTotals α} {c : EnergyChannel}
    (h : totals.counted c = others.counted c) (delta : α) :
    (totals.credit c delta).counted c = (others.credit c delta).counted c := by
  cases c with
  | battery =>
      simp only [EnergyTotals.counted, List.cons.injEq, and_true] at h
      obtain ⟨hused, hrecovered⟩ := h
      simp only [EnergyTotals.credit]
      split_ifs <;> simp [EnergyTotals.counted, hused, hrecovered]
  | charger =>
      simp only [EnergyTotals.counted, List.cons.injEq, and_true] at h
      simp [EnergyTotals.credit, EnergyTotals.counted, h]
  | grid =>
      simp only [EnergyTotals.counted, List.cons.injEq, and_true] at h
      simp [EnergyTotals.credit, EnergyTotals.counted, h]

lemma delta_congr {meter other : EnergyMeter α} {c : EnergyChannel}
    (h : meter.channel c = other.channel c) (power : α) (now : Nat) :
    meter.delta c power now = other.delta c power now := by
  have hlast : meter.last.get c = other.last.get c := congrArg Prod.snd h
  rw [delta, delta, hours, hours, hlast]

/-- What a sample comes to on its channel depends on that channel alone. -/
lemma channel_sample_congr {meter other : EnergyMeter α} {c : EnergyChannel}
    (h : meter.channel c = other.channel c) (power : α) (time : Nat) :
    (meter.sample c power time).channel c = (other.sample c power time).channel c := by
  have hcounted : meter.totals.counted c = other.totals.counted c := congrArg Prod.fst h
  have hnow : ∀ m : EnergyMeter α, (m.sample c power time).last.get c = some time :=
    fun m => (LastSamples.get_set _ _ _ _).trans (if_pos rfl)
  refine Prod.ext ?_ ((hnow meter).trans (hnow other).symm)
  calc (meter.totals.credit c (meter.delta c power time)).counted c
      = (other.totals.credit c (meter.delta c power time)).counted c :=
        counted_credit_congr hcounted _
    _ = (other.totals.credit c (other.delta c power time)).counted c := by rw [delta_congr h]

/-! ### The history of a channel -/

section

omit [Scalar α]

variable (events : List (EnergyEvent α)) (c : EnergyChannel)

lemma samplesSinceReset_concat_sample (power : α) (time : Nat) :
    samplesSinceReset c (events ++ [.sample c power time]) =
      samplesSinceReset c events ++ [(power, time)] := by
  rw [samplesSinceReset, List.foldl_append]
  exact if_pos rfl

lemma samplesSinceReset_concat_reset : samplesSinceReset c (events ++ [.reset c]) = [] := by
  rw [samplesSinceReset, List.foldl_append]
  exact if_pos rfl

variable {c} in
lemma samplesSinceReset_concat_of_ne {event : EnergyEvent α} (h : event.channel ≠ c) :
    samplesSinceReset c (events ++ [event]) = samplesSinceReset c events := by
  rw [samplesSinceReset, List.foldl_append]
  exact if_neg h

end

lemma fed_append (c : EnergyChannel) (samples : List (α × Nat)) (power : α) (time : Nat) :
    fed c (samples ++ [(power, time)]) = (fed c samples).sample c power time := by
  rw [fed, List.foldl_append]
  rfl

/-- A channel that holds its samples since the last reset goes on doing so. -/
lemma channel_record_of_eq {meter : EnergyMeter α} {events : List (EnergyEvent α)}
    {c : EnergyChannel} (h : meter.channel c = (fed c (samplesSinceReset c events)).channel c)
    (event : EnergyEvent α) :
    (meter.record event).channel c =
      (fed c (samplesSinceReset c (events ++ [event]))).channel c := by
  by_cases hevent : event.channel = c
  · cases event with
    | sample d power time =>
        obtain rfl : d = c := hevent
        rw [samplesSinceReset_concat_sample, fed_append]
        exact channel_sample_congr h power time
    | reset d =>
        obtain rfl : d = c := hevent
        rw [samplesSinceReset_concat_reset]
        exact channel_reset _ d
  · rw [channel_record_of_ne _ hevent, samplesSinceReset_concat_of_ne events hevent]
    exact h

/-- What a meter has counted on a channel is what a new meter counts that is fed
the samples of that channel since its last reset, and nothing else. -/
lemma channel_recordAll (events : List (EnergyEvent α)) (c : EnergyChannel) :
    ((empty : EnergyMeter α).recordAll events).channel c =
      (fed c (samplesSinceReset c events)).channel c := by
  induction events using List.reverseRecOn with
  | nil => rfl
  | append_singleton events event ih =>
      rw [recordAll_append]
      exact channel_record_of_eq ih event

lemma last_fed (c : EnergyChannel) (samples : List (α × Nat)) :
    (fed c samples : EnergyMeter α).last.get c = samples.getLast?.map Prod.snd := by
  induction samples using List.reverseRecOn with
  | nil => cases c <;> rfl
  | append_singleton samples sample _ =>
      obtain ⟨power, time⟩ := sample
      rw [fed_append, List.getLast?_concat]
      exact (LastSamples.get_set _ _ _ _).trans (if_pos rfl)

/-- The last sample of a channel is the one that its history ends with. -/
lemma last_recordAll (events : List (EnergyEvent α)) (c : EnergyChannel) :
    ((empty : EnergyMeter α).recordAll events).last.get c =
      (samplesSinceReset c events).getLast?.map Prod.snd :=
  (congrArg Prod.snd (channel_recordAll events c)).trans (last_fed c _)

/-- A reset makes a channel forget whatever it has held before. -/
lemma channel_recordAll_of_reset (meter : EnergyMeter α) {events : List (EnergyEvent α)}
    {c : EnergyChannel} (hreset : .reset c ∈ events) :
    (meter.recordAll events).channel c = (fed c (samplesSinceReset c events)).channel c := by
  induction events using List.reverseRecOn with
  | nil => cases hreset
  | append_singleton events event ih =>
      rw [recordAll_append]
      by_cases hlast : event = .reset c
      · rw [hlast, samplesSinceReset, List.foldl_append]
        exact (channel_reset _ c).trans (by simp [fed, EnergyEvent.channel])
      · have hbefore : .reset c ∈ events := by
          simpa [Ne.symm hlast] using hreset
        exact channel_record_of_eq (ih hbefore) event

/-! ### The order of events -/

omit [Scalar α] in
/-- The channels are all that a meter holds. -/
lemma ext_channel {meter other : EnergyMeter α} (h : ∀ c, meter.channel c = other.channel c) :
    meter = other := by
  obtain ⟨⟨used, recovered, charger, grid⟩, ⟨first, second, third⟩⟩ := meter
  obtain ⟨⟨used', recovered', charger', grid'⟩, ⟨first', second', third'⟩⟩ := other
  have hbattery := h .battery
  have hcharger := h .charger
  have hgrid := h .grid
  simp only [channel, EnergyTotals.counted, LastSamples.get, Prod.mk.injEq, List.cons.injEq,
    and_true] at hbattery hcharger hgrid
  obtain ⟨⟨rfl, rfl⟩, rfl⟩ := hbattery
  obtain ⟨rfl, rfl⟩ := hcharger
  obtain ⟨rfl, rfl⟩ := hgrid
  rfl

/-- What an event makes of its channel depends on that channel alone. -/
lemma channel_record_congr {meter other : EnergyMeter α} {event : EnergyEvent α}
    {c : EnergyChannel} (h : meter.channel c = other.channel c) (hevent : event.channel = c) :
    (meter.record event).channel c = (other.record event).channel c := by
  subst hevent
  cases event with
  | sample c power time => exact channel_sample_congr h power time
  | reset c => exact (channel_reset _ c).trans (channel_reset _ c).symm

/-- Two events of different channels can come in either order. -/
lemma record_comm (meter : EnergyMeter α) {event other : EnergyEvent α}
    (h : event.channel = other.channel → event = other) :
    (meter.record event).record other = (meter.record other).record event := by
  by_cases hsame : event.channel = other.channel
  · rw [h hsame]
  · refine ext_channel fun c => ?_
    by_cases hevent : event.channel = c
    · have hother : other.channel ≠ c := fun hc => hsame (hevent.trans hc.symm)
      calc ((meter.record event).record other).channel c
          = (meter.record event).channel c := channel_record_of_ne _ hother
        _ = ((meter.record other).record event).channel c :=
          channel_record_congr (channel_record_of_ne _ hother).symm hevent
    · rw [channel_record_of_ne _ hevent]
      by_cases hother : other.channel = c
      · exact channel_record_congr (channel_record_of_ne _ hevent) hother
      · rw [channel_record_of_ne _ hother, channel_record_of_ne _ hother,
          channel_record_of_ne _ hevent]

lemma recordAll_record_comm (meter : EnergyMeter α) {event : EnergyEvent α}
    {events : List (EnergyEvent α)}
    (h : ∀ other ∈ events, event.channel = other.channel → event = other) :
    (meter.record event).recordAll events = (meter.recordAll events).record event := by
  induction events generalizing meter with
  | nil => rfl
  | cons other rest ih =>
      obtain ⟨hfirst, hrest⟩ := List.forall_mem_cons.mp h
      calc ((meter.record event).record other).recordAll rest
          = ((meter.record other).record event).recordAll rest := by
            rw [meter.record_comm hfirst]
        _ = ((meter.record other).recordAll rest).record event := ih _ hrest

/-- Two histories can come in either order if what they share of a channel is one event,
such as a reset. -/
theorem recordAll_comm (meter : EnergyMeter α) {events more : List (EnergyEvent α)}
    (h : ∀ event ∈ events, ∀ other ∈ more, event.channel = other.channel → event = other) :
    (meter.recordAll events).recordAll more = (meter.recordAll more).recordAll events := by
  induction events generalizing meter with
  | nil => rfl
  | cons event rest ih =>
      obtain ⟨hfirst, hrest⟩ := List.forall_mem_cons.mp h
      calc ((meter.record event).recordAll rest).recordAll more
          = ((meter.record event).recordAll more).recordAll rest := ih _ hrest
        _ = ((meter.recordAll more).record event).recordAll rest := by
          rw [meter.recordAll_record_comm hfirst]

end EnergyMeter

end VehicleTelemetry
