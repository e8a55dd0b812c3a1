import Mathlib.Tactic
import VehicleTelemetry.Proofs.Binary64.Arithmetic
import VehicleTelemetry.Proofs.Payload.Reading
import VehicleTelemetry.Proofs.Recorder.Effects

/-!
The distance of a trip is counted from the first odometer reading after the
vehicle got ready.

* `MetricEntry.Baseline`: the entry of the baseline after some readings since then.
  It holds the first of them, and is stale as long as there is none
  (`Baseline.isStale`);
* `Baseline.mark`, `Baseline.setOdometer`: getting ready and a reading keep it so, and what
  a reading writes besides;
* `Decode.odometer_sub_self`: an odometer reading is a finite float, so that a trip
  starts at zero.
-/

namespace VehicleTelemetry

/-! ### Readings are finite -/

/-- An odometer reading less itself is zero. -/
lemma Decode.odometer_sub_self {data : Payload} {reading : Float}
    (h : Decode.odometer data = .ok reading) : reading - reading = 0.0 := by
  rw [Decode.odometer] at h
  cases hraw : data.unsigned 0 4 with
  | error cause =>
      rw [hraw] at h
      cases h
  | ok raw =>
      rw [hraw] at h
      obtain rfl : Float.ofNat raw / 10.0 = reading := Except.ok.inj h
      have hten : (10.0 : Float).toModel.unpack =
          .finite .positive (5 * 2 ^ 50) (-49) (by decide) := rfl
      have hlt : raw < 2 ^ 53 := (Payload.unsigned_lt hraw).trans (by decide)
      exact Binary64.sub_self_of_upTo (k := 53)
        (Binary64.upTo_div (Binary64.upTo_ofNat hlt) hten (by decide) (by decide) (by decide))

/-! ### The baseline -/

/-- The entry of the baseline when the odometer readings since the vehicle got ready
are `readings`. -/
structure MetricEntry.Baseline (entry : MetricEntry) (readings : List Float) : Prop where
  lifetime_eq : entry.lifetime = none
  seeded : ∀ first ∈ readings.head?, entry.value = some (.float first) ∧ entry.marked = false
  unseeded : readings = [] → entry.value = none ∨ entry.marked = true

namespace MetricEntry.Baseline

variable {store : MetricStore} {entry : MetricEntry} {readings : List Float}

/-- A trip without readings has no baseline that counts. -/
lemma of_new : ({} : MetricEntry).Baseline [] :=
  ⟨rfl, nofun, fun _ => .inl rfl⟩

lemma mark (h : entry.Baseline readings) : entry.markStale.Baseline [] :=
  ⟨h.lifetime_eq, nofun, fun _ => .inr rfl⟩

/-- The baseline is stale until a reading seeds it. -/
lemma isStale (h : (store.entry Signal.tripStart).Baseline readings) (now : Nat) :
    store.isStale now Signal.tripStart = readings.isEmpty := by
  cases readings with
  | nil => obtain hnone | hmarked := h.unseeded rfl <;> simp [MetricStore.isStale, *]
  | cons first rest =>
      obtain ⟨hvalue, hmarked⟩ := h.seeded first rfl
      simp [MetricStore.isStale, hvalue, hmarked, h.lifetime_eq]

end MetricEntry.Baseline

namespace Recorder

variable (r : Recorder) (now : Nat) (reading : Float)

/-- A reading is the baseline if there is none that counts. -/
lemma entry_tripStart_setOdometer :
    (r.setOdometer now reading).value.store.entry Signal.tripStart =
      if r.store.isStale now Signal.tripStart then
        (r.store.entry Signal.tripStart).write now (.float reading)
      else r.store.entry Signal.tripStart := by
  have hentry : (r.put now Signal.odometer (.float reading)).store.entry Signal.tripStart =
      r.store.entry Signal.tripStart := by
    rw [store_put, MetricStore.entry_set, if_neg (by decide)]
  rw [value_setOdometer_eq_ite]
  split
  · rw [store_put, MetricStore.entry_set, if_neg (by decide), store_put,
      MetricStore.entry_set_self, hentry]
  · rw [store_put, MetricStore.entry_set, if_neg (by decide), hentry]

lemma value?_odometer_setOdometer :
    (r.setOdometer now reading).value.store.value? Signal.odometer = some (.float reading) := by
  rw [value_setOdometer_eq_ite]
  split
  · rw [store_put, MetricStore.value?_set_of_ne _ _ (by decide), store_put,
      MetricStore.value?_set_of_ne _ _ (by decide), store_put, MetricStore.value?_set_self]
  · rw [store_put, MetricStore.value?_set_of_ne _ _ (by decide), store_put,
      MetricStore.value?_set_self]

/-- The trip is the distance from the baseline that counts after the reading. -/
lemma value?_trip_setOdometer {first : Float}
    (h : (r.setOdometer now reading).value.store.value? Signal.tripStart = some (.float first)) :
    (r.setOdometer now reading).value.store.value? Signal.trip =
      some (.float (reading - first)) := by
  rw [value_setOdometer] at h ⊢
  dsimp only at h ⊢
  rw [store_put, MetricStore.value?_set_of_ne _ _ (by decide)] at h
  rw [store_put, MetricStore.value?_set_self, MetricStore.float, h]
  rfl

end Recorder

/-- A reading keeps the baseline at the first reading of the trip, and counts from
there. -/
lemma MetricEntry.Baseline.setOdometer {r : Recorder} {readings : List Float}
    (h : (r.store.entry Signal.tripStart).Baseline readings) (now : Nat) (reading : Float) :
    let after := (r.setOdometer now reading).value.store
    (after.entry Signal.tripStart).Baseline (readings ++ [reading]) ∧
      ∃ first, (readings ++ [reading]).head? = some first ∧
        after.value? Signal.tripStart = some (.float first) ∧
        after.value? Signal.odometer = some (.float reading) ∧
        after.value? Signal.trip = some (.float (reading - first)) := by
  intro after
  have hbaseline : (after.entry Signal.tripStart).Baseline (readings ++ [reading]) := by
    rw [r.entry_tripStart_setOdometer now reading, h.isStale now]
    -- the entry is stale exactly if it has no readings, and only then the new one is written to it
    cases readings with
    | nil =>
        refine ⟨h.lifetime_eq, fun first hfirst => ?_, by simp⟩
        obtain rfl : reading = first := Option.some.inj hfirst
        exact ⟨rfl, rfl⟩
    | cons first rest => exact ⟨h.lifetime_eq, h.seeded, by simp⟩
  have hsome : (readings ++ [reading]).head?.isSome := by simp
  obtain ⟨first, hfirst⟩ := Option.isSome_iff_exists.mp hsome
  have hstart : after.value? Signal.tripStart = some (.float first) :=
    (hbaseline.seeded first hfirst).1
  exact ⟨hbaseline, first, hfirst, hstart, r.value?_odometer_setOdometer now reading,
    r.value?_trip_setOdometer now reading hstart⟩

end VehicleTelemetry
