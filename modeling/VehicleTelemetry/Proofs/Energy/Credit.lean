import Mathlib.Tactic
import VehicleTelemetry.Proofs.Energy.History
import VehicleTelemetry.Proofs.Exact

/-!
Each channel is credited with the time that has passed on it, and with no other.

* `elapsed`, `sum_elapsed`: what passes between samples adds up to what passes between the first
  and the last of them, however many lie in between;
* `deltas_filter`: the energies of a channel's samples are those of a meter that hears of nothing
  else;
* `hoursSinceReset_eq`: the hours that a channel has been credited with since its last reset,
  read off the times of its samples;
* `counted_fed_constant`: in exact arithmetic a constant power has come to its product with these
  hours;
* `credit_history` puts these together for a meter with a history.
-/

namespace VehicleTelemetry

variable {α : Type}

/-! ### The time between samples -/

/-- The milliseconds from each time to the next one, none where the clock has stepped back. -/
def elapsed : List Nat → List Nat
  | first :: second :: rest => (second - first) :: elapsed (second :: rest)
  | _ => []

lemma elapsed_concat (times : List Nat) (now : Nat) :
    elapsed (times ++ [now]) =
      elapsed times ++ (times.getLast?.map fun last => now - last).toList := by
  induction times using elapsed.induct with
  | case1 first second rest ih =>
      rw [List.getLast?_cons_cons]
      simp only [List.cons_append, elapsed] at ih ⊢
      rw [ih]
  | case2 times h =>
      match times, h with
      | [], _ => rfl
      | [first], _ => rfl
      | first :: second :: rest, h => exact absurd rfl (h first second rest)

lemma first_le_last {times : List Nat} (h : times.Pairwise (· ≤ ·)) {first last : Nat}
    (hfirst : times.head? = some first) (hlast : times.getLast? = some last) : first ≤ last := by
  obtain ⟨rest, rfl⟩ := List.head?_eq_some_iff.mp hfirst
  obtain rfl | hrest := List.mem_cons.mp (List.mem_of_getLast? hlast)
  · exact le_rfl
  · exact List.rel_of_pairwise_cons h hrest

/-- Of times in order, what passes from each to the next adds up to what passes from the first to
the last. -/
lemma sum_elapsed {times : List Nat} (h : times.Pairwise (· ≤ ·)) {first last : Nat}
    (hfirst : times.head? = some first) (hlast : times.getLast? = some last) :
    (elapsed times).sum = last - first := by
  induction times using elapsed.induct generalizing first with
  | case1 start second rest ih =>
      obtain rfl : start = first := by simpa using hfirst
      rw [List.getLast?_cons_cons] at hlast
      obtain ⟨hstart, htail⟩ := List.pairwise_cons.mp h
      have hsecond : start ≤ second := hstart second (List.mem_cons_self ..)
      have hle : second ≤ last := first_le_last htail rfl hlast
      calc (elapsed (start :: second :: rest)).sum
          = (second - start) + (elapsed (second :: rest)).sum := List.sum_cons
        _ = (second - start) + (last - second) := by rw [ih htail rfl hlast]
        _ = last - start := by omega
  | case2 times hshort =>
      match times, hshort with
      | [], _ => cases hfirst
      | [only], _ =>
          simp only [List.head?_cons, List.getLast?_singleton, Option.some.injEq] at hfirst hlast
          subst hfirst hlast
          simp [elapsed]
      | start :: second :: rest, hshort => exact absurd rfl (hshort start second rest)

namespace EnergyMeter

variable [Scalar α]

/-! ### One channel of several -/

/-- The energies that the samples of a channel come to, one after another. -/
def deltas (c : EnergyChannel) (meter : EnergyMeter α) : List (EnergyEvent α) → List α
  | [] => []
  | .sample d power now :: rest =>
    if d = c then meter.delta c power now :: deltas c (meter.sample d power now) rest
    else deltas c (meter.sample d power now) rest
  | .reset d :: rest => deltas c (meter.reset d) rest

/-- Neither what a channel holds nor the energies of its samples depend on other channels. -/
lemma deltas_filter {meter other : EnergyMeter α} {c : EnergyChannel}
    (h : meter.channel c = other.channel c) (events : List (EnergyEvent α)) :
    (meter.recordAll events).channel c =
        (other.recordAll (events.filter (·.channel = c))).channel c ∧
      deltas c meter events = deltas c other (events.filter (·.channel = c)) := by
  induction events generalizing meter other with
  | nil => exact ⟨h, rfl⟩
  | cons event rest ih =>
      -- both meters take in an event of the channel; any other leaves that channel of the first
      by_cases hevent : event.channel = c
      · obtain ⟨hchannel, hdeltas⟩ := ih (channel_record_congr h hevent)
        rw [List.filter_cons_of_pos (by simpa using hevent)]
        refine ⟨hchannel, ?_⟩
        cases event with
        | sample d power now =>
            obtain rfl : d = c := hevent
            simp only [deltas, if_true]
            exact congrArg₂ List.cons (delta_congr h power now) hdeltas
        | reset d => exact hdeltas
      · obtain ⟨hchannel, hdeltas⟩ := ih ((channel_record_of_ne meter hevent).trans h)
        rw [List.filter_cons_of_neg (by simpa using hevent)]
        refine ⟨hchannel, ?_⟩
        cases event with
        | sample d power now =>
            have hd : ¬ d = c := hevent
            simp only [deltas, if_neg hd]
            exact hdeltas
        | reset d => exact hdeltas

/-! ### The hours of a channel -/

/-- The hours of a sample, by the time of the one before it. -/
def hoursAfter (last? : Option Nat) (now : Nat) : α :=
  match last? with
  | none => Scalar.ofNat 1 / Scalar.ofNat 3600
  | some last => Scalar.ofNat (now - last) / Scalar.ofNat 3600000

/-- The hours of samples that follow a reset: one second for the first of them, and for each other
one what has passed since the one before it. -/
def creditedHours : List Nat → List α
  | [] => []
  | first :: rest =>
    Scalar.ofNat 1 / Scalar.ofNat 3600 ::
      (elapsed (first :: rest)).map fun ms => Scalar.ofNat ms / Scalar.ofNat 3600000

lemma creditedHours_concat (times : List Nat) (now : Nat) :
    (creditedHours (times ++ [now]) : List α) =
      creditedHours times ++ [hoursAfter times.getLast? now] := by
  cases times with
  | nil => rfl
  | cons first rest =>
      obtain ⟨last, hlast⟩ : ∃ last, (first :: rest).getLast? = some last :=
        ⟨_, List.getLast?_eq_some_getLast (List.cons_ne_nil first rest)⟩
      have helapsed := elapsed_concat (first :: rest) now
      rw [hlast, List.cons_append] at helapsed
      rw [List.cons_append, creditedHours, helapsed, hlast, List.map_append]
      rfl

lemma hours_recordAll (events : List (EnergyEvent α)) (c : EnergyChannel) (now : Nat) :
    ((empty : EnergyMeter α).recordAll events).hours c now =
      hoursAfter ((samplesSinceReset c events).map Prod.snd).getLast? now := by
  rw [List.getLast?_map, ← last_recordAll]
  rfl

/-- An event of a meter that keeps the hours a channel has been credited with since its last
reset. -/
def recordHours (c : EnergyChannel) (state : EnergyMeter α × List α) (event : EnergyEvent α) :
    EnergyMeter α × List α :=
  (state.1.record event,
    if event.channel = c then
      match event with
      | .sample _ _ now => state.2 ++ [state.1.hours c now]
      | .reset _ => []
    else state.2)

/-- The hours that the samples of a channel since its last reset are credited with. -/
def hoursSinceReset (c : EnergyChannel) (events : List (EnergyEvent α)) : List α :=
  (events.foldl (recordHours c) (empty, [])).2

/-- They are what its times say. -/
lemma hoursSinceReset_eq (c : EnergyChannel) (events : List (EnergyEvent α)) :
    hoursSinceReset c events = creditedHours ((samplesSinceReset c events).map Prod.snd) := by
  -- the hours are read off the meter, so the induction says what that is as well
  suffices h : events.foldl (recordHours c) ((empty : EnergyMeter α), []) =
      (empty.recordAll events, creditedHours ((samplesSinceReset c events).map Prod.snd)) from
    congrArg Prod.snd h
  induction events using List.reverseRecOn with
  | nil => rfl
  | append_singleton events event ih =>
      rw [List.foldl_append, ih, recordAll_append]
      refine Prod.ext rfl ?_
      by_cases hevent : event.channel = c
      · cases event with
        | sample d power now =>
            obtain rfl : d = c := hevent
            rw [samplesSinceReset_concat_sample, List.map_append, List.map_cons, List.map_nil,
              creditedHours_concat, ← hours_recordAll]
            exact if_pos rfl
        | reset d =>
            obtain rfl : d = c := hevent
            rw [samplesSinceReset_concat_reset]
            exact if_pos rfl
      · rw [samplesSinceReset_concat_of_ne events hevent]
        exact if_neg hevent

/-! ### A constant power -/

open Exact

/-- The energies of a channel that nothing has flown back on. -/
def inflow (c : EnergyChannel) (total : ℚ) : List ℚ :=
  if c = .battery then [total, 0] else [total]

lemma hoursAfter_nonneg (last? : Option Nat) (now : Nat) : (0 : ℚ) ≤ hoursAfter last? now := by
  cases last? with
  | none => exact div_nonneg (Nat.cast_nonneg 1) (Nat.cast_nonneg 3600)
  | some last => exact div_nonneg (Nat.cast_nonneg (now - last)) (Nat.cast_nonneg 3600000)

lemma counted_credit_of_nonneg {totals : EnergyTotals ℚ} {c : EnergyChannel} {total delta : ℚ}
    (h : totals.counted c = inflow c total) (hdelta : 0 ≤ delta) :
    (totals.credit c delta).counted c = inflow c (total + delta) := by
  have hmax : Scalar.max delta 0 = delta := (max_eq_max delta 0).trans (max_eq_left hdelta)
  cases c with
  | battery =>
      obtain ⟨hused, hrecovered⟩ : totals.used = total ∧ totals.recovered = 0 := by
        simpa [EnergyTotals.counted, inflow] using h
      simp only [EnergyTotals.credit, below_iff, zero_eq_zero, not_lt.mpr hdelta, if_false]
      split_ifs with hpos
      · simp [EnergyTotals.counted, inflow, hused, hrecovered]
      · obtain rfl : delta = 0 := le_antisymm (not_lt.mp hpos) hdelta
        simpa using h
  | charger =>
      have htotal : totals.charger = total := by simpa [EnergyTotals.counted, inflow] using h
      simp [EnergyTotals.credit, EnergyTotals.counted, inflow, hmax, htotal]
  | grid =>
      have htotal : totals.grid = total := by simpa [EnergyTotals.counted, inflow] using h
      simp [EnergyTotals.credit, EnergyTotals.counted, inflow, hmax, htotal]

/-- Without rounding, a constant power has come to its product with the hours it was credited
with. -/
lemma counted_fed_constant (c : EnergyChannel) {power : ℚ} (hpower : 0 ≤ power)
    {samples : List (ℚ × Nat)} (hconstant : ∀ sample ∈ samples, sample.1 = power) :
    (fed c samples).totals.counted c =
      inflow c (power * (creditedHours (samples.map Prod.snd)).sum) := by
  induction samples using List.reverseRecOn with
  | nil =>
      cases c <;>
        simp [fed, empty, EnergyTotals.zero, EnergyTotals.counted, inflow, creditedHours]
  | append_singleton samples sample ih =>
      obtain ⟨sampled, now⟩ := sample
      obtain ⟨hbefore, hlast⟩ := List.forall_mem_append.mp hconstant
      have hsampled : sampled = power := hlast _ (List.mem_singleton_self _)
      have hhours : (fed c samples : EnergyMeter ℚ).hours c now =
          hoursAfter (samples.map Prod.snd).getLast? now := by
        rw [List.getLast?_map, ← last_fed c]
        rfl
      have hdelta : 0 ≤ (fed c samples).delta c power now := by
        rw [delta, hhours]
        exact mul_nonneg hpower (hoursAfter_nonneg _ _)
      rw [hsampled, fed_append, List.map_append, List.map_cons, List.map_nil, creditedHours_concat,
        List.sum_append, List.sum_singleton, mul_add, ← hhours]
      exact counted_credit_of_nonneg (ih hbefore) hdelta

lemma sum_creditedHours {times : List Nat} {first : Nat} (hfirst : times.head? = some first) :
    (creditedHours times : List ℚ).sum = 1 / 3600 + (elapsed times).sum / 3600000 := by
  cases times with
  | nil => cases hfirst
  | cons start rest =>
      rw [creditedHours, List.sum_cons]
      have hmap : ((elapsed (start :: rest)).map fun ms : ℕ => (ms : ℚ) / 3600000).sum =
          (elapsed (start :: rest)).sum / 3600000 := by
        simp only [div_eq_mul_inv]
        rw [List.sum_map_mul_right, Nat.cast_list_sum]
      simpa using hmap

/-- **Channels are apart and are credited with the time that has passed.** What a channel has
counted, the time of its last sample and the energies of its samples are those of a meter that
hears only of this channel. A sample is credited with one second if there was none on the channel
since its last reset, and else with what has passed since the one before it, which is nothing where
the clock has stepped back. If it never has since the last reset, what the samples but the first are
credited with adds up to what has passed from the first to the last, however many there are between;
and without rounding, a constant power of at least zero has come to its product with that and the
one second of the first sample. -/
theorem credit_history (c : EnergyChannel) :
    (∀ {α : Type} [Scalar α] (events : List (EnergyEvent α)),
      let meter := (empty : EnergyMeter α).recordAll events
      let own := events.filter (·.channel = c)
      let times := (samplesSinceReset c events).map Prod.snd
      meter.channel c = (empty.recordAll own).channel c ∧
      deltas c empty events = deltas c empty own ∧
      (∀ (power : α) (now : Nat),
        (times = [] →
          meter.delta c power now = power * (Scalar.ofNat 1 / Scalar.ofNat 3600)) ∧
        ∀ last, times.getLast? = some last →
          meter.delta c power now =
            power * (Scalar.ofNat (max 0 ((now : ℤ) - last)).toNat / Scalar.ofNat 3600000)) ∧
      hoursSinceReset c events = creditedHours times ∧
      (times.Pairwise (· ≤ ·) → ∀ first last, times.head? = some first →
        times.getLast? = some last → (elapsed times).sum = last - first)) ∧
    ∀ (events : List (EnergyEvent ℚ)) (power : ℚ), 0 ≤ power →
      (∀ sample ∈ samplesSinceReset c events, sample.1 = power) →
      let times := (samplesSinceReset c events).map Prod.snd
      times.Pairwise (· ≤ ·) → ∀ first last : Nat, times.head? = some first →
        times.getLast? = some last →
        ((empty : EnergyMeter ℚ).recordAll events).totals.counted c =
          inflow c (power * (1 / 3600 + ((last : ℚ) - first) / 3600000)) := by
  refine ⟨?_, ?_⟩
  · intro α _ events meter own times
    have hnew : (empty : EnergyMeter α).channel c = (empty : EnergyMeter α).channel c := rfl
    obtain ⟨hchannel, hdeltas⟩ := deltas_filter hnew events
    refine ⟨hchannel, hdeltas, ?_, hoursSinceReset_eq c events, fun h _ _ => sum_elapsed h⟩
    intro power now
    have hhours : meter.hours c now = hoursAfter times.getLast? now := hours_recordAll events c now
    refine ⟨?_, ?_⟩
    · intro hnone
      rw [delta, hhours, hnone]
      rfl
    · intro last hlast
      have hpassed : (max 0 ((now : ℤ) - last)).toNat = now - last := by omega
      rw [delta, hhours, hlast, hpassed]
      rfl
  -- over the rationals, one power times all the hours since the reset
  · intro events power hpower hconstant times hsorted first last hfirst hlast
    have hle : first ≤ last := first_le_last hsorted hfirst hlast
    have hcounted : ((empty : EnergyMeter ℚ).recordAll events).totals.counted c =
        (fed c (samplesSinceReset c events)).totals.counted c :=
      congrArg Prod.fst (channel_recordAll events c)
    rw [hcounted, counted_fed_constant c hpower hconstant, sum_creditedHours hfirst,
      sum_elapsed hsorted hfirst hlast, Nat.cast_sub hle]

/-- Thirty-six kilowatts, sampled on the battery at three times and on the grid in between. -/
theorem credit_history_interleaved :
    let events : List (EnergyEvent ℚ) :=
      [.sample .battery 20 0, .reset .battery, .sample .battery 36 1000, .sample .grid 3 500,
        .sample .battery 36 4600, .reset .grid, .sample .battery 36 8200]
    let meter := (empty : EnergyMeter ℚ).recordAll events
    let times := (samplesSinceReset .battery events).map Prod.snd
    (times = [1000, 4600, 8200] ∧ (elapsed times).sum = 8200 - 1000 ∧
      meter.totals.counted .battery = [36 * (1 / 3600 + (8200 - 1000) / 3600000), 0]) ∧
    meter.delta .battery 36 10000 = 36 * (1800 / 3600000) ∧
    ((samplesSinceReset .grid events).map Prod.snd = [] ∧
      meter.delta .grid 3 9000 = 3 * (1 / 3600)) := by
  intro events meter times
  obtain ⟨hgeneral, hconstant⟩ := credit_history .battery
  obtain ⟨-, -, hdelta, -, hsum⟩ := hgeneral events
  obtain ⟨-, -, hgrid, -⟩ := (credit_history .grid).1 events
  have hsorted : times.Pairwise (· ≤ ·) := by
    have htimes : times = [1000, 4600, 8200] := rfl
    rw [htimes]
    decide
  refine ⟨⟨rfl, hsum hsorted 1000 8200 rfl rfl, ?_⟩, ?_, rfl, ?_⟩
  · exact hconstant events 36 (by norm_num) (by decide) hsorted 1000 8200 rfl rfl
  · exact (hdelta 36 10000).2 8200 rfl
  · exact (hgrid 3 9000).1 rfl

end EnergyMeter

end VehicleTelemetry
