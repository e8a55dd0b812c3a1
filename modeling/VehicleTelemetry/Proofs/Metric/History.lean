import Mathlib.Data.Set.Card
import Mathlib.Tactic
import VehicleTelemetry.Clock
import VehicleTelemetry.Proofs.Metric.Frame

/-!
What a metric store shows, as a function of all that has happened to it and to its clock.

* `StoreEvent`, `ClockedStore.run`: writes, marks, lifetimes and moves of the clock in any order;
* `lastWrite?`, `lastMark?`, `lastLifetime?`: what a history says of a metric, and `entry_run`
  that its entry holds nothing else;
* `mem_snapshot_iff`, `pairwise_snapshot`, `size_eq`: a snapshot is the metrics with a value;
* `run_history`: the theorem for all histories and all names.
-/

namespace VehicleTelemetry

/-- What can happen to a metric store and to the clock that it reads. -/
inductive StoreEvent where
  | set (name : String) (value : MetricValue)
  | mark (name : String) (stale : Bool)
  | setLifetime (name : String) (seconds : Option Nat)
  | advance (elapsed : Nat)
  | setClock (time : Nat)

namespace StoreEvent

/-- The time after an event at time `now`. -/
def timeAfter (now : Nat) : StoreEvent → Nat
  | advance elapsed => Clock.advance now elapsed
  | setClock time => time
  | _ => now

/-- The value that an event writes to a metric. -/
def written? (name : String) : StoreEvent → Option MetricValue
  | set other value => if other = name then some value else none
  | _ => none

/-- The mark that an event gives to a metric. -/
def marked? (name : String) : StoreEvent → Option Bool
  | mark other stale => if other = name then some stale else none
  | _ => none

/-- The lifetime that an event gives to a metric. -/
def lifetime? (name : String) : StoreEvent → Option (Option Nat)
  | setLifetime other seconds => if other = name then some seconds else none
  | _ => none

/-- An event that moves the clock or is about a metric. -/
def concerns (name : String) : StoreEvent → Bool
  | set other _ | mark other _ | setLifetime other _ => other = name
  | advance _ | setClock _ => true

end StoreEvent

open StoreEvent

/-! ### What a history says of a metric -/

/-- The writes of a metric with their times, from time `start` on. -/
def writes (name : String) (start : Nat) : List StoreEvent → List (Nat × MetricValue)
  | [] => []
  | event :: rest =>
    ((event.written? name).map (start, ·)).toList ++ writes name (event.timeAfter start) rest

/-- The last value that is written to a metric, and when. -/
def lastWrite? (name : String) (start : Nat) (events : List StoreEvent) :
    Option (Nat × MetricValue) :=
  (writes name start events).getLast?

/-- The last mark that a metric is given after its last write. -/
def lastMark? (name : String) (events : List StoreEvent) : Option Bool :=
  ((events.reverse.takeWhile fun event => (event.written? name).isNone).filterMap
    (marked? name)).head?

/-- The last lifetime that a metric is given. -/
def lastLifetime? (name : String) (events : List StoreEvent) : Option (Option Nat) :=
  (events.filterMap (lifetime? name)).getLast?

/-- A store and the time that its clock shows. -/
structure ClockedStore where
  now : Nat
  store : MetricStore

namespace ClockedStore

/-- What an event makes of a store and its clock. -/
def step (s : ClockedStore) (event : StoreEvent) : ClockedStore where
  now := event.timeAfter s.now
  store := match event with
    | .set name value => s.store.set s.now name value
    | .mark name stale => s.store.mark name stale
    | .setLifetime name seconds => s.store.setLifetime name seconds
    | .advance _ | .setClock _ => s.store

/-- An empty store after some events, the clock of which shows `start` at first. -/
def run (start : Nat) (events : List StoreEvent) : ClockedStore :=
  events.foldl step ⟨start, MetricStore.empty⟩

variable {start : Nat} {events : List StoreEvent} {event : StoreEvent} {name : String}

lemma run_concat : run start (events ++ [event]) = (run start events).step event := by
  rw [run, List.foldl_append]
  rfl

lemma now_step (s : ClockedStore) : (s.step event).now = event.timeAfter s.now := rfl

/-- What an event makes of an entry. -/
lemma entry_step (s : ClockedStore) (event : StoreEvent) (name : String) :
    (s.step event).store.entry name =
      { value := (event.written? name).or (s.store.entry name).value
        written := ((event.written? name).map fun _ => s.now).getD (s.store.entry name).written
        marked := ((event.written? name).map fun _ => false).getD
          ((event.marked? name).getD (s.store.entry name).marked)
        lifetime := (event.lifetime? name).getD (s.store.entry name).lifetime } := by
  cases event with
  | set other value =>
      rw [step, MetricStore.entry_set]
      by_cases hname : name = other
      · simp [written?, lifetime?, hname]
      · simp [written?, marked?, lifetime?, hname, Ne.symm hname]
  | mark other stale =>
      rw [step, MetricStore.entry_mark]
      by_cases hname : name = other
      · simp [written?, marked?, lifetime?, hname]
      · simp [written?, marked?, lifetime?, hname, Ne.symm hname]
  | setLifetime other seconds =>
      rw [step, MetricStore.entry_setLifetime]
      by_cases hname : name = other
      · simp [written?, marked?, lifetime?, hname]
      · simp [written?, marked?, lifetime?, hname, Ne.symm hname]
  | advance _ => rfl
  | setClock _ => rfl

/-! ### One event more -/

/-- The clock does not look at the store. -/
lemma now_run : (run start events).now = events.foldl timeAfter start := by
  induction events using List.reverseRecOn with
  | nil => rfl
  | append_singleton events event ih =>
      rw [run_concat, now_step, List.foldl_append, ih]
      rfl

lemma writes_concat :
    writes name start (events ++ [event]) =
      writes name start events ++
        ((event.written? name).map ((run start events).now, ·)).toList := by
  rw [now_run]
  induction events generalizing start with
  | nil => simp [writes]
  | cons first rest ih =>
      rw [List.cons_append, writes, ih, writes, List.append_assoc, List.foldl_cons]

lemma lastWrite?_concat :
    lastWrite? name start (events ++ [event]) =
      ((event.written? name).map ((run start events).now, ·)).or
        (lastWrite? name start events) := by
  rw [lastWrite?, writes_concat, List.getLast?_append]
  cases event.written? name <;> rfl

/-- A write takes back the marks before it. -/
lemma lastMark?_concat :
    lastMark? name (events ++ [event]) =
      if (event.written? name).isSome then none
      else (event.marked? name).or (lastMark? name events) := by
  rw [lastMark?, List.reverse_append, List.reverse_singleton, List.singleton_append,
    List.takeWhile_cons]
  cases hwritten : event.written? name with
  | some value => simp
  | none =>
      cases hmarked : event.marked? name with
      | some stale => simp [hmarked]
      | none => simp [hmarked, lastMark?]

lemma lastLifetime?_concat :
    lastLifetime? name (events ++ [event]) =
      (event.lifetime? name).or (lastLifetime? name events) := by
  rw [lastLifetime?, List.filterMap_append, List.getLast?_append]
  cases hlifetime : event.lifetime? name <;> simp [hlifetime, lastLifetime?]

/-- An entry holds the last write, the last mark since and the last lifetime. -/
theorem entry_run (start : Nat) (events : List StoreEvent) (name : String) :
    (run start events).store.entry name =
      { value := (lastWrite? name start events).map Prod.snd
        written := ((lastWrite? name start events).map Prod.fst).getD 0
        marked := (lastMark? name events).getD false
        lifetime := (lastLifetime? name events).getD none } := by
  induction events using List.reverseRecOn with
  | nil => exact MetricStore.entry_empty name
  | append_singleton events event ih =>
      rw [run_concat, entry_step, ih, lastWrite?_concat, lastMark?_concat, lastLifetime?_concat]
      cases event.written? name <;> cases event.marked? name <;> cases event.lifetime? name <;> simp

/-- A history shows the same of a metric without the events about other ones. -/
lemma run_filter_concerns (start : Nat) (events : List StoreEvent) (name : String) :
    (run start (events.filter (concerns name))).now = (run start events).now ∧
      (run start (events.filter (concerns name))).store.entry name =
        (run start events).store.entry name := by
  induction events using List.reverseRecOn with
  | nil => exact ⟨rfl, rfl⟩
  | append_singleton events event ih =>
      obtain ⟨hnow, hentry⟩ := ih
      rw [List.filter_append, run_concat]
      by_cases hevent : event.concerns name = true
      · rw [List.filter_cons_of_pos hevent, List.filter_nil, run_concat, now_step, now_step,
          entry_step, entry_step, hnow, hentry]
        exact ⟨rfl, rfl⟩
      -- what is left out writes another metric, which moves neither the clock nor this entry
      · have hother : event.timeAfter (run start events).now = (run start events).now ∧
            event.written? name = none ∧ event.marked? name = none ∧
            event.lifetime? name = none := by
          cases event <;> simp_all [concerns, timeAfter, written?, marked?, lifetime?]
        obtain ⟨htime, hwritten, hmarked, hlifetime⟩ := hother
        rw [List.filter_cons_of_neg hevent, List.filter_nil, List.append_nil, now_step, htime,
          entry_step, hwritten, hmarked, hlifetime]
        exact ⟨hnow, hentry⟩

end ClockedStore

/-! ### Snapshots -/

namespace MetricStore

variable (store : MetricStore)

/-- A snapshot holds the metrics with a value, with that value. -/
lemma mem_snapshot_iff {name : String} {value : MetricValue} :
    (name, value) ∈ store.snapshot ↔ store.value? name = some value := by
  have hentry : store.entry name = (store.entries[name]?).getD {} :=
    Std.ExtTreeMap.getD_eq_getD_getElem?
  rw [value?, hentry, snapshot, List.mem_filterMap]
  constructor
  · rintro ⟨⟨other, entry⟩, hmem, hvalue⟩
    obtain ⟨v, hv, heq⟩ := Option.map_eq_some_iff.mp hvalue
    obtain ⟨rfl, rfl⟩ := Prod.mk.inj heq
    rw [Std.ExtTreeMap.mem_toList_iff_getElem?_eq_some.mp hmem]
    exact hv
  · intro h
    cases hheld : store.entries[name]? with
    | none => rw [hheld] at h; cases h
    | some entry =>
        rw [hheld] at h
        exact ⟨(name, entry), Std.ExtTreeMap.mem_toList_iff_getElem?_eq_some.mpr hheld,
          congrArg (Option.map (name, ·)) h⟩

/-- The names in a snapshot go up, so that none occurs twice. -/
lemma pairwise_snapshot : (store.snapshot.map Prod.fst).Pairwise (· < ·) := by
  rw [List.pairwise_map, snapshot, List.pairwise_filterMap]
  refine Std.ExtTreeMap.ordered_keys_toList.imp fun {first second} h a ha b hb => ?_
  obtain ⟨_, -, rfl⟩ := Option.map_eq_some_iff.mp ha
  obtain ⟨_, -, rfl⟩ := Option.map_eq_some_iff.mp hb
  exact compareOfLessAndEq_eq_lt.mp h

/-- There are as many metrics in a snapshot as names with a value. -/
lemma size_eq : store.size = {name | (store.value? name).isSome = true}.ncard := by
  have hnames : {name | (store.value? name).isSome = true} =
      ((store.snapshot.map Prod.fst).toFinset : Set String) := by
    ext name
    simp [Option.isSome_iff_exists, ← mem_snapshot_iff]
  rw [hnames, Set.ncard_coe_finset, List.toFinset_card_of_nodup
    (store.pairwise_snapshot.imp (String.ne_of_lt ·)), List.length_map, size]

lemma isEmpty_iff : store.isEmpty = true ↔ ∀ name, store.value? name = none := by
  rw [isEmpty, size, beq_iff_eq, List.length_eq_zero_iff, List.eq_nil_iff_forall_not_mem]
  simp [mem_snapshot_iff, Option.eq_none_iff_forall_ne_some]

end MetricStore

/-! ### Histories -/

namespace ClockedStore

variable {start : Nat} {events : List StoreEvent} {event : StoreEvent} {name : String}

/-- Values and ages change with a write and with the clock alone. -/
lemma shown_step (s : ClockedStore) (hwritten : event.written? name = none)
    (htime : event.timeAfter s.now = s.now) :
    (s.step event).store.value? name = s.store.value? name ∧
      (s.step event).store.age? (s.step event).now name = s.store.age? s.now name := by
  rw [now_step, htime, MetricStore.value?, MetricStore.age?, entry_step, hwritten]
  exact ⟨rfl, rfl⟩

lemma value?_run :
    (run start events).store.value? name = (lastWrite? name start events).map Prod.snd := by
  rw [MetricStore.value?, entry_run]

/-- The age of a metric goes by its last write. -/
lemma age?_run :
    (run start events).store.age? (run start events).now name =
      (lastWrite? name start events).map fun write => (run start events).now - write.1 := by
  rw [MetricStore.age?, entry_run]
  cases lastWrite? name start events <;> rfl

/-- A value that has not been marked since is stale once it is older than its lifetime. -/
lemma isStale_run :
    (run start events).store.isStale (run start events).now name = true ↔
      lastWrite? name start events = none ∨ lastMark? name events = some true ∨
        ∃ write seconds, lastWrite? name start events = some write ∧
          lastLifetime? name events = some (some seconds) ∧
          write.1 + 1000 * seconds < (run start events).now := by
  rw [MetricStore.isStale, entry_run]
  cases hwrite : lastWrite? name start events with
  | none => simp
  | some write =>
      have hmark : (lastMark? name events).getD false = true ↔
          lastMark? name events = some true := by
        cases lastMark? name events <;> simp
      cases hlifetime : lastLifetime? name events with
      | none => simp [hmark]
      | some lifetime =>
          cases lifetime with
          | none => simp [hmark]
          | some seconds =>
              have hage : seconds * 1000 < (run start events).now - write.1 ↔
                  write.1 + 1000 * seconds < (run start events).now := by omega
              simp [hmark, hage]

/-- **A store shows the last writes, marks and lifetimes of its history.** After any events of
an empty store and its clock, a metric

* has the value that was written to it last, and the age of that write, which is zero when the
  clock has fallen behind it;
* is stale if it was never written, if its last mark since that write says so, or if its last
  lifetime, wherever in the history it was given, has passed since that write;
* shows the same when all events about other metrics are left out.

A snapshot holds the metrics that were ever written, in the order of their names and with their
last values, and the size is their number. Marks and lifetimes leave values and ages alone. -/
theorem run_history (start : Nat) (events : List StoreEvent) (name : String) :
    let s := run start events
    let own := run start (events.filter (concerns name))
    s.store.value? name = (lastWrite? name start events).map Prod.snd ∧
    s.store.age? s.now name =
      (lastWrite? name start events).map (fun write => s.now - write.1) ∧
    (s.store.isStale s.now name = true ↔
      lastWrite? name start events = none ∨ lastMark? name events = some true ∨
        ∃ write seconds, lastWrite? name start events = some write ∧
          lastLifetime? name events = some (some seconds) ∧
          write.1 + 1000 * seconds < s.now) ∧
    (own.store.value? name = s.store.value? name ∧
      own.store.age? own.now name = s.store.age? s.now name ∧
      own.store.isStale own.now name = s.store.isStale s.now name) ∧
    (s.store.snapshot.map Prod.fst).Pairwise (· < ·) ∧
    (∀ value, (name, value) ∈ s.store.snapshot ↔
      ∃ time, lastWrite? name start events = some (time, value)) ∧
    s.store.size = {other | (lastWrite? other start events).isSome = true}.ncard ∧
    (s.store.isEmpty = true ↔ ∀ other, lastWrite? other start events = none) ∧
    (∀ other stale, let marked := s.step (.mark other stale)
      marked.store.value? name = s.store.value? name ∧
        marked.store.age? marked.now name = s.store.age? s.now name) ∧
    ∀ other seconds, let lasting := s.step (.setLifetime other seconds)
      lasting.store.value? name = s.store.value? name ∧
        lasting.store.age? lasting.now name = s.store.age? s.now name := by
  intro s own
  obtain ⟨hnow, hentry⟩ := run_filter_concerns start events name
  refine ⟨value?_run, age?_run, isStale_run, ⟨?_, ?_, ?_⟩, s.store.pairwise_snapshot,
    fun value => ?_, ?_, ?_, fun other stale => ?_, fun other seconds => ?_⟩
  · rw [MetricStore.value?, hentry, MetricStore.value?]
  · rw [MetricStore.age?, hentry, hnow, MetricStore.age?]
  · rw [MetricStore.isStale, hentry, hnow, MetricStore.isStale]
  · rw [MetricStore.mem_snapshot_iff, value?_run, Option.map_eq_some_iff]
    simp
  · simp only [s, MetricStore.size_eq, value?_run, Option.isSome_map]
  · simp only [s, MetricStore.isEmpty_iff, value?_run, Option.map_eq_none_iff]
  · exact s.shown_step rfl rfl
  · exact s.shown_step rfl rfl

/-- A lifetime that is given before the first write, a write, and the clock: when it steps back
the metric is fresh, and it is stale one millisecond after its ten seconds. -/
example :
    let events : List StoreEvent := [.setLifetime "a" (some 10), .advance 5000,
      .set "a" (.bool true), .setClock 2000, .advance 13000]
    (run 0 (events.take 4)).store.isStale 2000 "a" = false ∧
      (run 0 (events.take 4)).store.age? 2000 "a" = some 0 ∧
      (run 0 events).store.isStale 15000 "a" = false ∧
      (run 0 events).store.isStale 15001 "a" = true := by
  decide +kernel

end ClockedStore

end VehicleTelemetry
