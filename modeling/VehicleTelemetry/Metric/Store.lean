import Std.Data.ExtTreeMap
import VehicleTelemetry.Log.Logged
import VehicleTelemetry.Metric.Signal
import VehicleTelemetry.Metric.Value

/-!
The metric store: named values with the time they were written at and a sign of staleness.

A metric is stale when it has no value, when it has been marked, or when its last value is older
than its lifetime (`MetricStore.isStale`). Writing a value clears the mark and keeps the lifetime;
marking and setting a lifetime touch neither value nor age. Every operation changes the entry of
one name only (`entry_update`).

Times are milliseconds and come from the caller; lifetimes are seconds.
-/

namespace VehicleTelemetry

/-- What is kept of one metric. -/
structure MetricEntry where
  value : Option MetricValue := none
  /-- When the value was written. -/
  written : Nat := 0
  /-- Whether the metric has been marked stale since. -/
  marked : Bool := false
  /-- How many seconds a value lasts, if it does not last for ever. -/
  lifetime : Option Nat := none
  deriving DecidableEq

/-- The entry of a metric that was never touched. -/
instance : Inhabited MetricEntry := ⟨{}⟩

/-- Metrics by name, in the order of the names' code points. -/
structure MetricStore where
  entries : Std.ExtTreeMap String MetricEntry

namespace MetricStore

/-- A store without metrics. -/
def empty : MetricStore := ⟨∅⟩

/-- The entry of a name. -/
def entry (store : MetricStore) (name : String) : MetricEntry :=
  store.entries.getD name {}

/-- Changes the entry of a name. -/
def update (store : MetricStore) (name : String) (change : MetricEntry → MetricEntry) :
    MetricStore :=
  ⟨store.entries.insert name (change (store.entry name))⟩

/-- Writes a value at time `now`. -/
def set (store : MetricStore) (now : Nat) (name : String) (value : MetricValue) : MetricStore :=
  store.update name fun entry =>
    { entry with value := some value, written := now, marked := false }

/-- Marks a metric stale, or takes the mark away. -/
def mark (store : MetricStore) (name : String) (stale : Bool) : MetricStore :=
  store.update name fun entry => { entry with marked := stale }

/-- Marks a metric stale, or takes the mark away, and reports it. -/
def setStale (store : MetricStore) (name : String) (stale : Bool) : Logged MetricStore := do
  Logged.report (.staleSet name stale)
  return store.mark name stale

/-- Sets how many seconds a metric's values last. -/
def setLifetime (store : MetricStore) (name : String) (seconds : Option Nat) : MetricStore :=
  store.update name fun entry => { entry with lifetime := seconds }

/-- An empty store in which the known signals have their lifetimes. -/
def withLifetimes : MetricStore :=
  Signal.lifetimes.foldl (fun store (name, seconds) => store.setLifetime name (some seconds)) empty

/-- An empty store in which the known signals have their lifetimes, reported. -/
def standard : Logged MetricStore := do
  Logged.report (.storeCreated Signal.lifetimes.length)
  return withLifetimes

/-! ### Views -/

/-- A metric's value. -/
def value? (store : MetricStore) (name : String) : Option MetricValue :=
  (store.entry name).value

/-- A metric as a boolean; false if it is none. -/
def bool (store : MetricStore) (name : String) : Bool :=
  ((store.value? name).bind MetricValue.toBool?).getD false

/-- A metric as a whole number; zero if it is none. -/
def int (store : MetricStore) (name : String) : Int64 :=
  ((store.value? name).bind MetricValue.toInt?).getD 0

/-- A metric as a float; zero if it is none. -/
def float (store : MetricStore) (name : String) : Float :=
  ((store.value? name).bind MetricValue.toFloat?).getD 0.0

/-- A metric as a text; empty if it is none. -/
def text (store : MetricStore) (name : String) : String :=
  ((store.value? name).bind MetricValue.toText?).getD ""

/-- How many milliseconds before `now` a metric was written; a clock behind that time gives zero. -/
def age? (store : MetricStore) (now : Nat) (name : String) : Option Nat :=
  let entry := store.entry name
  entry.value.map fun _ => now - entry.written

/-- Whether a metric's value does not count at time `now`. -/
def isStale (store : MetricStore) (now : Nat) (name : String) : Bool :=
  let entry := store.entry name
  entry.value.isNone || entry.marked ||
    match entry.lifetime with
    | some seconds => seconds * 1000 < now - entry.written
    | none => false

/-- The metrics that hold a value, in the order of their names. -/
def snapshot (store : MetricStore) : List (String × MetricValue) :=
  store.entries.toList.filterMap fun (name, entry) => entry.value.map (name, ·)

/-- How many metrics hold a value. -/
def size (store : MetricStore) : Nat :=
  store.snapshot.length

/-- Whether no metric holds a value. -/
def isEmpty (store : MetricStore) : Bool :=
  store.size == 0

/-! ### Each operation changes one entry -/

@[simp] theorem entry_empty (name : String) : empty.entry name = {} := by
  simp [entry, empty]

theorem entry_update (store : MetricStore) (name other : String)
    (change : MetricEntry → MetricEntry) :
    (store.update name change).entry other =
      if other = name then change (store.entry name) else store.entry other := by
  simp only [entry, update, Std.ExtTreeMap.getD_insert, Std.LawfulEqCmp.compare_eq_iff_eq]
  by_cases h : name = other
  · simp [h]
  · simp [h, Ne.symm h]

theorem entry_set (store : MetricStore) (now : Nat) (name other : String) (value : MetricValue) :
    (store.set now name value).entry other =
      if other = name then
        { store.entry name with value := some value, written := now, marked := false }
      else store.entry other :=
  entry_update store name other _

theorem entry_mark (store : MetricStore) (name other : String) (stale : Bool) :
    (store.mark name stale).entry other =
      if other = name then { store.entry name with marked := stale } else store.entry other :=
  entry_update store name other _

theorem entry_setLifetime (store : MetricStore) (name other : String) (seconds : Option Nat) :
    (store.setLifetime name seconds).entry other =
      if other = name then { store.entry name with lifetime := seconds } else store.entry other :=
  entry_update store name other _

/-! ### Only writing changes values -/

theorem value?_set (store : MetricStore) (now : Nat) (name other : String) (value : MetricValue) :
    (store.set now name value).value? other =
      if other = name then some value else store.value? other := by
  simp only [value?, entry_set]
  split <;> rfl

@[simp] theorem value?_set_self (store : MetricStore) (now : Nat) (name : String)
    (value : MetricValue) : (store.set now name value).value? name = some value := by
  rw [value?_set, if_pos rfl]

theorem value?_set_of_ne (store : MetricStore) (now : Nat) {name other : String}
    (h : other ≠ name) (value : MetricValue) :
    (store.set now name value).value? other = store.value? other := by
  rw [value?_set, if_neg h]

@[simp] theorem value?_mark (store : MetricStore) (name other : String) (stale : Bool) :
    (store.mark name stale).value? other = store.value? other := by
  simp only [value?, entry_mark]
  split <;> simp [*]

@[simp] theorem value?_setLifetime (store : MetricStore) (name other : String)
    (seconds : Option Nat) :
    (store.setLifetime name seconds).value? other = store.value? other := by
  simp only [value?, entry_setLifetime]
  split <;> simp [*]

/-- A metric that is marked is stale at any time. -/
theorem isStale_mark (store : MetricStore) (now : Nat) (name : String) :
    (store.mark name true).isStale now name = true := by
  simp [isStale, entry_mark]

end MetricStore

end VehicleTelemetry
