import Mathlib.Tactic
import VehicleTelemetry.Metric.Store

/-!
Which metrics an operation leaves alone.

* `ChangesOnly names before after`: outside of `names` the two stores have the
  same entries, so values, times of writing, marks and lifetimes agree there.
  It is reflexive and transitive, and holds of every longer list of names;
* `value?_congr`, `bool_congr` and so on: what the views show of a metric depends on its
  entry alone, so `ChangesOnly.value?_eq`, `ChangesOnly.bool_eq` and so on: the views of
  the other metrics show the same;
* `ChangesOnly.update_both`: the same change of both stores keeps them alike;
* `MetricEntry.write`, `bool_set`, `float_set`: an entry after a write, and what the
  views show of it; `MetricEntry.markStale`: an entry after a mark.
-/

namespace VehicleTelemetry

/-- An entry once a value has been written. -/
def MetricEntry.write (entry : MetricEntry) (now : Nat) (value : MetricValue) : MetricEntry :=
  { entry with value := some value, written := now, marked := false }

/-- An entry once it has been marked stale. -/
def MetricEntry.markStale (entry : MetricEntry) : MetricEntry :=
  { entry with marked := true }

namespace MetricStore

/-! ### Views of what is written -/

section Views

variable (store : MetricStore) (now : Nat) (name other : String)

lemma entry_set_self (value : MetricValue) :
    (store.set now name value).entry name = (store.entry name).write now value := by
  rw [entry_set, if_pos rfl]
  rfl

lemma entry_mark_self : (store.mark name true).entry name = (store.entry name).markStale := by
  rw [entry_mark, if_pos rfl]
  rfl

lemma float_set (x : Float) :
    (store.set now name (.float x)).float other =
      if other = name then x else store.float other := by
  rw [float, value?_set]
  split <;> rfl

lemma bool_set (b : Bool) :
    (store.set now name (.bool b)).bool other = if other = name then b else store.bool other := by
  rw [bool, value?_set]
  split <;> rfl

end Views

section Congr

variable {a b : MetricStore} {name : String} (h : b.entry name = a.entry name)

include h

lemma value?_congr : b.value? name = a.value? name := by
  rw [value?, value?, h]

lemma bool_congr : b.bool name = a.bool name := by
  rw [bool, bool, value?_congr h]

lemma float_congr : b.float name = a.float name := by
  rw [float, float, value?_congr h]

lemma text_congr : b.text name = a.text name := by
  rw [text, text, value?_congr h]

lemma isStale_congr (now : Nat) : b.isStale now name = a.isStale now name := by
  rw [isStale, isStale, h]

end Congr

/-! ### What is left alone -/

/-- Two stores differ at most in the entries of some names. -/
def ChangesOnly (names : List String) (before after : MetricStore) : Prop :=
  ∀ name, name ∉ names → after.entry name = before.entry name

namespace ChangesOnly

variable {names more : List String} {a b c : MetricStore}

lemma refl (names : List String) (a : MetricStore) : ChangesOnly names a a :=
  fun _ _ => rfl

lemma trans (h : ChangesOnly names a b) (h' : ChangesOnly names b c) :
    ChangesOnly names a c :=
  fun name hname => (h' name hname).trans (h name hname)

lemma symm (h : ChangesOnly names a b) : ChangesOnly names b a :=
  fun name hname => (h name hname).symm

lemma mono (h : ChangesOnly names a b) (hsub : names ⊆ more) : ChangesOnly more a b :=
  fun name hname => h name fun hmem => hname (hsub hmem)

/-- Changing one entry changes no other one. -/
lemma update {name : String} (hname : name ∈ names) (a : MetricStore)
    (change : MetricEntry → MetricEntry) : ChangesOnly names a (a.update name change) := by
  intro other hother
  have hne : other ≠ name := fun h => hother (h ▸ hname)
  rw [entry_update, if_neg hne]

/-- The same change of one entry of both stores makes no more of a difference. -/
lemma update_both (h : ChangesOnly names a b) (name : String)
    (change : MetricEntry → MetricEntry) :
    ChangesOnly names (a.update name change) (b.update name change) := by
  intro other hother
  rw [entry_update, entry_update]
  split
  · next hname => rw [h name (hname ▸ hother)]
  · exact h other hother

lemma set {name : String} (hname : name ∈ names) (a : MetricStore) (now : Nat)
    (value : MetricValue) : ChangesOnly names a (a.set now name value) :=
  update hname a _

/-- One more metric that may be written is written. -/
lemma then_set {name : String} (h : ChangesOnly names a b) (hname : name ∈ names) (now : Nat)
    (value : MetricValue) : ChangesOnly names a (b.set now name value) :=
  h.trans (set hname b now value)

lemma mark {name : String} (hname : name ∈ names) (a : MetricStore) (stale : Bool) :
    ChangesOnly names a (a.mark name stale) :=
  update hname a _

lemma setLifetime {name : String} (hname : name ∈ names) (a : MetricStore)
    (seconds : Option Nat) : ChangesOnly names a (a.setLifetime name seconds) :=
  update hname a _

lemma value?_eq (h : ChangesOnly names a b) {name : String} (hname : name ∉ names) :
    b.value? name = a.value? name :=
  value?_congr (h name hname)

lemma bool_eq (h : ChangesOnly names a b) {name : String} (hname : name ∉ names) :
    b.bool name = a.bool name :=
  bool_congr (h name hname)

lemma float_eq (h : ChangesOnly names a b) {name : String} (hname : name ∉ names) :
    b.float name = a.float name :=
  float_congr (h name hname)

lemma text_eq (h : ChangesOnly names a b) {name : String} (hname : name ∉ names) :
    b.text name = a.text name :=
  text_congr (h name hname)

lemma isStale_eq (h : ChangesOnly names a b) {name : String} (hname : name ∉ names) (now : Nat) :
    b.isStale now name = a.isStale now name :=
  isStale_congr (h name hname) now

end ChangesOnly

end MetricStore

end VehicleTelemetry
