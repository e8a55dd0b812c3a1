import Mathlib.Tactic
import VehicleTelemetry.Proofs.Metric.Frame

/-!
Some metrics written at one time.

* `MetricStore.setAll`: a list of names and values, written one after the other at the
  same time; `entry_setAll_of_mem` and `changesOnly_setAll` give the entries after it;
* `held?`: what a store holds of a name, which tells two stores apart completely
  (`ext_held?`);
* `setAll_eq_self`: writing again what has just been written changes nothing;
* `setAll_comm`: two lists that agree where they meet can be written in either order.
-/

namespace VehicleTelemetry

/-- Of two writes at the same time the second one counts. -/
@[simp] lemma MetricEntry.write_write (entry : MetricEntry) (now : Nat) (value next : MetricValue) :
    (entry.write now value).write now next = entry.write now next := rfl

namespace MetricStore

/-! ### What a store holds -/

/-- The entry of a name that has been touched. -/
def held? (store : MetricStore) (name : String) : Option MetricEntry :=
  store.entries[name]?

variable {store other : MetricStore} {name : String}

lemma ext_held? (h : ∀ name, store.held? name = other.held? name) : store = other := by
  obtain ⟨entries⟩ := store
  obtain ⟨others⟩ := other
  exact congrArg MetricStore.mk (Std.ExtTreeMap.ext_getElem? fun {name} => h name)

lemma entry_eq_getD (store : MetricStore) (name : String) :
    store.entry name = (store.held? name).getD {} :=
  Std.ExtTreeMap.getD_eq_getD_getElem?

lemma entry_of_held? {entry : MetricEntry} (h : store.held? name = some entry) :
    store.entry name = entry := by
  rw [entry_eq_getD, h, Option.getD_some]

lemma held?_set (store : MetricStore) (now : Nat) (name other : String) (value : MetricValue) :
    (store.set now name value).held? other =
      if other = name then some ((store.entry name).write now value) else store.held? other := by
  have hinsert : (store.set now name value).held? other =
      (store.entries.insert name ((store.entry name).write now value))[other]? := rfl
  rw [hinsert, Std.ExtTreeMap.getElem?_insert]
  simp only [Std.LawfulEqCmp.compare_eq_iff_eq, eq_comm (a := name)]
  rfl

/-! ### Writes -/

/-- Writes values at the same time, one after the other. -/
def setAll (store : MetricStore) (now : Nat) (writes : List (String × MetricValue)) :
    MetricStore :=
  writes.foldl (fun store write => store.set now write.1 write.2) store

variable {now : Nat} {writes more : List (String × MetricValue)}

lemma setAll_cons (store : MetricStore) (now : Nat) (write : String × MetricValue) :
    store.setAll now (write :: writes) = (store.set now write.1 write.2).setAll now writes := rfl

lemma held?_setAll_of_notMem (store : MetricStore) (h : name ∉ writes.map Prod.fst) :
    (store.setAll now writes).held? name = store.held? name := by
  induction writes generalizing store with
  | nil => rfl
  | cons write rest ih =>
      rw [List.map_cons, List.mem_cons, not_or] at h
      rw [setAll_cons, ih _ h.2, held?_set, if_neg h.1]

lemma changesOnly_setAll (store : MetricStore) (now : Nat)
    (writes : List (String × MetricValue)) :
    ChangesOnly (writes.map Prod.fst) store (store.setAll now writes) := by
  intro name hname
  rw [entry_eq_getD, held?_setAll_of_notMem store hname, ← entry_eq_getD]

/-- The same writes to both stores make no more of a difference. -/
lemma ChangesOnly.setAll_both {names : List String} {before after : MetricStore}
    (h : ChangesOnly names before after) (now : Nat) (writes : List (String × MetricValue)) :
    ChangesOnly names (before.setAll now writes) (after.setAll now writes) := by
  induction writes generalizing before after with
  | nil => exact h
  | cons write rest ih => exact ih (h.update_both write.1 _)

/-- A metric that is written once has the value that is written. -/
lemma held?_setAll_of_mem (store : MetricStore) (hnodup : (writes.map Prod.fst).Nodup)
    {value : MetricValue} (h : (name, value) ∈ writes) :
    (store.setAll now writes).held? name = some ((store.entry name).write now value) := by
  induction writes generalizing store with
  | nil => cases h
  | cons write rest ih =>
      rw [List.map_cons, List.nodup_cons] at hnodup
      obtain ⟨hfirst, hrest⟩ := hnodup
      rw [setAll_cons]
      cases h with
      | head => rw [held?_setAll_of_notMem _ hfirst, held?_set, if_pos rfl]
      | tail _ h =>
          have hne : name ≠ write.1 := fun hname => hfirst (hname ▸ List.mem_map_of_mem h)
          rw [ih _ hrest h, entry_set, if_neg hne]

lemma entry_setAll_of_mem (store : MetricStore) (hnodup : (writes.map Prod.fst).Nodup)
    {value : MetricValue} (h : (name, value) ∈ writes) :
    (store.setAll now writes).entry name = (store.entry name).write now value :=
  entry_of_held? (held?_setAll_of_mem store hnodup h)

/-- Writing values changes how long no metric lasts. -/
lemma lifetime_setAll (store : MetricStore) (now : Nat) (writes : List (String × MetricValue))
    (name : String) :
    ((store.setAll now writes).entry name).lifetime = (store.entry name).lifetime := by
  induction writes generalizing store with
  | nil => rfl
  | cons write rest ih =>
      rw [setAll_cons, ih, entry_set]
      split
      · next hname => rw [hname]
      · rfl

/-! ### Writes again, and in another order -/

lemma set_eq_self {value : MetricValue} {old : MetricEntry}
    (h : store.held? name = some (old.write now value)) : store.set now name value = store := by
  refine ext_held? fun other => ?_
  rw [held?_set]
  split
  · next hother => rw [hother, h, entry_of_held? h, MetricEntry.write_write]
  · rfl

/-- Writing again what has just been written changes nothing. -/
lemma setAll_eq_self
    (h : ∀ write ∈ writes, ∃ old : MetricEntry,
      store.held? write.1 = some (old.write now write.2)) :
    store.setAll now writes = store := by
  induction writes with
  | nil => rfl
  | cons write rest ih =>
      obtain ⟨⟨old, hfirst⟩, hrest⟩ := List.forall_mem_cons.mp h
      rw [setAll_cons, set_eq_self hfirst]
      exact ih hrest

lemma setAll_setAll_eq_self (store : MetricStore) (hnodup : (writes.map Prod.fst).Nodup)
    (hsub : more ⊆ writes) : (store.setAll now writes).setAll now more = store.setAll now writes :=
  setAll_eq_self fun _ hwrite => ⟨_, held?_setAll_of_mem store hnodup (hsub hwrite)⟩

/-- The list that is written last counts. -/
lemma held?_setAll_setAll_of_mem (store : MetricStore) (hnodup : (writes.map Prod.fst).Nodup)
    (hmore : (more.map Prod.fst).Nodup) {value : MetricValue} (h : (name, value) ∈ more) :
    ((store.setAll now writes).setAll now more).held? name =
      some ((store.entry name).write now value) := by
  rw [held?_setAll_of_mem _ hmore h]
  by_cases hname : name ∈ writes.map Prod.fst
  · obtain ⟨⟨_, earlier⟩, hmem, rfl⟩ := List.mem_map.mp hname
    rw [entry_setAll_of_mem store hnodup hmem, MetricEntry.write_write]
  · rw [store.changesOnly_setAll now writes name hname]

/-- Two lists that agree on the metrics of both can be written in either order. -/
lemma setAll_comm (store : MetricStore) (hnodup : (writes.map Prod.fst).Nodup)
    (hmore : (more.map Prod.fst).Nodup)
    (hagree : ∀ name value next, (name, value) ∈ writes → (name, next) ∈ more → value = next) :
    (store.setAll now writes).setAll now more = (store.setAll now more).setAll now writes := by
  refine ext_held? fun name => ?_
  by_cases hfirst : name ∈ writes.map Prod.fst <;> by_cases hsecond : name ∈ more.map Prod.fst
  · obtain ⟨⟨_, value⟩, hvalue, rfl⟩ := List.mem_map.mp hfirst
    obtain ⟨⟨_, next⟩, hnext, rfl⟩ := List.mem_map.mp hsecond
    rw [held?_setAll_setAll_of_mem store hnodup hmore hnext,
      held?_setAll_setAll_of_mem store hmore hnodup hvalue, hagree _ _ _ hvalue hnext]
  · obtain ⟨⟨_, value⟩, hvalue, rfl⟩ := List.mem_map.mp hfirst
    rw [held?_setAll_of_notMem _ hsecond, held?_setAll_of_mem store hnodup hvalue,
      held?_setAll_setAll_of_mem store hmore hnodup hvalue]
  · obtain ⟨⟨_, next⟩, hnext, rfl⟩ := List.mem_map.mp hsecond
    rw [held?_setAll_setAll_of_mem store hnodup hmore hnext,
      held?_setAll_of_notMem _ hfirst, held?_setAll_of_mem store hmore hnext]
  · rw [held?_setAll_of_notMem _ hsecond, held?_setAll_of_notMem _ hfirst,
      held?_setAll_of_notMem _ hfirst, held?_setAll_of_notMem _ hsecond]

end MetricStore

end VehicleTelemetry
