import Mathlib.Tactic
import VehicleTelemetry.Proofs.Reply.Lookup

/-!
A table of replies as the history of its registrations.

A sender is named and then its handler is used, in as many goes as one likes (`Registration`). What
counts of such a history is the action that a pair of sender and identifier was given last
(`lastAction?`) and the name that a sender had first (`firstName?`).

* `action?_build`, `name_build`: these are what the table's two levels of maps hold;
* `size_build`: the pairs of a table are counted once each;
* `isDropped_dispatch`, `events_dispatch`: which replies have an action, and that it is run once;
* `dispatch_build` puts these together.
-/

namespace VehicleTelemetry

variable {σ : Type}

/-- A call on the handler of a sender that was named. -/
inductive HandlerCall (σ : Type) where
  | on (pid : UInt16) (action : DecodeAction σ)
  | silence

/-- The handler after a call. -/
def HandlerCall.apply (handler : ReplyHandler σ) : HandlerCall σ → ReplyHandler σ
  | on pid action => handler.on pid action
  | silence => handler.silence

/-- A sender is named, and then calls are made on its handler. -/
structure Registration (σ : Type) where
  sender : UInt32
  name : String
  calls : List (HandlerCall σ) := []

/-- The value that a key has got last. -/
def lastOf? {κ α : Type} [DecidableEq κ] (key : κ) (entries : List (κ × α)) : Option α :=
  ((entries.filter (·.1 = key)).getLast?).map (·.2)

namespace Registration

/-- The identifiers that are given an action, and the action, in order. -/
def actions (registration : Registration σ) : List (UInt16 × DecodeAction σ) :=
  registration.calls.filterMap fun
    | .on pid action => some (pid, action)
    | .silence => none

/-- The table after a registration. -/
def apply (table : ReplyTable σ) (registration : Registration σ) : ReplyTable σ :=
  table.register registration.sender registration.name fun handler =>
    registration.calls.foldl HandlerCall.apply handler

/-- The actions that a history of registrations has given to pairs of sender and identifier, in
order. -/
def entries (history : List (Registration σ)) : List ((UInt32 × UInt16) × DecodeAction σ) :=
  history.flatMap fun registration =>
    registration.actions.map fun (pid, action) => ((registration.sender, pid), action)

/-- The last action of a pair. -/
def lastAction? (history : List (Registration σ)) (sender : UInt32) (pid : UInt16) :
    Option (DecodeAction σ) :=
  lastOf? (sender, pid) (entries history)

/-- The name with which a sender was registered first. -/
def firstName? (history : List (Registration σ)) (sender : UInt32) : Option String :=
  (history.find? (·.sender = sender)).map (·.name)

end Registration

open Registration

/-- The table that a history of registrations has built. -/
def ReplyTable.build (history : List (Registration σ)) : ReplyTable σ :=
  history.foldl Registration.apply empty

/-! ### The calls on a handler -/

lemma lastOf?_append {κ α : Type} [DecidableEq κ] (key : κ) (entries later : List (κ × α)) :
    lastOf? key (entries ++ later) = (lastOf? key later).or (lastOf? key entries) := by
  rw [lastOf?, List.filter_append, List.getLast?_append, Option.map_or]
  rfl

lemma lastOf?_singleton {κ α : Type} [DecidableEq κ] (key known : κ) (value : α) :
    lastOf? key [(known, value)] = if key = known then some value else none := by
  by_cases h : key = known
  · simp [lastOf?, h]
  · simp [lastOf?, h, Ne.symm h]

lemma lastOf?_eq_none_iff {κ α : Type} [DecidableEq κ] {key : κ} {entries : List (κ × α)} :
    lastOf? key entries = none ↔ ∀ entry ∈ entries, entry.1 ≠ key := by
  simp [lastOf?]

lemma name_foldl_apply (calls : List (HandlerCall σ)) (handler : ReplyHandler σ) :
    (calls.foldl HandlerCall.apply handler).name = handler.name := by
  induction calls generalizing handler with
  | nil => rfl
  | cons call rest ih =>
      rw [List.foldl_cons, ih]
      cases call <;> rfl

lemma actions_foldl_apply (registration : Registration σ) (handler : ReplyHandler σ)
    (pid : UInt16) :
    (registration.calls.foldl HandlerCall.apply handler).actions[pid]? =
      (lastOf? pid registration.actions).or handler.actions[pid]? := by
  obtain ⟨sender, name, calls⟩ := registration
  induction calls using List.reverseRecOn with
  | nil => rfl
  | append_singleton calls call ih =>
      rw [List.foldl_append]
      cases call with
      | on known action =>
        have hactions : actions ⟨sender, name, calls ++ [.on known action]⟩ =
            actions ⟨sender, name, calls⟩ ++ [(known, action)] := by
          simp [actions]
        rw [hactions]
        refine (ReplyTable.actions_on pid _ known action).trans ?_
        rw [ih, lastOf?_append, lastOf?_singleton]
        split_ifs <;> rfl
      | silence =>
        have hactions : actions ⟨sender, name, calls ++ [.silence]⟩ =
            actions ⟨sender, name, calls⟩ := by
          simp [actions]
        rw [hactions, ← ih]
        rfl

/-! ### One registration more -/

namespace Registration

variable (history : List (Registration σ)) (registration : Registration σ)

lemma entries_concat :
    entries (history ++ [registration]) = entries history ++
      registration.actions.map fun (pid, action) => ((registration.sender, pid), action) := by
  rw [entries, List.flatMap_append, List.flatMap_singleton]
  rfl

/-- The last action of a pair is looked for in the last registration first, if this is one of the
pair's sender. -/
lemma lastAction?_concat (sender : UInt32) (pid : UInt16) :
    lastAction? (history ++ [registration]) sender pid =
      if sender = registration.sender then
        (lastOf? pid registration.actions).or (lastAction? history sender pid)
      else lastAction? history sender pid := by
  have hown : lastOf? (sender, pid)
      (registration.actions.map fun (pid, action) => ((registration.sender, pid), action)) =
        if sender = registration.sender then lastOf? pid registration.actions else none := by
    rw [lastOf?, List.filter_map, List.getLast?_map, Option.map_map]
    split_ifs with hsender
    · subst hsender
      simp [lastOf?, Function.comp_def]
    · simp [Function.comp_def, Ne.symm hsender]
  rw [lastAction?, entries_concat, lastOf?_append, hown]
  split_ifs <;> rfl

lemma firstName?_concat (sender : UInt32) :
    firstName? (history ++ [registration]) sender =
      (firstName? history sender).or
        (if sender = registration.sender then some registration.name else none) := by
  rw [firstName?, List.find?_append, Option.map_or]
  by_cases hsender : sender = registration.sender
  · simp [firstName?, hsender]
  · simp [firstName?, hsender, Ne.symm hsender]

lemma firstName?_eq_none_iff {sender : UInt32} :
    firstName? history sender = none ↔ ∀ registration ∈ history, registration.sender ≠ sender := by
  simp [firstName?]

/-- A sender that was never registered has no actions. -/
lemma lastAction?_of_firstName? {sender : UInt32} (h : firstName? history sender = none)
    (pid : UInt16) : lastAction? history sender pid = none := by
  refine lastOf?_eq_none_iff.mpr fun entry hentry hkey => ?_
  obtain ⟨registration, hmem, hentry⟩ := List.mem_flatMap.mp hentry
  obtain ⟨given, -, rfl⟩ := List.mem_map.mp hentry
  exact (firstName?_eq_none_iff history).mp h registration hmem (Prod.mk.inj hkey).1

end Registration

namespace ReplyTable

variable (history : List (Registration σ)) (registration : Registration σ)

lemma build_concat :
    build (history ++ [registration]) = registration.apply (build history) := by
  rw [build, List.foldl_append]
  rfl

/-- The table finds the action that was given last. -/
lemma action?_build (sender : UInt32) (pid : UInt16) :
    (build history).action? sender pid = lastAction? history sender pid := by
  induction history using List.reverseRecOn with
  | nil => exact action?_empty sender pid
  | append_singleton history registration ih =>
      rw [build_concat, Registration.apply, action?_register, lastAction?_concat]
      split_ifs with hsender
      · rw [actions_foldl_apply, ← hsender, actions_handler, ih]
      · exact ih

/-- A handler has the name that its sender was registered with first. -/
lemma name_build (sender : UInt32) :
    ((build history).handlers[sender]?).map (·.name) = firstName? history sender := by
  induction history using List.reverseRecOn with
  | nil => simp [build, empty, firstName?]
  | append_singleton history registration ih =>
      rw [build_concat, Registration.apply, register, Std.ExtTreeMap.getElem?_insert,
        firstName?_concat, ← ih]
      by_cases hsender : sender = registration.sender
      · subst hsender
        rw [if_pos (by simp), if_pos rfl, Option.map_some, name_foldl_apply, handler,
          Std.ExtTreeMap.getD_eq_getD_getElem?]
        cases (build history).handlers[registration.sender]? <;> rfl
      · rw [if_neg (by simpa using Ne.symm hsender), if_neg hsender, Option.or_none]

/-- Other senders keep their handlers. -/
lemma getElem?_handlers_apply (table : ReplyTable σ) {other : UInt32}
    (h : other ≠ registration.sender) :
    (registration.apply table).handlers[other]? = table.handlers[other]? := by
  rw [Registration.apply, register, Std.ExtTreeMap.getElem?_insert,
    if_neg (by simpa using Ne.symm h)]

/-! ### The pairs -/

variable (table : ReplyTable σ)

lemma contains_eq (sender : UInt32) (pid : UInt16) :
    table.contains sender pid = (table.action? sender pid).isSome := by
  rw [contains, action?]
  cases table.handlers[sender]? with
  | none => rfl
  | some handler => exact Std.ExtTreeMap.contains_eq_isSome_getElem?

lemma mem_pairs {sender : UInt32} {pid : UInt16} :
    (sender, pid) ∈ table.pairs ↔ (table.action? sender pid).isSome = true := by
  have hkeys (handler : ReplyHandler σ) :
      pid ∈ handler.actions.keys ↔ handler.actions[pid]?.isSome = true := by
    rw [Std.ExtTreeMap.mem_keys, Std.ExtTreeMap.mem_iff_isSome_getElem?]
  simp only [pairs, List.mem_flatMap, List.mem_map, Prod.mk.injEq, action?]
  constructor
  · rintro ⟨⟨known, handler⟩, hhandler, known', hpid, rfl, rfl⟩
    rw [Std.ExtTreeMap.mem_toList_iff_getElem?_eq_some.mp hhandler]
    exact (hkeys handler).mp hpid
  · intro haction
    cases hhandler : table.handlers[sender]? with
    | none =>
        rw [hhandler] at haction
        cases haction
    | some handler =>
        rw [hhandler] at haction
        exact ⟨(sender, handler), Std.ExtTreeMap.mem_toList_iff_getElem?_eq_some.mpr hhandler, pid,
          (hkeys handler).mpr haction, rfl, rfl⟩

lemma nodup_pairs : table.pairs.Nodup := by
  rw [pairs, List.nodup_flatMap]
  refine ⟨fun handler _ => ?_, ?_⟩
  · exact Std.ExtTreeMap.nodup_keys.map fun pid other h => (Prod.mk.inj h).2
  · refine Std.ExtTreeMap.distinct_keys_toList.imp fun {first second} hne => ?_
    intro pair hfirst hsecond
    obtain ⟨pid, _, rfl⟩ := List.mem_map.mp hfirst
    obtain ⟨other, _, hpair⟩ := List.mem_map.mp hsecond
    exact hne ((Prod.mk.inj hpair).1 ▸ Std.ReflCmp.compare_self)

/-- The pairs of a table that was built are those that were given an action. -/
lemma size_build : (build history).size = ((entries history).map (·.1)).toFinset.card := by
  have hpairs : (build history).pairs.toFinset = ((entries history).map (·.1)).toFinset := by
    ext ⟨sender, pid⟩
    rw [List.mem_toFinset, mem_pairs, action?_build, lastAction?, Option.isSome_iff_ne_none, Ne,
      lastOf?_eq_none_iff]
    simp
  rw [size, ← List.toFinset_card_of_nodup (nodup_pairs _), hpairs]

/-! ### Dispatching -/

/-- What is reported of a reply after its action has run. -/
def reports (pid : UInt16) (name : String) : Except PayloadError Disposition → List Event
  | .ok .applied => []
  | .ok (.gated reason) => [.replyGated pid name reason]
  | .error cause => [.replyRefused pid name cause]

/-- The action is run once, and what it reports comes before what is reported of it. -/
lemma events_dispatch {table : ReplyTable σ} {reply : Reply} {action : DecodeAction σ}
    {name : String} (haction : table.action? reply.sender reply.pid = some action)
    (hname : (table.handlers[reply.sender]?).map (·.name) = some name) (target : σ) :
    let run := action reply.time reply.payload target
    (table.dispatch reply target).events = run.events ++ reports reply.pid name run.value.2 := by
  intro run
  obtain ⟨handler, hhandler, rfl⟩ := Option.map_eq_some_iff.mp hname
  rw [action?, hhandler, Option.bind_some] at haction
  rw [dispatch, hhandler]
  simp only [haction, Logged.events_bind]
  rcases (action reply.time reply.payload target).value with ⟨after, cause | ⟨_ | reason⟩⟩
  all_goals
    simp only [run, reports]
    rfl

/-- What becomes of a reply without an action. -/
lemma value_dispatch_of_none {reply : Reply} {target : σ}
    (h : lastAction? history reply.sender reply.pid = none) :
    ((build history).dispatch reply target).value =
      (target,
        if firstName? history reply.sender = none then .unknownSender reply.sender
        else .unknownPid reply.sender reply.pid) := by
  rw [value_dispatch, action?_build, h, ← name_build]
  cases (build history).handlers[reply.sender]? <;> rfl

lemma value_dispatch_of_some {reply : Reply} {target : σ} {action : DecodeAction σ}
    (h : lastAction? history reply.sender reply.pid = some action) :
    let run := action reply.time reply.payload target
    ((build history).dispatch reply target).value =
      (run.value.1, ReplyOutcome.ofResult run.value.2) := by
  rw [value_dispatch, action?_build, h]

lemma isDropped_ofResult (result : Except PayloadError Disposition) :
    (ReplyOutcome.ofResult result).isDropped = false := by
  rcases result with cause | ⟨_ | reason⟩ <;> rfl

/-- A reply is dropped if no action was given to its pair, and then only. -/
lemma isDropped_dispatch (reply : Reply) (target : σ) :
    ((build history).dispatch reply target).value.2.isDropped =
      (lastAction? history reply.sender reply.pid).isNone := by
  cases hlast : lastAction? history reply.sender reply.pid with
  | none =>
      rw [value_dispatch_of_none history hlast]
      dsimp only
      split_ifs <;> rfl
  | some action =>
      rw [value_dispatch_of_some history hlast]
      exact isDropped_ofResult _

lemma dispatch_eq_unknownSender_iff {reply : Reply} {target : σ} {sender : UInt32} :
    ((build history).dispatch reply target).value.2 = .unknownSender sender ↔
      sender = reply.sender ∧ firstName? history reply.sender = none := by
  cases hlast : lastAction? history reply.sender reply.pid with
  | none =>
      rw [value_dispatch_of_none history hlast]
      dsimp only
      split_ifs with hname <;> simp [hname, eq_comm]
  | some action =>
      have hdropped := isDropped_dispatch history reply target
      rw [hlast] at hdropped
      constructor
      · intro h
        rw [h] at hdropped
        cases hdropped
      · rintro ⟨-, hname⟩
        cases hlast.symm.trans (lastAction?_of_firstName? history hname reply.pid)

lemma dispatch_eq_unknownPid_iff {reply : Reply} {target : σ} {sender : UInt32} {pid : UInt16} :
    ((build history).dispatch reply target).value.2 = .unknownPid sender pid ↔
      sender = reply.sender ∧ pid = reply.pid ∧ firstName? history reply.sender ≠ none ∧
        lastAction? history reply.sender reply.pid = none := by
  cases hlast : lastAction? history reply.sender reply.pid with
  | none =>
      rw [value_dispatch_of_none history hlast]
      dsimp only
      split_ifs with hname <;> simp [hname, eq_comm]
  | some action =>
      have hdropped := isDropped_dispatch history reply target
      rw [hlast] at hdropped
      refine ⟨fun h => ?_, fun h => nomatch h.2.2.2⟩
      rw [h] at hdropped
      cases hdropped

/-- **A table is the map of its pairs to the actions that they were given last.** A reply comes from
an unknown sender if and only if the sender was never registered, and has an unknown identifier if
and only if its sender was and the pair was given no action; the target is left alone in both cases.
Else the action that the pair was given last is run on the payload and the target, once, and its
result is the outcome; what is reported of the reply carries the name with which the sender was
registered first. A table contains the pairs for which an action is run, and its size is the number
of different pairs that were given one. A handler keeps its first name; registering a sender again
changes no action but those it gives, and nothing of another sender. -/
theorem dispatch_build (history : List (Registration σ)) (reply : Reply) (target : σ) :
    let table := build history
    let result := table.dispatch reply target
    (∀ sender, result.value.2 = .unknownSender sender ↔
      sender = reply.sender ∧ ∀ registration ∈ history, registration.sender ≠ reply.sender) ∧
    (∀ sender pid, result.value.2 = .unknownPid sender pid ↔
      sender = reply.sender ∧ pid = reply.pid ∧
        (∃ registration ∈ history, registration.sender = reply.sender) ∧
        ∀ entry ∈ entries history, entry.1 ≠ (reply.sender, reply.pid)) ∧
    (result.value.2.isDropped = true → result.value.1 = target) ∧
    (∀ action, lastAction? history reply.sender reply.pid = some action →
      let run := action reply.time reply.payload target
      result.value = (run.value.1, ReplyOutcome.ofResult run.value.2) ∧
      ∃ name, firstName? history reply.sender = some name ∧
        result.events = run.events ++ reports reply.pid name run.value.2) ∧
    (table.contains reply.sender reply.pid = !result.value.2.isDropped ∧
      table.contains reply.sender reply.pid =
        (lastAction? history reply.sender reply.pid).isSome) ∧
    table.size = ((entries history).map (·.1)).toFinset.card ∧
    (∀ sender name, (table.handler sender name).name = (firstName? history sender).getD name) ∧
    ∀ registration : Registration σ,
      (∀ pid, (∀ entry ∈ registration.actions, entry.1 ≠ pid) →
        (registration.apply table).action? registration.sender pid =
          table.action? registration.sender pid) ∧
      ∀ other, other ≠ registration.sender →
        (registration.apply table).handlers[other]? = table.handlers[other]? := by
  intro table result
  -- a table is known by two lookups in its history: the last action and the first name
  have hcontains : table.contains reply.sender reply.pid =
      (lastAction? history reply.sender reply.pid).isSome := by
    rw [contains_eq, action?_build]
  have hname (sender : UInt32) (name : String) :
      (table.handler sender name).name = (firstName? history sender).getD name := by
    rw [handler, Std.ExtTreeMap.getD_eq_getD_getElem?, ← name_build]
    cases table.handlers[sender]? <;> rfl
  have hnamed : firstName? history reply.sender ≠ none ↔
      ∃ registration ∈ history, registration.sender = reply.sender := by
    simp [firstName?_eq_none_iff]
  refine ⟨?_, ?_, ?_, ?_, ⟨?_, hcontains⟩, size_build history, hname, fun registration => ⟨?_, ?_⟩⟩
  · intro sender
    rw [dispatch_eq_unknownSender_iff, firstName?_eq_none_iff]
  · intro sender pid
    rw [dispatch_eq_unknownPid_iff, hnamed, lastAction?, lastOf?_eq_none_iff]
  · intro hdropped
    rw [isDropped_dispatch, Option.isNone_iff_eq_none] at hdropped
    exact congrArg Prod.fst (value_dispatch_of_none history hdropped)
  -- a pair that has an action belongs to a unit that has been registered, and so has a name
  · intro action haction
    refine ⟨value_dispatch_of_some history haction, ?_⟩
    cases hfirst : firstName? history reply.sender with
    | none => cases haction.symm.trans (lastAction?_of_firstName? history hfirst reply.pid)
    | some name =>
        exact ⟨name, rfl, events_dispatch ((action?_build ..).trans haction)
          ((name_build ..).trans hfirst) target⟩
  · rw [hcontains, isDropped_dispatch, Option.not_isNone]
  · intro pid hpid
    rw [Registration.apply, action?_register, if_pos rfl, actions_foldl_apply,
      lastOf?_eq_none_iff.mpr hpid, Option.none_or, actions_handler]
  · intro other hother
    exact getElem?_handlers_apply registration table hother

/-- A sender that is registered again under another name, and gets another action for one of its
identifiers; the same identifier of another sender is not touched. -/
theorem dispatch_build_reopened :
    let keep : DecodeAction (List Payload) := fun _ payload seen =>
      pure (seen ++ [payload], .ok .applied)
    let gate : DecodeAction (List Payload) := fun _ _ seen =>
      pure (seen, .ok (.gated "not charging"))
    let again : Registration (List Payload) := ⟨0x100, "second", [.on 1 keep]⟩
    let history : List (Registration (List Payload)) :=
      [⟨0x100, "first", [.on 1 gate, .on 2 gate]⟩, ⟨0x200, "other", [.silence, .on 1 gate]⟩, again]
    let table := build history
    (lastAction? history 0x100 1 = some keep ∧
      (table.dispatch ⟨0x100, 1, [7, 8], 0⟩ []).value = ([[7, 8]], .applied)) ∧
    ((table.dispatch ⟨0x100, 3, [], 0⟩ []).value.2.isDropped = true ∧
      (table.dispatch ⟨0x100, 3, [], 0⟩ []).value.1 = []) ∧
    (table.size = 3 ∧ (table.handler 0x100 "third").name = "first") ∧
    ((∀ entry ∈ again.actions, entry.1 ≠ 2) ∧
      (again.apply table).action? 0x100 2 = table.action? 0x100 2) ∧
    ((0x200 : UInt32) ≠ again.sender ∧
      (again.apply table).handlers[(0x200 : UInt32)]? = table.handlers[(0x200 : UInt32)]?) := by
  intro keep gate again history table
  obtain ⟨-, -, -, hrun, -, hsize, hname, hagain⟩ := dispatch_build history ⟨0x100, 1, [7, 8], 0⟩ []
  obtain ⟨-, -, hdropped, -, ⟨hcontains, hlast⟩, -⟩ := dispatch_build history ⟨0x100, 3, [], 0⟩ []
  obtain ⟨hactions, hothers⟩ := hagain again
  have hkeep : lastAction? history 0x100 1 = some keep := rfl
  have hnone : lastAction? history 0x100 3 = none := rfl
  have hunknown : (table.dispatch ⟨0x100, 3, [], 0⟩ []).value.2.isDropped = true := by
    have hsome : (lastAction? history 0x100 3).isSome = false := by rw [hnone, Option.isSome_none]
    simpa using hcontains.symm.trans (hlast.trans hsome)
  have htwo : ∀ entry ∈ again.actions, entry.1 ≠ 2 := by simp [again, Registration.actions]
  exact ⟨⟨hkeep, (hrun keep hkeep).1⟩, ⟨hunknown, hdropped hunknown⟩,
    ⟨hsize.trans rfl, hname 0x100 "third"⟩, ⟨htwo, hactions 2 htwo⟩, by decide,
    hothers 0x200 (by decide)⟩

end ReplyTable

end VehicleTelemetry
