import Mathlib.Tactic
import VehicleTelemetry.Proofs.Poll.Burst

/-!
What a request gets of a script when it is repeated.

* `queue_push`, `queue_answer`: how the queue of an identifier grows and shrinks;
* `Script.reply`: the queue, continued by missing responses without end; `askAll_eq` says that
  repeated requests get its beginning;
* `TakesUpTo`: up to which answer a retry goes on, and `retried_retry` what it does to a poller.
-/

namespace VehicleTelemetry

namespace Script

variable (script : Script) (query : Query)

/-- The answers that a request gets when it is made over and over: the prepared ones, then no
response in time, without end. -/
def reply (place : ℕ) : Except PollError Payload :=
  (script.queue query.pid)[place]?.getD (.error (.timeout query.responder.responseId query.timeout))

/-! ### The queues -/

lemma queue_push (pid other : Pid) (answer : Except PollError Payload) :
    (script.push pid answer).queue other =
      script.queue other ++ if pid = other then [answer] else [] := by
  rw [push, queue, queue, List.filter_append, List.map_append]
  by_cases h : pid = other <;> simp [h]

/-- Of the answers for one identifier the first is erased, so that the rest is left in order. -/
lemma filter_eraseP_self {α : Type} (p : α → Bool) (list : List α) :
    (list.eraseP p).filter p = (list.filter p).tail := by
  induction list with
  | nil => rfl
  | cons a rest ih => by_cases ha : p a <;> simp [ha, ih]

lemma filter_eraseP_of_disjoint {α : Type} {p q : α → Bool} (h : ∀ a, p a = true → q a = false)
    (list : List α) : (list.eraseP p).filter q = list.filter q := by
  induction list with
  | nil => rfl
  | cons a rest ih =>
      by_cases ha : p a
      · simp [ha, h a ha]
      · simp [ha, List.filter_cons, ih]

lemma answers_answer :
    (script.answer query).2.answers = script.answers.eraseP (·.1 == query.pid) := by
  rw [answer]
  cases hfind : script.answers.find? (·.1 == query.pid) with
  | none => exact (List.eraseP_of_forall_not (by simpa using hfind)).symm
  | some found => rfl

/-- A request uses up the first answer of its identifier and none of another. -/
lemma queue_answer (pid : Pid) :
    (script.answer query).2.queue pid =
      if pid = query.pid then (script.queue pid).tail else script.queue pid := by
  rw [queue, answers_answer, queue]
  split_ifs with hpid
  · rw [hpid, filter_eraseP_self, List.map_tail]
  · rw [filter_eraseP_of_disjoint]
    intro prepared hprepared
    simpa [beq_iff_eq.mp hprepared] using Ne.symm hpid

/-- That answer is the one that the request gets. -/
lemma answer_fst : (script.answer query).1 = script.reply query 0 := by
  have hhead : (script.queue query.pid).head? =
      (script.answers.find? (·.1 == query.pid)).map (·.2) := by
    rw [queue, List.head?_map, List.head?_filter]
  rw [reply, ← List.head?_eq_getElem?, hhead, answer]
  cases script.answers.find? (·.1 == query.pid) <;> rfl

lemma reply_answer (place : ℕ) :
    (script.answer query).2.reply query place = script.reply query (place + 1) := by
  rw [reply, queue_answer, if_pos rfl, List.getElem?_tail, reply]

/-- A request that is made `n` times over gets the first `n` answers and uses them up. -/
lemma askAll_eq (n : ℕ) :
    (Responder.askAll query n script).1 = (List.range n).map (script.reply query) ∧
      ∀ pid, (Responder.askAll query n script).2.queue pid =
        if pid = query.pid then (script.queue pid).drop n else script.queue pid := by
  induction n generalizing script with
  | zero => exact ⟨rfl, fun pid => by simp [Responder.askAll]⟩
  | succ n ih =>
      obtain ⟨hanswers, hqueues⟩ := ih (script.answer query).2
      refine ⟨?_, fun pid => ?_⟩
      · have hfirst : (Responder.askAll query (n + 1) script).1 =
            (script.answer query).1 :: (Responder.askAll query n (script.answer query).2).1 := rfl
        rw [hfirst, hanswers, answer_fst, List.range_succ_eq_map, List.map_cons, List.map_map]
        exact congrArg _ (List.map_congr_left fun place _ => reply_answer script query place)
      · have hrest : (Responder.askAll query (n + 1) script).2 =
            (Responder.askAll query n (script.answer query).2).2 := rfl
        rw [hrest, hqueues, queue_answer]
        split_ifs with hpid
        · rw [List.drop_tail, Nat.add_comm]
        · rfl

end Script

/-! ### A request that is repeated -/

/-- How many answers are taken if at most `most` may be: all up to the first success, or `most` if
there is none among them. -/
def TakesUpTo (answers : ℕ → Except PollError Payload) (most count : ℕ) : Prop :=
  (∃ first, IsLeast {place | place < most ∧ ∃ response, answers place = .ok response} first ∧
    count = first + 1) ∨
  ((∀ place < most, ∃ cause, answers place = .error cause) ∧ count = most)

/-- A burst whose last answer is the first success, or which has used up its attempts. -/
lemma takesUpTo_of_failed {answers : ℕ → Except PollError Payload} {most last : ℕ}
    (hle : last < most) (hfailed : ∀ place < last, ∃ cause, answers place = .error cause)
    (hanswered : last + 1 < most → ∃ response, answers last = .ok response) :
    TakesUpTo answers most (last + 1) := by
  cases hlast : answers last with
  | ok response =>
      refine .inl ⟨last, ⟨⟨hle, response, hlast⟩, ?_⟩, rfl⟩
      rintro place ⟨-, other, hother⟩
      by_contra hbefore
      obtain ⟨cause, hcause⟩ := hfailed place (not_le.mp hbefore)
      cases hother.symm.trans hcause
  | error cause =>
      have hmost : last + 1 = most := by
        by_contra hne
        obtain ⟨response, hresponse⟩ := hanswered (lt_of_le_of_ne hle hne)
        cases hlast.symm.trans hresponse
      refine .inr ⟨fun place hplace => ?_, hmost⟩
      obtain hbefore | rfl := Nat.lt_succ_iff_lt_or_eq.mp (hmost ▸ hplace)
      · exact hfailed place hbefore
      · exact ⟨cause, hlast⟩

/-- What a repeated request does to a scripted poller. -/
structure Retried (query : Query) (attempts count : ℕ) (before after : ScriptedPoller)
    (result : Except PollError Payload) : Prop where
  takes : TakesUpTo (before.responder.reply query) (max 1 attempts) count
  asked : Responder.askAll query count before.responder =
    ((List.range count).map (before.responder.reply query), after.responder)
  result_eq : result = before.responder.reply query (count - 1)
  queries_eq : after.queries.toList = before.queries.toList ++ List.replicate count query
  queue_eq : after.responder.queue query.pid = (before.responder.queue query.pid).drop
    (min count (before.responder.queue query.pid).length)
  queue_eq_of_ne : ∀ pid ≠ query.pid, after.responder.queue pid = before.responder.queue pid

lemma retried_retry (poller : ScriptedPoller) (query : Query) (attempts : ℕ) :
    ∃ count, Retried query attempts count poller (poller.retry query attempts).value.2
      (poller.retry query attempts).value.1 := by
  obtain ⟨answers, hburst, hlast⟩ := poller.burst_retry query attempts
  obtain ⟨hreplies, hqueues⟩ := poller.responder.askAll_eq query answers.length
  rw [hburst.asked] at hreplies hqueues
  obtain ⟨last, hlength⟩ := Nat.exists_eq_succ_of_ne_zero
    (mt List.length_eq_zero_iff.mp hburst.ne_nil)
  -- all answers but the last are failures, and there is a last one
  have hanswers : answers = (List.range last).map (poller.responder.reply query) ++
      [poller.responder.reply query last] := by
    rw [hlength, List.range_succ, List.map_append] at hreplies
    exact hreplies
  have hmost : attempts - 1 + 1 = max 1 attempts := by omega
  refine ⟨answers.length, ?_, ?_, ?_, hburst.queries_eq, ?_, ?_⟩
  · rw [hlength]
    refine takesUpTo_of_failed ?_ ?_ ?_
    · have hle := hburst.length_le
      omega
    · intro place hplace
      refine hburst.failed _ ?_
      rw [hanswers, List.dropLast_concat]
      exact List.mem_map_of_mem (List.mem_range.mpr hplace)
    · intro hlt
      obtain ⟨response, hresponse⟩ := hburst.answered (by omega)
      rw [hanswers, List.getLast?_concat] at hresponse
      exact ⟨response, Option.some.inj hresponse⟩
  · rw [← hreplies, ← hburst.asked]
  · rw [hanswers, List.getLast?_concat] at hlast
    rw [hlength]
    exact (Option.some.inj hlast).symm
  · rw [hqueues, if_pos rfl, List.drop_eq_drop_min]
  · intro pid hpid
    rw [hqueues, if_neg hpid]

end VehicleTelemetry
