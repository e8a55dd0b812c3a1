import Mathlib.Tactic
import VehicleTelemetry.Poll.Poller

/-!
A repeated request, as a burst of equal requests.

* `Responder.askAll`: what a responder answers to the same request some times over;
* `Poller.Burst`: from one poller to a later one a request has been made until it was
  answered, or as often as it may be;
* `burst_retry`: `Poller.retry` is such a burst, and its result is the last answer.
-/

namespace VehicleTelemetry

variable {ρ : Type} [Responder ρ]

/-- The answers to a request that is made `n` times, and the responder after them. -/
def Responder.askAll (query : Query) : Nat → ρ → List (Except PollError Payload) × ρ
  | 0, responder => ([], responder)
  | n + 1, responder =>
    let first := Responder.answer responder query
    let rest := askAll query n first.2
    (first.1 :: rest.1, rest.2)

namespace Poller

/-- A request that is made over and over, at most `attempts` times, and the answers
that it gets. -/
structure Burst (query : Query) (attempts : Nat) (before after : Poller ρ)
    (answers : List (Except PollError Payload)) : Prop where
  asked : Responder.askAll query answers.length before.responder = (answers, after.responder)
  queries_eq : after.queries.toList =
    before.queries.toList ++ List.replicate answers.length query
  ne_nil : answers ≠ []
  length_le : answers.length ≤ attempts
  /-- It is only made again because it has failed. -/
  failed : ∀ answer ∈ answers.dropLast, ∃ cause, answer = .error cause
  /-- It is given up only when the attempts are used up. -/
  answered : answers.length < attempts → ∃ response, answers.getLast? = some (.ok response)

namespace Burst

variable {query : Query} {attempts : Nat} {poller after : Poller ρ}
  {answers : List (Except PollError Payload)}

/-- One request is a burst if it is answered, or if there is only this attempt. -/
lemma single (hlast : attempts = 0 ∨ ∃ response, (poller.ask query).value.1 = .ok response) :
    Burst query (attempts + 1) poller (poller.ask query).value.2 [(poller.ask query).value.1] where
  asked := rfl
  queries_eq := Array.toList_push
  ne_nil := List.cons_ne_nil _ _
  length_le := Nat.le_add_left 1 attempts
  failed := nofun
  answered := by
    intro hlt
    rw [List.length_singleton] at hlt
    obtain rfl | ⟨response, hok⟩ := hlast
    · exact absurd hlt (Nat.lt_irrefl 1)
    · exact ⟨response, congrArg some hok⟩

/-- A request that fails and is made again. -/
lemma cons {cause : PollError} (hfailed : (poller.ask query).value.1 = .error cause)
    (h : Burst query attempts (poller.ask query).value.2 after answers) :
    Burst query (attempts + 1) poller after ((poller.ask query).value.1 :: answers) where
  asked := by
    have hrest : Responder.askAll query answers.length
        (Responder.answer poller.responder query).2 = (answers, after.responder) := h.asked
    rw [List.length_cons, Responder.askAll, hrest]
    rfl
  queries_eq := by
    have hfirst : (poller.ask query).value.2.queries.toList = poller.queries.toList ++ [query] :=
      Array.toList_push
    rw [h.queries_eq, hfirst, List.length_cons, List.replicate_succ, List.append_assoc]
    rfl
  ne_nil := List.cons_ne_nil _ _
  length_le := Nat.succ_le_succ h.length_le
  failed := by
    rw [List.dropLast_cons_of_ne_nil h.ne_nil]
    exact List.forall_mem_cons.mpr ⟨⟨cause, hfailed⟩, h.failed⟩
  answered := by
    intro hlt
    obtain ⟨response, hlast⟩ := h.answered (Nat.lt_of_succ_lt_succ hlt)
    refine ⟨response, ?_⟩
    rw [List.getLast?_cons, hlast]
    rfl

/-- A burst does not ask for anything else. -/
lemma queryCount_of_ne (h : Burst query attempts poller after answers) {pid : Pid}
    (hpid : query.pid ≠ pid) : after.queryCount pid = poller.queryCount pid := by
  have hother : (List.replicate answers.length query).countP (·.pid == pid) = 0 := by
    rw [List.countP_replicate, if_neg (by simpa using hpid)]
  rw [queryCount, ← Array.countP_toList, h.queries_eq, List.countP_append, hother, Nat.add_zero,
    Array.countP_toList, queryCount]

end Burst

lemma burst_retryFrom (query : Query) (made left : Nat) (poller : Poller ρ) :
    ∃ answers, Burst query (left + 1) poller (retryFrom query made left poller).value.2 answers ∧
      answers.getLast? = some (retryFrom query made left poller).value.1 := by
  -- there is always a first attempt; only a failure goes on to the attempts that are left
  induction left generalizing made poller with
  | zero =>
      have hresult : (retryFrom query made 0 poller).value = (poller.ask query).value := by
        rw [retryFrom]
        simp only [Logged.value_bind]
        rcases (poller.ask query).value with ⟨cause | response, after⟩ <;> rfl
      rw [hresult]
      exact ⟨_, .single (.inl rfl), rfl⟩
  | succ left ih =>
      cases hanswer : (poller.ask query).value.1 with
      | error cause =>
          have hresult : (retryFrom query made (left + 1) poller).value =
              (retryFrom query (made + 1) left (poller.ask query).value.2).value := by
            rw [retryFrom]
            simp only [Logged.value_bind, hanswer]
          obtain ⟨answers, hburst, hlast⟩ := ih (made + 1) (poller.ask query).value.2
          rw [hresult]
          refine ⟨_, hburst.cons hanswer, ?_⟩
          rw [List.getLast?_cons, hlast]
          rfl
      | ok response =>
          have hresult : (retryFrom query made (left + 1) poller).value =
              (poller.ask query).value := by
            rw [retryFrom]
            simp only [Logged.value_bind, hanswer]
            exact Prod.ext hanswer.symm rfl
          rw [hresult]
          exact ⟨_, .single (.inr ⟨response, hanswer⟩), rfl⟩

/-- Repeating a request is a burst of it, and the result is the last answer. The
first attempt is made in any case. -/
lemma burst_retry (poller : Poller ρ) (query : Query) (attempts : Nat) :
    ∃ answers,
      Burst query (attempts - 1 + 1) poller (poller.retry query attempts).value.2 answers ∧
        answers.getLast? = some (poller.retry query attempts).value.1 :=
  burst_retryFrom query 0 (attempts - 1) poller

end Poller

end VehicleTelemetry
