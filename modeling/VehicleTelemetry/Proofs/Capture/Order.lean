import Mathlib.Tactic
import VehicleTelemetry.Proofs.Capture.Lines

/-!
The order of a captured session's events.

Events come by their times, and those of one time as they stand in the file.

* `filter_byTime`: sorting leaves the events of one time in their order;
* `eq_of_filter_eq`: in two lists that are in order, the events of each time are all there is to
  know;
* `parse_stable` puts these and the lines together.
-/

namespace VehicleTelemetry.Capture

/-- Events in the order of their times. -/
def byTime (events : List CaptureEvent) : List CaptureEvent :=
  events.mergeSort fun a b => a.time ≤ b.time

lemma le_trans_time (a b c : CaptureEvent) (hab : decide (a.time ≤ b.time) = true)
    (hbc : decide (b.time ≤ c.time) = true) : decide (a.time ≤ c.time) = true := by
  simp only [decide_eq_true_eq] at *
  exact hab.trans hbc

lemma le_total_time (a b : CaptureEvent) :
    (decide (a.time ≤ b.time) || decide (b.time ≤ a.time)) = true := by
  simpa using Nat.le_total a.time b.time

lemma pairwise_byTime (events : List CaptureEvent) :
    (byTime events).Pairwise (·.time ≤ ·.time) :=
  (List.pairwise_mergeSort le_trans_time le_total_time events).imp of_decide_eq_true

/-- Sorting leaves the events of one time in their order. -/
lemma filter_byTime (events : List CaptureEvent) (t : Nat) :
    (byTime events).filter (·.time = t) = events.filter (·.time = t) := by
  have htime : ∀ event ∈ events.filter (·.time = t), event.time = t := by
    intro event hevent
    simpa using List.of_mem_filter hevent
  have hordered : (events.filter (·.time = t)).Pairwise
      fun a b => decide (a.time ≤ b.time) = true :=
    List.pairwise_iff_forall_sublist.mpr fun {a b} hab => by
      have ha := htime a (hab.subset (by simp))
      have hb := htime b (hab.subset (by simp))
      exact decide_eq_true (ha.trans hb.symm).le
  have hsublist : (events.filter (·.time = t)).Sublist (byTime events) :=
    List.sublist_mergeSort le_trans_time le_total_time hordered List.filter_sublist
  have hkept : (events.filter (·.time = t)).Sublist ((byTime events).filter (·.time = t)) := by
    simpa using hsublist.filter (·.time = t)
  have hlength : ((byTime events).filter (·.time = t)).length =
      (events.filter (·.time = t)).length :=
    ((List.mergeSort_perm events _).filter _).length_eq
  exact (hkept.eq_of_length hlength.symm).symm

/-- The first of some events in order is the first one of its time. -/
lemma time_le_of_filter_eq {event other : CaptureEvent} {events others : List CaptureEvent}
    (h : (other :: others).Pairwise (·.time ≤ ·.time))
    (hfilter : (event :: events).filter (·.time = event.time) =
      (other :: others).filter (·.time = event.time)) : other.time ≤ event.time := by
  have hmem : event ∈ other :: others := by
    have hevent : event ∈ (event :: events).filter (·.time = event.time) := by simp
    rw [hfilter] at hevent
    exact List.mem_of_mem_filter hevent
  obtain rfl | hrest := List.mem_cons.mp hmem
  · exact le_rfl
  · exact List.rel_of_pairwise_cons h hrest

/-- Lists in order are equal if they have the same events of each time. -/
lemma eq_of_filter_eq {events others : List CaptureEvent}
    (hevents : events.Pairwise (·.time ≤ ·.time)) (hothers : others.Pairwise (·.time ≤ ·.time))
    (h : ∀ t, events.filter (·.time = t) = others.filter (·.time = t)) : events = others := by
  induction events generalizing others with
  | nil =>
      cases others with
      | nil => rfl
      | cons other rest => simpa using h other.time
  | cons event rest ih =>
      cases others with
      | nil => simpa using h event.time
      | cons other others =>
          -- each list begins with its earliest time, and every time of one is a time of the other
          have htime : event.time = other.time :=
            le_antisymm (time_le_of_filter_eq hevents (h other.time).symm)
              (time_le_of_filter_eq hothers (h event.time))
          obtain rfl : event = other := by
            have hhead := h event.time
            rw [List.filter_cons_of_pos (by simp),
              List.filter_cons_of_pos (by simp [htime])] at hhead
            exact (List.cons.inj hhead).1
          rw [ih hevents.of_cons hothers.of_cons]
          intro t
          have ht := h t
          by_cases hevent : event.time = t
          · rw [List.filter_cons_of_pos (by simp [hevent]),
              List.filter_cons_of_pos (by simp [hevent])] at ht
            exact (List.cons.inj ht).2
          · rwa [List.filter_cons_of_neg (by simp [hevent]),
              List.filter_cons_of_neg (by simp [hevent])] at ht

/-- **A capture is its events in a stable order, or the first error.** Take the pieces of a file
between its newlines, without carriage returns at their ends, numbered from one. The first that is
no text, or whose trimmed text is neither empty nor a comment and spells no event, is the error:
that the file is unreadable if it is no text, and else its number. If there is none, each line that
is neither empty nor a comment has one event, and the capture is these events in the order of their
times, those of one time in the order of their lines. Two files of which this is the case are the
same capture if they have the same events of each time in the same order, whatever else lies
between. -/
theorem parse_stable (bytes : List UInt8) :
    (match firstBad? 1 (pieces bytes) with
      | some (line, number) =>
        parse bytes = .error (if characters? line = none then .unreadable else .badLine number)
      | none =>
        (∀ line ∈ pieces bytes, (event? line).isSome = holdsEvent line) ∧
        ∃ events, parse bytes = .ok events ∧
          events.Perm ((pieces bytes).filterMap event?) ∧
          events.Pairwise (·.time ≤ ·.time) ∧
          ∀ t, events.filter (·.time = t) =
            ((pieces bytes).filterMap event?).filter (·.time = t)) ∧
    ∀ other, firstBad? 1 (pieces bytes) = none → firstBad? 1 (pieces other) = none →
      (∀ t, ((pieces bytes).filterMap event?).filter (·.time = t) =
        ((pieces other).filterMap event?).filter (·.time = t)) →
      parse bytes = parse other := by
  have hparse (file : List UInt8) (h : firstBad? 1 (pieces file) = none) :
      parse file = .ok (byTime ((pieces file).filterMap event?)) := by
    rw [parse_eq, readFrom_eq, h]
    rfl
  refine ⟨?_, ?_⟩
  · cases hfirst : firstBad? 1 (pieces bytes) with
    | some bad =>
        obtain ⟨line, number⟩ := bad
        rw [parse_eq, readFrom_eq, hfirst]
        simp [errorOf, text?]
    | none =>
        refine ⟨fun line hline => isSome_event? (isBad_of_firstBad?_eq_none hfirst line hline), ?_⟩
        exact ⟨_, hparse bytes hfirst, List.mergeSort_perm _ _, pairwise_byTime _, filter_byTime _⟩
  · intro other hbytes hother hevents
    rw [hparse bytes hbytes, hparse other hother]
    -- a sorted list is fixed by its events at each time
    refine congrArg Except.ok (eq_of_filter_eq (pairwise_byTime _) (pairwise_byTime _) fun t => ?_)
    rw [filter_byTime, filter_byTime, hevents t]

/-- A capture, and the same one in another order, with a comment, blank lines and carriage
returns. -/
theorem parse_stable_reordered :
    let bytes (text : String) : List UInt8 := text.toUTF8.data.toList
    let file := bytes "[\"frame\",5]\n[\"metric\",3,\"m\",true]\n[\"frame\",3]"
    let other := bytes "# moved\r\n [\"metric\",3,\"m\",true]\r\n\n[\"frame\",3]\n[\"frame\",5]\n\r"
    let bad := bytes "\n[\"frame\",5]\n[\"frame\"]\n[\"bus\"]"
    (firstBad? 1 (pieces file) = none ∧ firstBad? 1 (pieces other) = none ∧
      parse file = parse other) ∧
    parse bad = .error (.badLine 3) := by
  intro bytes file other bad
  have hfile : firstBad? 1 (pieces file) = none := by decide +kernel
  have hother : firstBad? 1 (pieces other) = none := by decide +kernel
  have hevents : (pieces file).filterMap event? =
      [.frame 5, .metric 3 "m" (.bool true), .frame 3] := by decide +kernel
  have hevents' : (pieces other).filterMap event? =
      [.metric 3 "m" (.bool true), .frame 3, .frame 5] := by decide +kernel
  have hbad : firstBad? 1 (pieces bad) = some (bytes "[\"frame\"]", 3) := by decide +kernel
  have hmeaning : ¬ characters? (bytes "[\"frame\"]") = none := by decide +kernel
  refine ⟨⟨hfile, hother, (parse_stable file).2 other hfile hother fun t => ?_⟩, ?_⟩
  · rw [hevents, hevents']
    by_cases hthree : 3 = t
    · subst hthree
      rfl
    · simp [List.filter_cons, CaptureEvent.time, hthree]
  · have herror := (parse_stable bad).1
    rw [hbad] at herror
    exact herror.trans (congrArg Except.error (if_neg hmeaning))

end VehicleTelemetry.Capture
