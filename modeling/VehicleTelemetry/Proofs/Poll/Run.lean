import Mathlib.Data.Set.Card
import Mathlib.Tactic
import VehicleTelemetry.Proofs.Poll.Exchange

/-!
What a reassembly gives and holds after any chunks and clearings.

* `Reassembly.run`: a new reassembly after some events;
* `buffer?_run`: a sender's buffer is what the chunks of its exchange leave, and
  `buffer?_run_eq_some_iff` says which senders have one;
* `run_exchanges`: the theorem for all runs and all senders.
-/

namespace VehicleTelemetry

open ReassemblyEvent

namespace Reassembly

variable {sender : UInt32} {events : List ReassemblyEvent} {part : Chunk}

/-! ### Runs -/

/-- What an event makes of a reassembly. -/
def step (r : Reassembly) : ReassemblyEvent → Reassembly
  | .chunk part => (r.receive part).value.1
  | .clear => r.clear

/-- A new reassembly after some events. -/
def run (events : List ReassemblyEvent) : Reassembly :=
  events.foldl step empty

lemma run_concat (event : ReassemblyEvent) : run (events ++ [event]) = (run events).step event := by
  rw [run, List.foldl_append]
  rfl

/-- A first chunk is an exchange of its own so far, every other one goes on with what there is. -/
lemma exchange_chunk (hsender : part.sender = sender) :
    exchange sender (events ++ [.chunk part]) events.length =
      if part.first then [part] else exchange sender events events.length ++ [part] := by
  rw [exchange_concat]
  simp [begins, chunkOf?, hsender]

/-- A chunk of another sender leaves an exchange as it is. -/
lemma exchange_of_ne (hsender : part.sender ≠ sender) :
    exchange sender (events ++ [.chunk part]) (events ++ [ReassemblyEvent.chunk part]).length =
      exchange sender events events.length := by
  rw [exchange_after, exchange_concat]
  simp [begins, ends, chunkOf?, hsender]

lemma exchange_clear :
    exchange sender (events ++ [.clear]) (events ++ [ReassemblyEvent.clear]).length = [] := by
  rw [exchange_after]
  rfl

lemma continued_exchange (sender : UInt32) (events : List ReassemblyEvent) :
    Continued (exchange sender events events.length) := by
  induction events using List.reverseRecOn with
  | nil => nofun
  | append_singleton events event ih =>
      cases event with
      | clear =>
          rw [exchange_clear]
          nofun
      | chunk part =>
          by_cases hsender : part.sender = sender
          · rw [exchange_after, exchange_chunk hsender]
            split_ifs with _ hfirst
            · nofun
            · nofun
            · exact ih.concat (Bool.eq_false_iff.mpr hfirst)
          · rwa [exchange_of_ne hsender]

/-- With a chunk the exchange that it belongs to is continued. -/
lemma continued_exchange_chunk (events : List ReassemblyEvent) (hsender : part.sender = sender) :
    Continued (exchange sender (events ++ [.chunk part]) events.length) := by
  rw [exchange_chunk hsender]
  split_ifs with hfirst
  · nofun
  · exact (continued_exchange sender events).concat (Bool.eq_false_iff.mpr hfirst)

/-- What a chunk makes of its sender's buffer, if that holds what the exchange has left. -/
lemma extended_exchange (hsender : part.sender = sender) {old : Option ResponseBuffer}
    (hold : old = bufferAfter none (exchange sender events events.length)) :
    some (extended old part) =
      bufferAfter none (exchange sender (events ++ [.chunk part]) events.length) := by
  rw [exchange_chunk hsender]
  split_ifs with hfirst
  · rw [extended_of_first old hfirst]
    rfl
  · rw [bufferAfter_concat, hold]

/-- A sender's buffer is what the chunks of its exchange leave. -/
theorem buffer?_run (sender : UInt32) (events : List ReassemblyEvent) :
    (run events).buffer? sender = bufferAfter none (exchange sender events events.length) := by
  induction events using List.reverseRecOn with
  | nil => exact Std.ExtTreeMap.getElem?_empty
  | append_singleton events event ih =>
      rw [run_concat]
      cases event with
      | clear =>
          rw [exchange_clear]
          exact Std.ExtTreeMap.getElem?_empty
      | chunk part =>
          rw [step, buffer?_receive]
          by_cases hsender : part.sender = sender
          · subst hsender
            rw [if_pos rfl, exchange_after]
            by_cases hlast : part.remaining = 0
            · simp [ends, hlast, bufferAfter]
            · rw [if_neg hlast, extended_exchange rfl ih]
              simp [ends, hlast]
          · rw [if_neg (Ne.symm hsender), ih, exchange_of_ne hsender]

/-- A chunk's bytes are put after those of the exchange that it belongs to. -/
lemma bytes_extended_run (events : List ReassemblyEvent) (hsender : part.sender = sender) :
    (extended ((run events).buffer? sender) part).bytes =
      (exchange sender (events ++ [.chunk part]) events.length).flatMap Chunk.bytes := by
  have hextended := extended_exchange hsender (buffer?_run sender events)
  have hcontinued := continued_exchange_chunk events hsender
  have hne : exchange sender (events ++ [.chunk part]) events.length ≠ [] := by
    rw [exchange_chunk hsender]
    split <;> simp
  obtain ⟨head, rest, hcons⟩ := List.exists_cons_of_ne_nil hne
  rw [hcons] at hextended hcontinued ⊢
  rw [Option.some.inj (hextended.trans (bufferAfter_continued hcontinued))]

/-- What the first chunk of an exchange announces is what the buffer expects. -/
lemma expected_extended_run (hsender : part.sender = sender) {length : Nat}
    (h : Announces length (exchange sender (events ++ [.chunk part]) events.length)) :
    (extended ((run events).buffer? sender) part).expected = length := by
  have hextended := extended_exchange hsender (buffer?_run sender events)
  have hcontinued := continued_exchange_chunk events hsender
  obtain ⟨head, hhead, hfirst, hlength⟩ := h.first
  obtain ⟨rest, hcons⟩ := List.head?_eq_some_iff.mp hhead
  rw [hcons] at hextended hcontinued
  rw [Option.some.inj (hextended.trans (bufferAfter_continued hcontinued)), extended,
    if_pos hfirst, hlength]

/-! ### Half received responses -/

/-- A chunk is the last one of its sender since the last clearing, with `before` before it. -/
def IsLastChunk (events before : List ReassemblyEvent) (part : Chunk) : Prop :=
  ∃ after, events = before ++ .chunk part :: after ∧
    ∀ event ∈ after, event ≠ .clear ∧ event.chunkOf? part.sender = none

lemma not_isLastChunk_nil {before : List ReassemblyEvent} : ¬ IsLastChunk [] before part := by
  rintro ⟨after, h, -⟩
  simp at h

lemma isLastChunk_concat {event : ReassemblyEvent} {before : List ReassemblyEvent} :
    IsLastChunk (events ++ [event]) before part ↔
      (before = events ∧ event = .chunk part) ∨
        (IsLastChunk events before part ∧ event ≠ .clear ∧
          event.chunkOf? part.sender = none) := by
  constructor
  · rintro ⟨after, heq, hafter⟩
    rcases List.eq_nil_or_concat after with rfl | ⟨after, last, rfl⟩
    · obtain ⟨hbefore, hevent⟩ := List.append_inj' heq rfl
      exact .inl ⟨hbefore.symm, by simpa using hevent⟩
    · rw [List.concat_eq_append, ← List.cons_append, ← List.append_assoc] at heq
      obtain ⟨hevents, hevent⟩ := List.append_inj' heq rfl
      obtain rfl : event = last := by simpa using hevent
      exact .inr ⟨⟨after, hevents, fun e he => hafter e (by simp [he])⟩, hafter event (by simp)⟩
  · rintro (⟨rfl, rfl⟩ | ⟨⟨after, rfl, hafter⟩, hevent⟩)
    · exact ⟨[], rfl, nofun⟩
    · refine ⟨after ++ [event], by simp, fun e he => ?_⟩
      rcases List.mem_append.mp he with he | he
      · exact hafter e he
      · rwa [List.mem_singleton.mp he]

/-- A sender has a buffer as long as its last chunk since the last clearing leaves bytes to come. -/
lemma buffer?_run_eq_some_iff {buffer : ResponseBuffer} :
    (run events).buffer? sender = some buffer ↔
      ∃ before part, IsLastChunk events before part ∧ part.sender = sender ∧
        part.remaining ≠ 0 ∧ extended ((run before).buffer? sender) part = buffer := by
  induction events using List.reverseRecOn with
  | nil =>
      have hempty : (run []).buffer? sender = none := Std.ExtTreeMap.getElem?_empty
      simp [hempty, not_isLastChunk_nil]
  | append_singleton events event ih =>
      rw [run_concat]
      simp only [isLastChunk_concat]
      cases event with
      | clear =>
          have hempty : ((run events).step .clear).buffer? sender = none :=
            Std.ExtTreeMap.getElem?_empty
          simp [hempty]
      | chunk part =>
          rw [step, buffer?_receive]
          -- a chunk of the sender is its last one now, and any other leaves the buffer alone
          by_cases hsender : part.sender = sender
          · subst hsender
            rw [if_pos rfl]
            constructor
            · intro h
              split_ifs at h with hlast
              exact ⟨events, part, .inl ⟨rfl, rfl⟩, rfl, hlast, Option.some.inj h⟩
            · rintro ⟨before, last, ⟨rfl, hlast⟩ | ⟨-, -, hother⟩, hsender, hremaining, rfl⟩
              · obtain rfl : part = last := by simpa using hlast
                rw [if_neg hremaining]
              · simp [chunkOf?, hsender] at hother
          · rw [if_neg (Ne.symm hsender), ih]
            constructor
            · rintro ⟨before, last, hlast, rfl, h⟩
              exact ⟨before, last, .inr ⟨hlast, by simp, by simp [chunkOf?, hsender]⟩, rfl, h⟩
            · rintro ⟨before, last, ⟨-, hlast⟩ | ⟨hlast, -⟩, hlastSender, h⟩
              · obtain rfl : part = last := by simpa using hlast
                exact absurd hlastSender hsender
              · exact ⟨before, last, hlast, hlastSender, h⟩

/-- There are as many responses being received as senders with a buffer. -/
lemma inFlight_eq (r : Reassembly) :
    r.inFlight = {sender | (r.buffer? sender).isSome = true}.ncard := by
  have hkeys : {sender | (r.buffer? sender).isSome = true} =
      (r.buffers.keys.toFinset : Set UInt32) := by
    ext sender
    simp [buffer?]
  rw [hkeys, Set.ncard_coe_finset, List.toFinset_card_of_nodup Std.ExtTreeMap.nodup_keys,
    Std.ExtTreeMap.length_keys, inFlight]

/-- A sender's buffer holds the bytes of the exchange that its last chunk belongs to, if that chunk
does not end it. -/
lemma bytes_buffer?_run_iff {bytes : List UInt8} :
    ((run events).buffer? sender).map ResponseBuffer.bytes = some bytes ↔
      ∃ before part, IsLastChunk events before part ∧ part.sender = sender ∧
        part.remaining ≠ 0 ∧
        (exchange sender (before ++ [.chunk part]) before.length).flatMap Chunk.bytes = bytes := by
  rw [Option.map_eq_some_iff]
  constructor
  · rintro ⟨buffer, hbuffer, rfl⟩
    obtain ⟨before, part, hlast, hsender, hremaining, rfl⟩ := buffer?_run_eq_some_iff.mp hbuffer
    exact ⟨before, part, hlast, hsender, hremaining, (bytes_extended_run before hsender).symm⟩
  · rintro ⟨before, part, hlast, hsender, hremaining, rfl⟩
    exact ⟨_, buffer?_run_eq_some_iff.mpr ⟨before, part, hlast, hsender, hremaining, rfl⟩,
      bytes_extended_run before hsender⟩

lemma inFlight_run (events : List ReassemblyEvent) :
    (run events).inFlight =
      {m | ∃ before part, IsLastChunk events before part ∧ part.sender = m ∧
        part.remaining ≠ 0}.ncard := by
  rw [inFlight_eq]
  congr 1
  ext m
  rw [Set.mem_ofPred_eq, Set.mem_ofPred_eq, Option.isSome_iff_exists]
  simp only [buffer?_run_eq_some_iff]
  constructor
  · rintro ⟨_, before, part, hlast, hsender, hremaining, -⟩
    exact ⟨before, part, hlast, hsender, hremaining⟩
  · rintro ⟨before, part, hlast, hsender, hremaining⟩
    exact ⟨_, before, part, hlast, hsender, hremaining, rfl⟩

/-- In a response of announced length, what has come and what is missing make up that length. -/
lemma length_extended_run {length : ℕ} (hsender : part.sender = sender)
    (hlength : Announces length (exchange sender (events ++ [.chunk part]) events.length)) :
    (extended ((run events).buffer? sender) part).bytes.length + part.remaining.toNat =
      length := by
  have hlast : (exchange sender (events ++ [.chunk part]) events.length).getLast? = some part := by
    rw [exchange_chunk hsender]
    split <;> simp
  rw [bytes_extended_run events hsender]
  exact hlength.length_eq hlast

/-- **Responses are put together for each sender apart.** After any events,

* a sender's chunk gives the response when nothing is to come, and nothing before: the bytes
  of the sender's chunks, from the latest position on at which its response starts over;
* the sender has a buffer with the same bytes if its last chunk since the last clearing leaves
  some to come, and there are as many responses being received as such senders;
* if the chunks count down to the length that the first of them announces, then the buffer
  expects that length, which is what it holds with what is to come, and a complete response
  has it. -/
theorem run_exchanges (sender : UInt32) (events : List ReassemblyEvent) :
    (∀ part, part.sender = sender →
      ((run events).receive part).value.2 =
        if part.remaining = 0 then
          some ((exchange sender (events ++ [.chunk part]) events.length).flatMap Chunk.bytes)
        else none) ∧
    (∀ bytes, ((run events).buffer? sender).map ResponseBuffer.bytes = some bytes ↔
      ∃ before part, IsLastChunk events before part ∧ part.sender = sender ∧
        part.remaining ≠ 0 ∧
        (exchange sender (before ++ [.chunk part]) before.length).flatMap Chunk.bytes = bytes) ∧
    (run events).inFlight =
      {m | ∃ before part, IsLastChunk events before part ∧ part.sender = m ∧
        part.remaining ≠ 0}.ncard ∧
    ∀ part length, part.sender = sender →
      Announces length (exchange sender (events ++ [.chunk part]) events.length) →
      (∀ buffer, (run (events ++ [.chunk part])).buffer? sender = some buffer →
        buffer.expected = length ∧ buffer.bytes.length + part.remaining.toNat = length) ∧
      ∀ payload, ((run events).receive part).value.2 = some payload →
        payload.length = length := by
  refine ⟨fun part hsender => ?_, fun bytes => bytes_buffer?_run_iff, inFlight_run events,
    fun part length hsender hlength => ?_⟩
  · rw [payload_receive, hsender, bytes_extended_run events hsender]
  -- an exchange that announces a length keeps count of the bytes that are still to come
  · have hexpected := expected_extended_run hsender hlength
    have hcount := length_extended_run hsender hlength
    subst hsender
    refine ⟨fun buffer hbuffer => ?_, fun payload hpayload => ?_⟩
    · rw [run_concat, step, buffer?_receive, if_pos rfl] at hbuffer
      split_ifs at hbuffer
      obtain rfl := Option.some.inj hbuffer
      exact ⟨hexpected, hcount⟩
    · rw [payload_receive] at hpayload
      split_ifs at hpayload with hzero
      obtain rfl := Option.some.inj hpayload
      simpa [hzero] using hcount

/-- Two senders by turns: one of them announces five bytes and gives them in three chunks,
the other one goes on with a response that nobody has begun. -/
theorem run_exchanges_by_turns :
    let part (sender : UInt32) (first : Bool) (bytes : List UInt8) (remaining : UInt16) : Chunk :=
      { sender, pid := 0x1F9A, first, bytes, remaining }
    let events : List ReassemblyEvent := [.chunk (part 0x74F false [7] 1),
      .chunk (part 0x74F true [1, 2] 3), .chunk (part 0x74D false [9] 1),
      .chunk (part 0x74F false [3] 2)]
    let last := part 0x74F false [4, 5] 0
    last.sender = 0x74F ∧ Announces 5 (exchange 0x74F (events ++ [.chunk last]) events.length) ∧
      ((run events).receive last).value.2 = some [1, 2, 3, 4, 5] ∧
      ∀ payload, ((run events).receive last).value.2 = some payload → payload.length = 5 := by
  intro part events last
  have hexchange : exchange 0x74F (events ++ [.chunk last]) events.length =
      [part 0x74F true [1, 2] 3, part 0x74F false [3] 2, last] := by decide
  have hannounces : Announces 5 (exchange 0x74F (events ++ [.chunk last]) events.length) := by
    rw [hexchange]
    exact ⟨⟨_, rfl, rfl, rfl⟩, by decide⟩
  obtain ⟨houtcome, -, -, hlength⟩ := run_exchanges 0x74F events
  have hlast := houtcome last rfl
  rw [hexchange] at hlast
  exact ⟨rfl, hannounces, hlast, (hlength last 5 rfl hannounces).2⟩

end Reassembly

end VehicleTelemetry
