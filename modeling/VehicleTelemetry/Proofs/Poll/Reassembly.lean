import Mathlib.Tactic
import VehicleTelemetry.Poll.Reassembly

/-!
Buffers of half received responses.

* `buffer?_receive`, `payload_receive`: a chunk changes the buffer of its own
  sender only, and completes the response exactly when nothing is to come;
* `ext_buffer?`: the buffers are all there is;
* `Chunk.Whole`: a response in one chunk, which needs no buffer
  (`payload_receive_of_whole`) and leaves none (`buffer?_receive_of_whole`);
* `Fragments`: one response in several chunks, and `bytes_extended_fragments`,
  which puts it together again whatever the buffer held before.
-/

namespace VehicleTelemetry

/-- A chunk that is a response by itself: the first one, after which nothing is to come. -/
structure Chunk.Whole (chunk : Chunk) : Prop where
  first : chunk.first = true
  remaining : chunk.remaining = 0

/-- A whole response with a sender and a data identifier. -/
def Chunk.whole (key : UInt32 × UInt16) (bytes : List UInt8) : Chunk :=
  { sender := key.1, pid := key.2, first := true, bytes, remaining := 0 }

namespace Reassembly

variable (r : Reassembly) (chunk : Chunk)

/-- Two reassemblies with the same buffers are the same. -/
lemma ext_buffer? {r s : Reassembly} (h : ∀ sender, r.buffer? sender = s.buffer? sender) :
    r = s := by
  cases r
  cases s
  exact congrArg Reassembly.mk (Std.ExtTreeMap.ext_getElem? fun {sender} => h sender)

/-- A chunk changes its sender's buffer and no other one. -/
lemma buffer?_receive (other : UInt32) :
    (r.receive chunk).value.1.buffer? other =
      if other = chunk.sender then
        if chunk.remaining = 0 then none else some (extended (r.buffer? chunk.sender) chunk)
      else r.buffer? other := by
  by_cases hlast : chunk.remaining = 0
  · simp [receive, buffer?, hlast, Std.ExtTreeMap.getElem?_erase, @eq_comm _ chunk.sender other]
  · simp [receive, buffer?, hlast, Std.ExtTreeMap.getElem?_insert, @eq_comm _ chunk.sender other]

/-- A response is complete when its last chunk is there. -/
lemma payload_receive :
    (r.receive chunk).value.2 =
      if chunk.remaining = 0 then some (extended (r.buffer? chunk.sender) chunk).bytes
      else none := by
  by_cases hlast : chunk.remaining = 0 <;> simp [receive, hlast]

/-! ### Responses in one chunk -/

section Whole

variable {chunk other : Chunk}

lemma payload_receive_of_whole (h : chunk.Whole) :
    (r.receive chunk).value.2 = some chunk.bytes := by
  rw [payload_receive, if_pos h.remaining, extended, if_pos h.first]

/-- A response in one chunk leaves no buffer. -/
lemma buffer?_receive_of_whole (h : chunk.Whole) (sender : UInt32) :
    (r.receive chunk).value.1.buffer? sender =
      if sender = chunk.sender then none else r.buffer? sender := by
  rw [buffer?_receive, if_pos h.remaining]

lemma receive_receive_of_whole (h : chunk.Whole) :
    ((r.receive chunk).value.1.receive chunk).value.1 = (r.receive chunk).value.1 := by
  refine ext_buffer? fun sender => ?_
  rw [buffer?_receive_of_whole _ h, buffer?_receive_of_whole _ h]
  split <;> rfl

/-- Two responses, each in one chunk, can be taken in in either order. -/
lemma receive_comm_of_whole (h : chunk.Whole) (hother : other.Whole) :
    ((r.receive chunk).value.1.receive other).value.1 =
      ((r.receive other).value.1.receive chunk).value.1 := by
  refine ext_buffer? fun sender => ?_
  rw [buffer?_receive_of_whole _ hother, buffer?_receive_of_whole _ h,
    buffer?_receive_of_whole _ h, buffer?_receive_of_whole _ hother]
  split <;> split <;> rfl

end Whole

/-! ### Responses in several chunks -/

/-- What a sender's buffer holds after some chunks that leave bytes to come. -/
def bufferAfter (old : Option ResponseBuffer) (chunks : List Chunk) : Option ResponseBuffer :=
  chunks.foldl (fun buffer chunk => some (extended buffer chunk)) old

/-- Chunks that are not the first of their response are appended. -/
lemma bytes_bufferAfter (buffer : ResponseBuffer) (chunks : List Chunk)
    (h : ∀ chunk ∈ chunks, chunk.first = false) :
    (bufferAfter (some buffer) chunks).map ResponseBuffer.bytes =
      some (buffer.bytes ++ chunks.flatMap Chunk.bytes) := by
  induction chunks generalizing buffer with
  | nil => simp [bufferAfter]
  | cons chunk rest ih =>
      have hchunk : chunk.first = false := h chunk (by simp)
      have hrest := ih (extended (some buffer) chunk) fun c hc => h c (by simp [hc])
      rw [bufferAfter, List.foldl_cons, ← bufferAfter, hrest]
      simp [extended, hchunk]

end Reassembly

/-- One response of a sender in one or more chunks: only the first is marked as
the first, and only the last leaves nothing to come. -/
structure Fragments (sender : UInt32) (pid : UInt16) (payload : List UInt8)
    (chunks : List Chunk) : Prop where
  sender_eq : ∀ chunk ∈ chunks, chunk.sender = sender
  pid_eq : ∀ chunk ∈ chunks, chunk.pid = pid
  bytes_eq : chunks.flatMap Chunk.bytes = payload
  first_iff : ∀ i (h : i < chunks.length), chunks[i].first = true ↔ i = 0
  remaining_iff : ∀ i (h : i < chunks.length), chunks[i].remaining = 0 ↔ i + 1 = chunks.length

namespace Fragments

variable {sender : UInt32} {pid : UInt16} {payload : List UInt8} {earlier : List Chunk}
  {last : Chunk}

/-- The chunks before the last one leave bytes to come. -/
lemma remaining_ne_zero (h : Fragments sender pid payload (earlier ++ [last])) :
    ∀ chunk ∈ earlier, chunk.remaining ≠ 0 := by
  intro chunk hmem hzero
  obtain ⟨i, hi, rfl⟩ := List.getElem_of_mem hmem
  have hlen : i < (earlier ++ [last]).length := by simp; omega
  have hiff := h.remaining_iff i hlen
  rw [List.getElem_append_left hi] at hiff
  have := hiff.mp hzero
  simp at this
  omega

/-- The last chunk leaves nothing to come. -/
lemma remaining_last (h : Fragments sender pid payload (earlier ++ [last])) :
    last.remaining = 0 := by
  have hiff := h.remaining_iff earlier.length (by simp)
  simpa using hiff

/-- The last chunk makes the whole response of what the chunks before it have
left, whatever the buffer held before the first one. -/
lemma bytes_extended (h : Fragments sender pid payload (earlier ++ [last]))
    (old : Option ResponseBuffer) :
    (Reassembly.extended (Reassembly.bufferAfter old earlier) last).bytes = payload := by
  have hfirst := h.first_iff
  have hbytes := h.bytes_eq
  cases earlier with
  | nil =>
      have hlast : last.first = true := by simpa using hfirst 0 (by simp)
      simpa [Reassembly.bufferAfter, Reassembly.extended, hlast] using hbytes
  | cons head rest =>
      have hhead : head.first = true := by simpa using hfirst 0 (by simp)
      have hlater : ∀ chunk ∈ rest ++ [last], chunk.first = false := by
        intro chunk hmem
        obtain ⟨i, hi, rfl⟩ := List.getElem_of_mem hmem
        have hiff := hfirst (i + 1) (by simpa using hi)
        simpa using hiff
      have hlast : last.first = false := hlater last (by simp)
      have hrest := Reassembly.bytes_bufferAfter (Reassembly.extended old head) rest
        fun c hc => hlater c (by simp [hc])
      obtain ⟨buffer, hbuffer, hkept⟩ := Option.map_eq_some_iff.mp hrest
      rw [Reassembly.bufferAfter, List.foldl_cons, ← Reassembly.bufferAfter, hbuffer]
      simp only [Reassembly.extended, hlast, hhead, if_true, Bool.false_eq_true, if_false,
        Option.getD_some] at hkept ⊢
      rw [hkept, ← hbytes]
      simp

end Fragments

end VehicleTelemetry
