import Mathlib.Data.Nat.Find
import Mathlib.Tactic
import VehicleTelemetry.Proofs.Poll.Reassembly

/-!
The chunks of a sender that belong together, in a history of chunks and clearings.

* `ReassemblyEvent`: what can happen to a reassembly;
* `IsStart`, `exchange`: the positions at which a sender's response starts over, and the
  sender's chunks from the latest of them on. `exchange_concat` and `exchange_after` say what one
  event more makes of them;
* `Announces`: an exchange whose chunks count down to the length that its first one announces,
  and so have as many bytes as that (`Announces.length_eq`);
* `Continued`: only the first chunk may start a response over. Such chunks leave a buffer with
  all of their bytes (`bufferAfter_continued`).
-/

namespace VehicleTelemetry

/-- What can happen to a reassembly. -/
inductive ReassemblyEvent where
  | chunk (part : Chunk)
  | clear
  deriving DecidableEq

namespace ReassemblyEvent

/-- The chunk of a sender that an event brings. -/
def chunkOf? (sender : UInt32) : ReassemblyEvent → Option Chunk
  | chunk part => if part.sender = sender then some part else none
  | clear => none

/-- A sender's first chunk, with which its response starts over. -/
def begins (sender : UInt32) : ReassemblyEvent → Bool
  | chunk part => part.sender = sender && part.first
  | clear => false

/-- Nothing of a sender's response is left afterwards: it is complete, or dropped. -/
def ends (sender : UInt32) : ReassemblyEvent → Bool
  | chunk part => part.sender = sender && part.remaining = 0
  | clear => true

end ReassemblyEvent

open ReassemblyEvent

/-! ### Exchanges -/

/-- A sender's response starts over at a position: at the start, after a completion or a
clearing, or with a first chunk. -/
def IsStart (sender : UInt32) (events : List ReassemblyEvent) (i : Nat) : Prop :=
  i = 0 ∨ events[i - 1]?.any (ends sender) = true ∨ events[i]?.any (begins sender) = true

instance (sender : UInt32) (events : List ReassemblyEvent) :
    DecidablePred (IsStart sender events) :=
  fun _ => inferInstanceAs (Decidable (_ ∨ _ ∨ _))

/-- A sender's chunks from the latest start on that is not after position `n`. -/
def exchange (sender : UInt32) (events : List ReassemblyEvent) (n : Nat) : List Chunk :=
  (events.drop (Nat.findGreatest (IsStart sender events) n)).filterMap (chunkOf? sender)

section Exchange

variable {sender : UInt32} {events : List ReassemblyEvent} {event : ReassemblyEvent}

lemma isStart_concat_of_lt {i : Nat} (h : i < events.length) :
    IsStart sender (events ++ [event]) i ↔ IsStart sender events i := by
  rw [IsStart, IsStart, List.getElem?_append_left h, List.getElem?_append_left (by omega)]

lemma isStart_concat_length :
    IsStart sender (events ++ [event]) events.length ↔
      IsStart sender events events.length ∨ event.begins sender = true := by
  rcases Nat.eq_zero_or_pos events.length with hzero | hpos
  · simp [IsStart, hzero]
  · rw [IsStart, IsStart, List.getElem?_append_left (by omega)]
    simp [or_assoc]

lemma isStart_concat_succ :
    IsStart sender (events ++ [event]) (events.length + 1) ↔ event.ends sender = true := by
  simp [IsStart]

lemma findGreatest_congr {P Q : Nat → Prop} [DecidablePred P] [DecidablePred Q] {n : Nat}
    (h : ∀ i ≤ n, P i ↔ Q i) : Nat.findGreatest P n = Nat.findGreatest Q n := by
  induction n with
  | zero => rfl
  | succ n ih =>
      rw [Nat.findGreatest_succ, Nat.findGreatest_succ, ih fun i hi => h i (by omega)]
      simp only [h (n + 1) le_rfl]

/-- With one event more a sender's response starts over, or goes on. -/
lemma exchange_concat :
    exchange sender (events ++ [event]) events.length =
      if event.begins sender then (event.chunkOf? sender).toList
      else exchange sender events events.length ++ (event.chunkOf? sender).toList := by
  split
  · next hbegins =>
    rw [exchange, Nat.findGreatest_eq (isStart_concat_length.mpr (.inr hbegins)),
      List.drop_left]
    cases hchunk : event.chunkOf? sender <;> simp [hchunk]
  · next hbegins =>
    have hstart : Nat.findGreatest (IsStart sender (events ++ [event])) events.length =
        Nat.findGreatest (IsStart sender events) events.length := by
      refine findGreatest_congr fun i hi => ?_
      rcases hi.lt_or_eq with hlt | rfl
      · exact isStart_concat_of_lt hlt
      · rw [isStart_concat_length, or_iff_left hbegins]
    rw [exchange, hstart, List.drop_append_of_le_length (Nat.findGreatest_le _),
      List.filterMap_append]
    cases hchunk : event.chunkOf? sender <;> simp [exchange, hchunk]

/-- After an event that ends a sender's response nothing of it counts any more. -/
lemma exchange_after :
    exchange sender (events ++ [event]) (events ++ [event]).length =
      if event.ends sender then [] else exchange sender (events ++ [event]) events.length := by
  rw [List.length_append, List.length_singleton, exchange, Nat.findGreatest_succ]
  simp only [isStart_concat_succ]
  split
  · next hends => rw [List.drop_eq_nil_of_le (by simp), List.filterMap_nil]
  · rfl

end Exchange

/-! ### What the chunks of an exchange leave -/

/-- A sender's chunks count down to the length that the first of them announces. A chunk that is
not the first of its response has none before it to go by when an exchange starts with it: then
nothing has been announced. -/
structure Announces (length : Nat) (chunks : List Chunk) : Prop where
  first : ∃ head, chunks.head? = some head ∧ head.first = true ∧
    head.bytes.length + head.remaining.toNat = length
  counts_down : chunks.IsChain fun c d => d.remaining.toNat + d.bytes.length = c.remaining.toNat

/-- Only the first of some chunks starts a response over. -/
def Continued (chunks : List Chunk) : Prop :=
  ∀ part ∈ chunks.tail, part.first = false

section Continued

variable {chunks : List Chunk} {part : Chunk} {length : Nat}

lemma Continued.concat (h : Continued chunks) (hpart : part.first = false) :
    Continued (chunks ++ [part]) := by
  cases chunks with
  | nil => simp [Continued]
  | cons head rest =>
      intro c hc
      rw [List.cons_append, List.tail_cons, List.mem_append, List.mem_singleton] at hc
      rcases hc with hc | rfl
      · exact h c hc
      · exact hpart

/-- The chunks that count down have as many bytes as have been announced, less those that are
still to come. -/
lemma length_of_isChain (head : Chunk) (rest : List Chunk)
    (h : (head :: rest).IsChain fun c d => d.remaining.toNat + d.bytes.length = c.remaining.toNat)
    (hlast : (head :: rest).getLast? = some part) :
    ((head :: rest).flatMap Chunk.bytes).length + part.remaining.toNat =
      head.bytes.length + head.remaining.toNat := by
  induction rest generalizing head with
  | nil =>
      obtain rfl : head = part := by simpa using hlast
      simp
  | cons next rest ih =>
      rw [List.isChain_cons_cons] at h
      have hrest := ih next h.2 (by simpa using hlast)
      rw [List.flatMap_cons, List.length_append]
      omega

lemma Announces.length_eq (h : Announces length chunks) (hlast : chunks.getLast? = some part) :
    (chunks.flatMap Chunk.bytes).length + part.remaining.toNat = length := by
  obtain ⟨head, hhead, -, hlength⟩ := h.first
  obtain ⟨rest, rfl⟩ := List.head?_eq_some_iff.mp hhead
  rw [length_of_isChain head rest h.counts_down hlast, hlength]

end Continued

namespace Reassembly

variable {sender : UInt32} {events : List ReassemblyEvent} {part : Chunk} {chunks : List Chunk}

lemma extended_of_first (old : Option ResponseBuffer) (h : part.first = true) :
    extended old part = extended none part := by
  rw [extended, if_pos h, extended, if_pos h]

lemma bufferAfter_concat (old : Option ResponseBuffer) :
    bufferAfter old (chunks ++ [part]) = some (extended (bufferAfter old chunks) part) := by
  rw [bufferAfter, List.foldl_append]
  rfl

/-- The chunks after the first one are appended, and leave alone what it has announced. -/
lemma bufferAfter_continued (h : Continued (part :: chunks)) :
    bufferAfter none (part :: chunks) =
      some { bytes := (part :: chunks).flatMap Chunk.bytes,
             expected := (extended none part).expected } := by
  induction chunks using List.reverseRecOn with
  | nil =>
      have hsingle : bufferAfter none [part] = some (extended none part) := rfl
      rw [hsingle, List.flatMap_singleton, extended]
      split <;> rfl
  | append_singleton chunks last ih =>
      have hlast : last.first = false := h last (by simp)
      have hbefore : Continued (part :: chunks) := fun c hc => h c (by
        rw [List.tail_cons] at hc ⊢
        exact List.mem_append_left _ hc)
      rw [← List.cons_append, bufferAfter_concat, ih hbefore, extended, hlast]
      simp

end Reassembly

end VehicleTelemetry
