import Mathlib.Tactic
import VehicleTelemetry.Proofs.Vehicle.Requests
import VehicleTelemetry.Proofs.Vehicle.Run

/-!
Fragmentation is invisible: a response that arrives in several chunks, with
anything else in between, has the effect of the same response in one chunk.

* `step_withReassembly`: whatever is no chunk neither reads nor changes the
  half received responses;
* `SameApart`: two vehicles that differ at most in one sender's buffer;
  `SameApart.step` and `SameApart.step_part` keep it, the second one while
  only the left vehicle takes in a part of that sender's response;
* `run_fragments`: the simulation over whole runs.
-/

namespace VehicleTelemetry

variable {ρ : Type}

/-- The chunk that a step delivers, if it is one of a sender. -/
def Step.chunkOf? (sender : UInt32) (s : Step ρ) : Option Chunk :=
  match s.operation with
  | .chunk chunk => if chunk.sender = sender then some chunk else none
  | _ => none

lemma Step.chunkOf?_eq_some {sender : UInt32} {s : Step ρ} {chunk : Chunk}
    (h : s.chunkOf? sender = some chunk) :
    s.operation = .chunk chunk ∧ chunk.sender = sender := by
  rw [chunkOf?] at h
  split at h
  · next c hc =>
    split at h
    · next hs =>
      obtain rfl := Option.some.inj h
      exact ⟨hc, hs⟩
    · cases h
  · cases h

/-- A sender's chunks among some steps, in order. -/
def chunksOf (sender : UInt32) (steps : List (Step ρ)) : List Chunk :=
  steps.filterMap (Step.chunkOf? sender)

/-- Some steps without a sender's chunks. -/
def without (sender : UInt32) (steps : List (Step ρ)) : List (Step ρ) :=
  steps.filter fun s => (s.chunkOf? sender).isNone

namespace Vehicle

/-- A vehicle with other half received responses. -/
def withReassembly (v : Vehicle ρ) (r : Reassembly) : Vehicle ρ :=
  { v with reassembly := r }

/-- Two vehicles that are the same but for one sender's buffer. -/
structure SameApart (sender : UInt32) (a b : Vehicle ρ) : Prop where
  rest_eq : a = b.withReassembly a.reassembly
  buffer?_eq : ∀ other, other ≠ sender →
    a.reassembly.buffer? other = b.reassembly.buffer? other

/-! ### Two vehicles that differ in one buffer -/

namespace SameApart

variable {sender : UInt32} {a b : Vehicle ρ}

lemma refl (a : Vehicle ρ) : SameApart sender a a :=
  ⟨rfl, fun _ _ => rfl⟩

/-- Another sender's chunk does the same to both vehicles, since it meets the
same buffer. -/
lemma receiveChunk (h : SameApart sender a b) (now : Nat) {chunk : Chunk}
    (hchunk : chunk.sender ≠ sender) :
    SameApart sender (a.receiveChunk now chunk).value.1 (b.receiveChunk now chunk).value.1 ∧
      (a.receiveChunk now chunk).value.2 = (b.receiveChunk now chunk).value.2 ∧
      (a.receiveChunk now chunk).value.1.reassembly.buffer? sender =
        a.reassembly.buffer? sender := by
  have hpayload : (a.reassembly.receive chunk).value.2 = (b.reassembly.receive chunk).value.2 := by
    rw [Reassembly.payload_receive, Reassembly.payload_receive, h.buffer?_eq _ hchunk]
  have hbuffers : ∀ other, other ≠ sender →
      (a.reassembly.receive chunk).value.1.buffer? other =
        (b.reassembly.receive chunk).value.1.buffer? other := by
    intro other hother
    rw [Reassembly.buffer?_receive, Reassembly.buffer?_receive, h.buffer?_eq _ hchunk,
      h.buffer?_eq _ hother]
  have hown : (a.reassembly.receive chunk).value.1.buffer? sender =
      a.reassembly.buffer? sender := by
    rw [Reassembly.buffer?_receive, if_neg (Ne.symm hchunk)]
  have hrecorder : a.recorder = b.recorder := by rw [h.rest_eq]; rfl
  have hrest := h.rest_eq
  cases hright : (b.reassembly.receive chunk).value.2 with
  | none =>
      rw [value_receiveChunk_of_none now (hpayload.trans hright),
        value_receiveChunk_of_none now hright]
      refine ⟨⟨?_, hbuffers⟩, rfl, hown⟩
      rw [hrest]
      rfl
  | some payload =>
      rw [value_receiveChunk_of_some now (hpayload.trans hright),
        value_receiveChunk_of_some now hright, hrecorder]
      refine ⟨⟨?_, hbuffers⟩, rfl, hown⟩
      rw [hrest]
      rfl

/-- The sender's last chunk finds on the left what the parts have left, and the
whole response in one chunk on the right has the same effect. -/
lemma receive_last (h : SameApart sender a b) (now : Nat) {last : Chunk}
    (hsender : last.sender = sender) (hlast : last.remaining = 0) {payload : List UInt8}
    (hpayload :
      (Reassembly.extended (a.reassembly.buffer? sender) last).bytes = payload) :
    (a.receiveChunk now last).value =
      (b.receiveChunk now
        { sender, pid := last.pid, first := true, bytes := payload, remaining := 0 }).value := by
  subst hsender
  have hleft : (a.reassembly.receive last).value.2 = some payload := by
    rw [Reassembly.payload_receive, if_pos hlast, hpayload]
  have hright : (b.reassembly.receive
      { sender := last.sender, pid := last.pid, first := true, bytes := payload,
        remaining := 0 }).value.2 = some payload := by
    rw [Reassembly.payload_receive, if_pos rfl]
    rfl
  -- the buffer of the sender is all that was different, and the last chunk takes it away
  have hbuffers : (a.reassembly.receive last).value.1 = (b.reassembly.receive
      { sender := last.sender, pid := last.pid, first := true, bytes := payload,
        remaining := 0 }).value.1 := by
    refine Reassembly.ext_buffer? fun other => ?_
    rw [Reassembly.buffer?_receive, Reassembly.buffer?_receive, if_pos hlast, if_pos rfl]
    split
    · rfl
    · next hother => exact h.buffer?_eq other hother
  have hrest := h.rest_eq
  have hrecorder : a.recorder = b.recorder := by rw [hrest]; rfl
  rw [value_receiveChunk_of_some now hleft, value_receiveChunk_of_some now hright]
  simp only [hbuffers, hrecorder]
  rw [hrest]
  rfl

end SameApart

variable [Responder ρ]

/-! ### Only chunks touch the reassembly -/

lemma requestVin_withReassembly (v : Vehicle ρ) (r : Reassembly) (now : Nat) :
    ((v.withReassembly r).requestVin now).value = (v.requestVin now).value.withReassembly r := by
  rw [value_requestVin, value_requestVin]
  rfl

lemma requestChargeMode_withReassembly (v : Vehicle ρ) (r : Reassembly) (now : Nat) :
    ((v.withReassembly r).requestChargeMode now).value =
      (v.requestChargeMode now).value.withReassembly r := by
  rw [value_requestChargeMode, value_requestChargeMode]
  rfl

lemma requestChargeType_withReassembly (v : Vehicle ρ) (r : Reassembly) (now : Nat) :
    ((v.withReassembly r).requestChargeType now).value =
      (v.requestChargeType now).value.withReassembly r := by
  rw [value_requestChargeType, value_requestChargeType]
  rfl

lemma perform_withReassembly (v : Vehicle ρ) (r : Reassembly) (now : Nat)
    (action : SessionAction) :
    ((v.withReassembly r).perform now action).value =
      (v.perform now action).value.withReassembly r := by
  cases action with
  | resetBus => rfl
  | transition source target => rfl
  | setChargeState state => rfl
  | markTripStart => rfl
  | requestChargeMode => exact v.requestChargeMode_withReassembly r now
  | requestChargeType => exact v.requestChargeType_withReassembly r now

lemma performAll_withReassembly (v : Vehicle ρ) (r : Reassembly) (now : Nat)
    (actions : List SessionAction) :
    (v.withReassembly r).performAll now actions =
      (v.performAll now actions).withReassembly r := by
  induction actions generalizing v with
  | nil => rfl
  | cons action rest ih =>
      rw [performAll, List.foldl_cons, perform_withReassembly, ← performAll, ih]
      rfl

lemma tick_withReassembly (v : Vehicle ρ) (r : Reassembly) (now : Nat) :
    ((v.withReassembly r).tick now).value = (v.tick now).value.withReassembly r := by
  rw [value_tick, value_tick, ← performAll_withReassembly]
  rfl

lemma slowTick_withReassembly (v : Vehicle ρ) (r : Reassembly) (now : Nat) :
    ((v.withReassembly r).slowTick now).value = (v.slowTick now).value.withReassembly r := by
  have hdue : ((v.withReassembly r).recorder.vin.isEmpty && (v.withReassembly r).state == .ready) =
      (v.recorder.vin.isEmpty && v.state == .ready) := rfl
  rw [value_slowTick, value_slowTick, hdue]
  split
  · exact v.requestVin_withReassembly r now
  · rfl

/-- A step that delivers no chunk does the same whatever responses are half
received, and leaves them as they are. -/
lemma step_withReassembly (v : Vehicle ρ) (r : Reassembly) {s : Step ρ}
    (hs : ∀ chunk, s.operation ≠ .chunk chunk) :
    (v.withReassembly r).step s = ((v.step s).1.withReassembly r, (v.step s).2) := by
  obtain ⟨now, operation⟩ := s
  cases operation with
  | chunk chunk => exact absurd rfl (hs chunk)
  | tick => exact Prod.ext (v.tick_withReassembly r now) rfl
  | slowTick => exact Prod.ext (v.slowTick_withReassembly r now) rfl
  | requestVin => exact Prod.ext (v.requestVin_withReassembly r now) rfl
  | requestChargeMode => exact Prod.ext (v.requestChargeMode_withReassembly r now) rfl
  | requestChargeType => exact Prod.ext (v.requestChargeType_withReassembly r now) rfl
  | frame => rfl
  | setMetric name value => rfl
  | markMetric name stale => rfl
  | setLifetime name seconds => rfl
  | changePoller change => rfl

/-! ### The simulation -/

namespace SameApart

variable {sender : UInt32} {a b : Vehicle ρ}

/-- Whatever is not one of the sender's chunks does the same to both vehicles. -/
lemma step (h : SameApart sender a b) {s : Step ρ} (hs : s.chunkOf? sender = none) :
    SameApart sender (a.step s).1 (b.step s).1 ∧ (a.step s).2 = (b.step s).2 ∧
      (a.step s).1.reassembly.buffer? sender = a.reassembly.buffer? sender := by
  by_cases hchunk : ∃ chunk, s.operation = .chunk chunk
  · obtain ⟨chunk, hop⟩ := hchunk
    have hsender : chunk.sender ≠ sender := by
      intro heq
      simp [Step.chunkOf?, hop, heq] at hs
    have hstep := h.receiveChunk s.time hsender
    simpa only [Vehicle.step, hop] using hstep
  · have hother : ∀ chunk, s.operation ≠ .chunk chunk := fun chunk hop => hchunk ⟨chunk, hop⟩
    have ha : a.step s = ((b.step s).1.withReassembly a.reassembly, (b.step s).2) := by
      conv_lhs => rw [h.rest_eq]
      exact b.step_withReassembly a.reassembly hother
    have hb : b.step s = ((b.step s).1.withReassembly b.reassembly, (b.step s).2) :=
      b.step_withReassembly b.reassembly hother
    have hkept : (b.step s).1.reassembly = b.reassembly := by rw [hb]; rfl
    rw [ha]
    refine ⟨⟨rfl, fun other hne => ?_⟩, rfl, rfl⟩
    rw [hkept]
    exact h.buffer?_eq other hne

/-- A part of the sender's response that leaves bytes to come is only taken into
its buffer. -/
lemma step_part (h : SameApart sender a b) {s : Step ρ} {chunk : Chunk}
    (hs : s.chunkOf? sender = some chunk) (hmore : chunk.remaining ≠ 0) :
    SameApart sender (a.step s).1 b ∧ (a.step s).2 = none ∧
      (a.step s).1.reassembly.buffer? sender =
        some (Reassembly.extended (a.reassembly.buffer? sender) chunk) := by
  obtain ⟨hop, rfl⟩ := Step.chunkOf?_eq_some hs
  have hpayload : (a.reassembly.receive chunk).value.2 = none := by
    rw [Reassembly.payload_receive, if_neg hmore]
  have hstep : a.step s = (a.withReassembly (a.reassembly.receive chunk).value.1, none) := by
    simp only [Vehicle.step, hop]
    exact value_receiveChunk_of_none s.time hpayload
  rw [hstep]
  refine ⟨⟨?_, fun other hother => ?_⟩, rfl, ?_⟩
  · rw [h.rest_eq]
    rfl
  · rw [← h.buffer?_eq other hother]
    exact (Reassembly.buffer?_receive _ _ _).trans (if_neg hother)
  · refine (Reassembly.buffer?_receive _ _ _).trans ?_
    rw [if_pos rfl, if_neg hmore]

/-- The simulation: one vehicle takes in parts of the sender's response, the
other does not, and all else happens to both. -/
lemma run (h : SameApart sender a b) (steps : List (Step ρ))
    (hparts : ∀ chunk ∈ chunksOf sender steps, chunk.remaining ≠ 0) :
    SameApart sender (a.run steps) (b.run (without sender steps)) ∧
      (a.run steps).reassembly.buffer? sender =
        Reassembly.bufferAfter (a.reassembly.buffer? sender) (chunksOf sender steps) := by
  -- on the way the runs differ by the buffer of `sender`, which its own chunks extend
  induction steps generalizing a b with
  | nil => exact ⟨h, rfl⟩
  | cons s rest ih =>
      cases hs : s.chunkOf? sender with
      | none =>
          have hchunks : chunksOf sender (s :: rest) = chunksOf sender rest := by
            rw [chunksOf, List.filterMap_cons, hs]; rfl
          have hwithout : without sender (s :: rest) = s :: without sender rest := by
            simp [without, hs]
          obtain ⟨hsame, -, hbuffer⟩ := h.step hs
          rw [hchunks] at hparts ⊢
          rw [hwithout, run_cons, run_cons, ← hbuffer]
          exact ih hsame hparts
      | some chunk =>
          have hchunks : chunksOf sender (s :: rest) = chunk :: chunksOf sender rest := by
            rw [chunksOf, List.filterMap_cons, hs]; rfl
          have hwithout : without sender (s :: rest) = without sender rest := by
            simp [without, hs]
          rw [hchunks] at hparts ⊢
          obtain ⟨hsame, -, hbuffer⟩ := h.step_part hs (hparts chunk (by simp))
          have hrest := ih hsame fun c hc => hparts c (by simp [hc])
          rw [hbuffer] at hrest
          rw [hwithout, run_cons]
          exact hrest

end SameApart

/-! ### Whole runs -/

/-- **Fragmentation is invisible.** When a response arrives in chunks, with
anything but chunks of its own sender in between, every chunk but the last gives
no outcome, and the last one gives the outcome and leaves the vehicle that the
whole response in one chunk would have, had the others not been sent. -/
theorem run_fragments (v : Vehicle ρ) {sender : UInt32} {pid : UInt16} {payload : List UInt8}
    (steps : List (Step ρ)) (last : Chunk) (now : Nat)
    (h : Fragments sender pid payload (chunksOf sender steps ++ [last])) :
    (∀ before s after, steps = before ++ s :: after → (s.chunkOf? sender).isSome →
      ((v.run before).step s).2 = none) ∧
    (v.run steps).step ⟨now, .chunk last⟩ =
      (v.run (without sender steps)).step
        ⟨now, .chunk { sender, pid, first := true, bytes := payload, remaining := 0 }⟩ := by
  have hparts := h.remaining_ne_zero
  constructor
  · rintro before s after rfl hs
    obtain ⟨chunk, hchunk⟩ := Option.isSome_iff_exists.mp hs
    have hmem : chunk ∈ chunksOf sender (before ++ s :: after) :=
      List.mem_filterMap.mpr ⟨s, by simp, hchunk⟩
    exact ((SameApart.refl (v.run before)).step_part hchunk (hparts chunk hmem)).2.1
  · obtain ⟨hsame, hbuffer⟩ := (SameApart.refl v).run steps hparts
    have hbytes := h.bytes_extended (v.reassembly.buffer? sender)
    rw [← hbuffer] at hbytes
    have hlast := hsame.receive_last now (h.sender_eq last (by simp)) h.remaining_last hbytes
    rw [h.pid_eq last (by simp)] at hlast
    exact hlast

/-- A pack reading in three chunks, among a tick, a frame and half a response of
another unit, to a vehicle that still holds half of an older reading. -/
theorem run_fragments_pack_reading :
    let sender := Ecu.hybridControl.responseId
    let pid := Pid.batteryVoltageAndCurrent.number
    let part (first : Bool) (bytes : List UInt8) (remaining : UInt16) : Chunk :=
      { sender, pid, first, bytes, remaining }
    let other : Chunk := { part true [2, 0] 1 with sender := Ecu.plugInControl.responseId }
    let steps : List (Step Script) := [⟨1000, .chunk (part true [0, 0, 0x64] 3)⟩, ⟨1000, .tick⟩,
      ⟨1500, .chunk other⟩, ⟨900, .chunk (part false [0x00] 9)⟩, ⟨1700, .frame⟩]
    let v := bench.run [⟨0, .chunk (part true [0x55] 5)⟩]
    let payload : List UInt8 := [0, 0, 0x64, 0x00, 0xFF, 0x83]
    Fragments sender pid payload (chunksOf sender steps ++ [part false [0xFF, 0x83] 0]) ∧
      (v.run steps).step ⟨2000, .chunk (part false [0xFF, 0x83] 0)⟩ =
        (v.run (without sender steps)).step ⟨2000, .chunk (part true payload 0)⟩ ∧
      ((v.run steps).step ⟨2000, .chunk (part false [0xFF, 0x83] 0)⟩).2 = some .applied := by
  intro sender pid part other steps v payload
  have h : Fragments sender pid payload (chunksOf sender steps ++ [part false [0xFF, 0x83] 0]) :=
    ⟨by decide, by decide, by decide, by decide, by decide⟩
  exact ⟨h, (v.run_fragments steps _ 2000 h).2, by decide +kernel⟩

end Vehicle

end VehicleTelemetry
