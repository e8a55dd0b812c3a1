import Std.Data.ExtTreeMap
import VehicleTelemetry.Log.Logged

/-!
Putting responses together from their chunks.

A response arrives as a series of chunks, each of which says how many bytes of the response are
still to come. Every sender has a buffer of its own, so that the responses of two senders cannot
get mixed. A first chunk drops whatever its sender's buffer holds; any other chunk is appended as
it comes, to an empty buffer if need be. A chunk after which nothing is to come completes the
response and removes the buffer.
-/

namespace VehicleTelemetry

/-- A part of a response. -/
structure Chunk where
  sender : UInt32
  pid : UInt16
  /-- Whether the response begins with it. -/
  first : Bool
  bytes : List UInt8
  /-- How many bytes are to come after it. -/
  remaining : UInt16
  deriving DecidableEq, Repr

/-- A response that is being received. -/
structure ResponseBuffer where
  bytes : List UInt8 := []
  /-- The length that the first chunk announced. -/
  expected : Nat := 0
  deriving DecidableEq, Repr

/-- The buffers of all senders. -/
structure Reassembly where
  buffers : Std.ExtTreeMap UInt32 ResponseBuffer

namespace Reassembly

/-- No response is being received. -/
def empty : Reassembly := ⟨∅⟩

/-- The buffer of a sender, if it has one. -/
def buffer? (r : Reassembly) (sender : UInt32) : Option ResponseBuffer :=
  r.buffers[sender]?

/-- How many responses are being received. -/
def inFlight (r : Reassembly) : Nat :=
  r.buffers.size

/-- A sender's buffer after one more chunk. -/
def extended (old : Option ResponseBuffer) (chunk : Chunk) : ResponseBuffer :=
  if chunk.first then
    { bytes := chunk.bytes, expected := chunk.bytes.length + chunk.remaining.toNat }
  else
    let buffer := old.getD {}
    { buffer with bytes := buffer.bytes ++ chunk.bytes }

/-- What is worth reporting before a chunk is taken in. -/
def notice (old : Option ResponseBuffer) (chunk : Chunk) : Logged Unit :=
  match chunk.first, old with
  | true, some buffer =>
    if buffer.bytes.isEmpty then pure ()
    else Logged.report (.responseDiscarded buffer.bytes.length buffer.expected chunk.sender)
  | false, none => Logged.report (.orphanChunk chunk.sender)
  | _, _ => pure ()

/-- Takes in a chunk. Gives the whole response once it is complete. -/
def receive (r : Reassembly) (chunk : Chunk) : Logged (Reassembly × Option (List UInt8)) := do
  let old := r.buffer? chunk.sender
  notice old chunk
  let buffer := extended old chunk
  if chunk.remaining = 0 then
    return (⟨r.buffers.erase chunk.sender⟩, some buffer.bytes)
  else
    Logged.report (.chunkReceived chunk.sender chunk.remaining.toNat)
    return (⟨r.buffers.insert chunk.sender buffer⟩, none)

/-- Drops what there is of every response. -/
def clear (_ : Reassembly) : Reassembly := empty

end Reassembly

end VehicleTelemetry
