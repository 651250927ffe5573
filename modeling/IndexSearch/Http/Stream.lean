import IndexSearch.Fault

/-!
# Byte streams

The two directions of a client's stream: what is going to arrive, in the pieces in which it
arrives, and what has been written, with the limits under which writing succeeds.
-/

namespace IndexSearch

/-- One thing that a read meets: some bytes, none for the end of the stream, or a failure. -/
inductive Arrival where
  | bytes (content : Bytes)
  | failure (fault : StreamFault)
deriving DecidableEq, Repr

/-- A client's stream. A write takes at most `writeChunk` bytes and all writes together at most
`writeLimit`; a write that can take none fails with `writeFault` or makes no progress. -/
structure Stream where
  incoming : List Arrival
  written : Bytes := []
  writeChunk : Option Nat := none
  writeLimit : Option Nat := none
  writeFault : Option StreamFault := none
deriving DecidableEq, Repr

namespace Arrival

def content : Arrival → Bytes
  | .bytes content => content
  | .failure _ => []

end Arrival

namespace Stream

def unread (stream : Stream) : Bytes :=
  stream.incoming.flatMap Arrival.content

/-- Reads at most `size` bytes of the piece that comes next; the rest of it stays. An empty result
is the end of the stream, after which a later read may still find more. -/
def read (stream : Stream) (size : Nat) : Except StreamFault Bytes × Stream :=
  match stream.incoming with
  | [] => (.ok [], stream)
  | .failure fault :: rest => (.error fault, { stream with incoming := rest })
  | .bytes content :: rest =>
    if content.length ≤ size then (.ok content, { stream with incoming := rest })
    else (.ok (content.take size), { stream with incoming := .bytes (content.drop size) :: rest })

/-- Reading takes bytes from the front of what is unread. -/
theorem read_unread {stream : Stream} {size : Nat} {content : Bytes} {after : Stream}
    (h : stream.read size = (.ok content, after)) : stream.unread = content ++ after.unread := by
  unfold read at h
  split at h
  · simp only [Prod.mk.injEq, Except.ok.injEq] at h
    obtain ⟨rfl, rfl⟩ := h
    simp
  · simp at h
  · rename_i held rest hin
    split at h <;>
      · simp only [Prod.mk.injEq, Except.ok.injEq] at h
        obtain ⟨rfl, rfl⟩ := h
        simp [unread, hin, Arrival.content, ← List.append_assoc]

def room (stream : Stream) (size : Nat) : Nat :=
  min size (min (stream.writeChunk.getD size)
    ((stream.writeLimit.map (· - stream.written.length)).getD size))

def write (stream : Stream) (data : Bytes) : Except StreamFault Nat × Stream :=
  let count := stream.room data.length
  if count = 0 then
    match stream.writeFault with
    | some fault => (.error fault, stream)
    | none => (.ok 0, stream)
  else (.ok count, { stream with written := stream.written ++ data.take count })

/-- Writes all of the data, unless a write fails or makes no progress. -/
def writeAll (stream : Stream) (data : Bytes) : Except StreamFault Unit × Stream :=
  if data = [] then (.ok (), stream)
  else
    match stream.write data with
    | (.error fault, stream) => (.error fault, stream)
    | (.ok count, stream) =>
      if count = 0 then (.error .noProgress, stream) else stream.writeAll (data.drop count)
termination_by data.length
decreasing_by
  rename_i nonempty positive
  have := List.length_pos_iff.mpr nonempty
  simp only [List.length_drop]
  omega

theorem incoming_write (stream : Stream) (data : Bytes) :
    (stream.write data).2.incoming = stream.incoming := by
  simp only [write]
  split
  · split <;> rfl
  · rfl

theorem incoming_writeAll (stream : Stream) (data : Bytes) :
    (stream.writeAll data).2.incoming = stream.incoming := by
  fun_induction writeAll stream data with
  | case1 => rfl
  | case2 stream data _ _ _ h => simpa [h] using incoming_write stream data
  | case3 stream data _ _ h => simpa [h] using incoming_write stream data
  | case4 stream data _ _ _ h _ ih => rw [ih]; simpa [h] using incoming_write stream data

end Stream

end IndexSearch
