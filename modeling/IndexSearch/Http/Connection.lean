import IndexSearch.Http.Request
import IndexSearch.Http.Response
import IndexSearch.Http.Stream

/-!
# Connections

A connection cuts the bytes of a stream into request heads. Bytes that were read beyond the head
just cut stay in a buffer, untouched and in order, also when a later read fails.
-/

namespace IndexSearch

inductive ConnectionFault where
  | closed
  | io (fault : StreamFault)
deriving DecidableEq, Repr

def ConnectionFault.message : ConnectionFault → Text
  | .closed => "connection closed by peer".toList
  | .io fault => "connection i/o failed: ".toList ++ fault.message

def blankLine : Bytes :=
  [13, 10, 13, 10]

def firstBlankLine? : Bytes → Option Nat
  | [] => none
  | b :: rest =>
    if blankLine.isPrefixOf (b :: rest) then some 0 else (firstBlankLine? rest).map (· + 1)

/-- Cuts bytes after the first blank line that begins at or after an offset. -/
def cutHead? (bytes : Bytes) (scanned : Nat) : Option (Bytes × Bytes) :=
  (firstBlankLine? (bytes.drop scanned)).map fun offset =>
    bytes.splitAt (scanned + offset + blankLine.length)

/-- Cutting loses nothing, and a head is not empty. -/
theorem cutHead?_eq_some {bytes head rest : Bytes} {scanned : Nat}
    (h : cutHead? bytes scanned = some (head, rest)) : bytes = head ++ rest ∧ head ≠ [] := by
  obtain ⟨offset, hfirst, hcut⟩ := Option.map_eq_some_iff.mp h
  simp only [List.splitAt_eq, Prod.mk.injEq] at hcut
  obtain ⟨rfl, rfl⟩ := hcut
  refine ⟨(List.take_append_drop _ _).symm, ?_⟩
  rintro hnil
  have hbytes : bytes = [] := by simpa [blankLine] using hnil
  simp [hbytes, firstBlankLine?] at hfirst

/-- A client's stream with the bytes read from it but not yet consumed. -/
structure Connection where
  stream : Stream
  buffer : Bytes := []
deriving DecidableEq, Repr

namespace Connection

def readSize : Nat := 1024

/-- The bytes that no head has been cut from yet. -/
def rest (connection : Connection) : Bytes :=
  connection.buffer ++ connection.stream.unread

/-- Reads until the buffer holds a complete head and cuts it off, given an offset before which no
blank line begins. What a failed call has read stays in the buffer. -/
def nextHeadFrom (connection : Connection) (scanned : Nat) :
    Except ConnectionFault Bytes × Connection :=
  match cutHead? connection.buffer scanned with
  | some (head, buffer) => (.ok head, { connection with buffer })
  | none =>
    match _hread : connection.stream.read readSize with
    | (.error fault, stream) => (.error (.io fault), { connection with stream })
    | (.ok content, stream) =>
      if content = [] then (.error .closed, { connection with stream })
      else
        -- A blank line may lie across the old and the new bytes.
        nextHeadFrom ⟨stream, connection.buffer ++ content⟩
          (connection.buffer.length - (blankLine.length - 1))
termination_by connection.stream.unread.length
decreasing_by
  rename_i nonempty
  have := List.length_pos_iff.mpr nonempty
  have := congrArg List.length (Stream.read_unread _hread)
  simp only [List.length_append] at this
  omega

/-- The next request head. The stream is not touched when the buffer holds one already. -/
def nextHead (connection : Connection) : Except ConnectionFault Bytes × Connection :=
  connection.nextHeadFrom 0

/-- A head is cut from the front of what is left. -/
theorem rest_of_nextHeadFrom {connection after : Connection} {scanned : Nat} {head : Bytes}
    (h : connection.nextHeadFrom scanned = (.ok head, after)) :
    connection.rest = head ++ after.rest ∧ head ≠ [] := by
  fun_induction nextHeadFrom connection scanned with
  | case1 connection scanned found buffer hcut =>
    simp only [Prod.mk.injEq, Except.ok.injEq] at h
    obtain ⟨rfl, rfl⟩ := h
    have := cutHead?_eq_some hcut
    simp [rest, this.1, this.2]
  | case2 => simp at h
  | case3 => simp at h
  | case4 connection _ _ content stream hread _ ih =>
    have := ih h
    simp only [rest, List.append_assoc] at this ⊢
    rw [Stream.read_unread hread, this.1]
    exact ⟨rfl, this.2⟩

def nextRequest (connection : Connection) : Except ConnectionFault Request × Connection :=
  let (head, connection) := connection.nextHead
  (head.map fun head => Request.parse (Utf8.decodeLossy head), connection)

/-- Every request takes bytes from what is left. -/
theorem rest_length_of_nextRequest {connection after : Connection} {request : Request}
    (h : connection.nextRequest = (.ok request, after)) :
    after.rest.length < connection.rest.length := by
  unfold nextRequest at h
  cases hnext : connection.nextHead with
  | mk outcome next =>
    cases outcome with
    | error fault => simp [hnext, Except.map] at h
    | ok head =>
      simp only [hnext, Except.map, Prod.mk.injEq] at h
      obtain ⟨_, rfl⟩ := h
      obtain ⟨heq, hne⟩ := rest_of_nextHeadFrom hnext
      have := List.length_pos_iff.mpr hne
      have := congrArg List.length heq
      simp only [List.length_append] at this
      omega

def respond (connection : Connection) (response : Response) :
    Except ConnectionFault Unit × Connection :=
  let (outcome, stream) := connection.stream.writeAll response.render
  (outcome.mapError .io, { connection with stream })

theorem rest_respond (connection : Connection) (response : Response) :
    (connection.respond response).2.rest = connection.rest := by
  simp [respond, rest, Stream.unread, Stream.incoming_writeAll]

end Connection

end IndexSearch
