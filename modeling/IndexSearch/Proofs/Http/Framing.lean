import IndexSearch.Proofs.Http.Heads

/-!
# Framing

However a stream cuts its bytes into reads, and wherever reads come back empty or fail, a
connection yields the heads of the stream's bytes in order, and what it has read beyond the last
one is in its buffer.
-/

namespace IndexSearch

namespace Stream

/-- Reading took some bytes from the front of what was unread and left all else as it was. -/
structure Reads (before : Stream) (received : Bytes) (after : Stream) : Prop where
  unread : before.unread = received ++ after.unread
  outgoing : after = { before with incoming := after.incoming }

/-- The bytes that arrive before the first empty or failing read. -/
def delivered : List Arrival → Bytes
  | .bytes content :: rest => if content = [] then [] else content ++ delivered rest
  | _ => []

theorem Reads.refl (stream : Stream) : stream.Reads [] stream :=
  ⟨rfl, rfl⟩

theorem Reads.trans {first second third : Stream} {received more : Bytes}
    (h : first.Reads received second) (h' : second.Reads more third) :
    first.Reads (received ++ more) third := by
  refine ⟨by rw [h.unread, h'.unread, List.append_assoc], ?_⟩
  rw [h'.outgoing, h.outgoing]

theorem reads_of_read {stream after : Stream} {size : Nat} {content : Bytes}
    (h : stream.read size = (.ok content, after)) : stream.Reads content after := by
  refine ⟨read_unread h, ?_⟩
  unfold read at h
  split at h
  · cases h; rfl
  · cases h
  · split at h <;> cases h <;> rfl

theorem reads_of_failed_read {stream after : Stream} {size : Nat} {fault : StreamFault}
    (h : stream.read size = (.error fault, after)) : stream.Reads [] after := by
  unfold read at h
  split at h
  · cases h
  · rename_i fault rest hincoming
    cases h
    exact ⟨by simp [unread, hincoming, Arrival.content], rfl⟩
  · split at h <;> cases h

theorem delivered_of_read {stream after : Stream} {size : Nat} {content : Bytes}
    (h : stream.read size = (.ok content, after)) (positive : 0 < size) :
    delivered stream.incoming =
      if content = [] then [] else content ++ delivered after.incoming := by
  unfold read at h
  split at h
  · rename_i hincoming
    cases h
    simp [hincoming, delivered]
  · cases h
  · rename_i held rest hincoming
    split at h
    · cases h
      simp [hincoming, delivered]
    · rename_i hlong
      cases h
      have hheld : held ≠ [] := by rintro rfl; simp at hlong
      have htaken : held.take size ≠ [] := by simp [hheld, Nat.ne_of_gt positive]
      have hleft : held.drop size ≠ [] := by simpa using hlong
      simp only [hincoming, delivered, if_neg hheld, if_neg htaken, if_neg hleft]
      rw [← List.append_assoc, List.take_append_drop]

theorem delivered_of_failed_read {stream after : Stream} {size : Nat} {fault : StreamFault}
    (h : stream.read size = (.error fault, after)) : delivered stream.incoming = [] := by
  unfold read at h
  split at h
  · cases h
  · rename_i hincoming
    simp [hincoming, delivered]
  · split at h <;> cases h

end Stream

namespace Connection

/-- How a call for the next head can go. Either it cuts a head from the bytes in the buffer and
those that it read, or it fails and keeps them all. -/
inductive Framed (before : Connection) : Except ConnectionFault Bytes → Connection → Prop
  | head {received head buffer : Bytes} {stream : Stream} (isHead : IsHead head)
      (cut : before.buffer ++ received = head ++ buffer)
      (reads : before.stream.Reads received stream)
      (delivered : Stream.delivered before.stream.incoming =
        received ++ Stream.delivered stream.incoming) :
      Framed before (.ok head) ⟨stream, buffer⟩
  | failure {received : Bytes} {stream : Stream} (fault : ConnectionFault)
      (unfinished : ¬ blankLine <:+: before.buffer ++ received)
      (reads : before.stream.Reads received stream)
      (delivered : Stream.delivered before.stream.incoming = received) :
      Framed before (.error fault) ⟨stream, before.buffer ++ received⟩

/-- A call that reads on behaves as one that finds the bytes already in the buffer. -/
theorem Framed.of_read {before : Connection} {content : Bytes} {stream : Stream}
    {outcome : Except ConnectionFault Bytes} {after : Connection}
    (reads : before.stream.Reads content stream)
    (delivered : Stream.delivered before.stream.incoming =
      content ++ Stream.delivered stream.incoming)
    (h : Framed ⟨stream, before.buffer ++ content⟩ outcome after) :
    Framed before outcome after := by
  cases h with
  | head isHead cut reads' delivered' =>
    exact .head isHead (by rw [← cut, List.append_assoc]) (reads.trans reads')
      (by rw [delivered, delivered', List.append_assoc])
  | failure fault unfinished reads' delivered' =>
    rw [List.append_assoc] at unfinished ⊢
    exact .failure fault unfinished (reads.trans reads') (by rw [delivered, delivered'])

theorem nextHeadFrom_framed (connection : Connection) (scanned : Nat)
    (clear : ClearBefore scanned connection.buffer) :
    Framed connection (connection.nextHeadFrom scanned).1 (connection.nextHeadFrom scanned).2 := by
  fun_induction nextHeadFrom connection scanned with
  | case1 connection scanned head buffer hcut =>
    exact .head (isHead_of_cutHead? clear hcut) (by simpa using (cutHead?_eq_some hcut).1)
      (Stream.Reads.refl _) rfl
  | case2 connection scanned hcut fault stream hread =>
    have hfailure := Framed.failure (.io fault) (by simpa using cutHead?_eq_none clear hcut)
      (Stream.reads_of_failed_read hread) (Stream.delivered_of_failed_read hread)
    rwa [List.append_nil] at hfailure
  | case3 connection scanned hcut stream hread =>
    have hfailure := Framed.failure .closed (by simpa using cutHead?_eq_none clear hcut)
      (Stream.reads_of_read hread) (Stream.delivered_of_read hread (by decide))
    rwa [List.append_nil] at hfailure
  | case4 connection scanned hcut content stream hread nonempty ih =>
    have hdelivered := Stream.delivered_of_read hread (by decide)
    rw [if_neg nonempty] at hdelivered
    exact .of_read (Stream.reads_of_read hread) hdelivered
      (ih (clearBefore_append (cutHead?_eq_none clear hcut) content))

/-- A call for the next head resumes its search three bytes back, and misses nothing by it. -/
theorem nextHead_framed (connection : Connection) :
    Framed connection connection.nextHead.1 connection.nextHead.2 :=
  nextHeadFrom_framed connection 0 (clearBefore_zero connection.buffer)

/-- A call takes what it returns from the front of the bytes that are left, and so from the front
of their heads. -/
theorem Framed.rest {before after : Connection} {outcome : Except ConnectionFault Bytes}
    (h : Framed before outcome after) :
    before.rest = outcome.toOption.toList.flatten ++ after.rest ∧
      headsOf before.rest = outcome.toOption.toList ++ headsOf after.rest := by
  cases h with
  | @head received head buffer stream isHead cut reads =>
    have hrest : before.rest = head ++ (buffer ++ stream.unread) := by
      rw [Connection.rest, reads.unread, ← List.append_assoc, cut, List.append_assoc]
    rw [hrest, headsOf_append isHead]
    exact ⟨by simp [Except.toOption, Connection.rest], rfl⟩
  | @failure received stream fault _ reads =>
    have hrest : before.rest = (before.buffer ++ received) ++ stream.unread := by
      rw [Connection.rest, reads.unread, List.append_assoc]
    rw [hrest]
    exact ⟨rfl, rfl⟩

/-- A buffered head is cut without reading. -/
theorem nextHead_of_buffered {connection : Connection} (h : blankLine <:+: connection.buffer) :
    ∃ head buffer, connection.nextHead = (.ok head, { connection with buffer }) := by
  cases hcut : cutHead? connection.buffer 0 with
  | none => exact False.elim (cutHead?_eq_none (clearBefore_zero _) hcut h)
  | some cut =>
    obtain ⟨head, buffer⟩ := cut
    exact ⟨head, buffer, by rw [nextHead, nextHeadFrom, hcut]⟩

end Connection

def Request.ofHead (head : Bytes) : Request :=
  parse (Utf8.decodeLossy head)

namespace Connection

theorem nextRequest_eq (connection : Connection) :
    connection.nextRequest = (connection.nextHead.1.map Request.ofHead, connection.nextHead.2) :=
  rfl

section Outcome

variable {connection after : Connection}

theorem exists_of_nextRequest_eq_ok {request : Request}
    (h : connection.nextRequest = (.ok request, after)) :
    ∃ head, connection.nextHead = (.ok head, after) ∧ request = Request.ofHead head := by
  rw [nextRequest_eq] at h
  cases hnext : connection.nextHead with
  | mk outcome next =>
    rw [hnext] at h
    cases outcome with
    | error fault => cases h
    | ok head =>
      cases h
      exact ⟨head, rfl, rfl⟩

theorem nextHead_of_nextRequest_eq_error {fault : ConnectionFault}
    (h : connection.nextRequest = (.error fault, after)) :
    connection.nextHead = (.error fault, after) := by
  rw [nextRequest_eq] at h
  cases hnext : connection.nextHead with
  | mk outcome next =>
    rw [hnext] at h
    cases outcome with
    | error cause =>
      cases h
      rfl
    | ok head => cases h

end Outcome

inductive Call
  | next
  | respond (response : Response)

/-- A connection with what the calls on it have given so far: the bytes of the heads that were cut,
and the requests that were returned. -/
structure Session where
  connection : Connection
  heads : List Bytes
  requests : List Request

namespace Session

def start (stream : Stream) : Session :=
  ⟨⟨stream, []⟩, [], []⟩

def perform (session : Session) : Call → Session
  | .next =>
    ⟨session.connection.nextRequest.2,
      session.heads ++ session.connection.nextHead.1.toOption.toList,
      session.requests ++ session.connection.nextRequest.1.toOption.toList⟩
  | .respond response =>
    { session with connection := (session.connection.respond response).2 }

def run (stream : Stream) (calls : List Call) : Session :=
  calls.foldl perform (start stream)

/-- The heads that were cut, the buffer and the unread bytes make up some bytes, whose heads were
cut in order, and each request returned is that of its head. -/
structure Frames (session : Session) (bytes : Bytes) : Prop where
  conserved : session.heads.flatten ++ session.connection.buffer
    ++ session.connection.stream.unread = bytes
  inOrder : headsOf bytes = session.heads ++ headsOf session.connection.rest
  parsed : session.requests = session.heads.map Request.ofHead

theorem start_frames (stream : Stream) : (start stream).Frames stream.unread :=
  ⟨rfl, rfl, rfl⟩

theorem perform_frames {session : Session} {bytes : Bytes} (h : session.Frames bytes)
    (call : Call) : (session.perform call).Frames bytes := by
  cases call with
  | respond response =>
    have hrest := rest_respond session.connection response
    refine ⟨?_, ?_, h.parsed⟩
    · rw [← h.conserved, List.append_assoc, List.append_assoc]
      exact congrArg (session.heads.flatten ++ ·) hrest
    · rw [h.inOrder]
      exact congrArg (fun rest => session.heads ++ headsOf rest) hrest.symm
  | next =>
    obtain ⟨hrest, hheads⟩ := (nextHead_framed session.connection).rest
    simp only [perform, nextRequest_eq]
    refine ⟨?_, ?_, ?_⟩
    · have hconserved := h.conserved
      rw [List.append_assoc] at hconserved ⊢
      rw [← hconserved, List.flatten_append, List.append_assoc]
      exact congrArg (session.heads.flatten ++ ·) hrest.symm
    · rw [h.inOrder, hheads, List.append_assoc]
    · rw [h.parsed, List.map_append]
      cases session.connection.nextHead.1 <;> rfl

theorem run_frames (stream : Stream) (calls : List Call) :
    (run stream calls).Frames stream.unread := by
  apply List.foldlRecOn (motive := fun session : Session => session.Frames stream.unread)
  · exact start_frames stream
  · intro session h call _
    exact perform_frames h call

end Session

/-- Whatever calls were made, the bytes of the stream are cut into heads in order and none is lost.
A head in the buffer is returned without reading, and a call that fails keeps what it has read. -/
theorem session_frames (stream : Stream) (calls : List Call) :
    let session := Session.run stream calls
    session.Frames stream.unread ∧
      (blankLine <:+: session.connection.buffer →
        ∃ request after, session.connection.nextRequest = (.ok request, after) ∧
          after.stream = session.connection.stream) ∧
      ∀ fault after, session.connection.nextRequest = (.error fault, after) →
        ∃ received, session.connection.stream.unread = received ++ after.stream.unread ∧
          after.buffer = session.connection.buffer ++ received := by
  intro session
  refine ⟨Session.run_frames stream calls, fun buffered => ?_, fun fault after failed => ?_⟩
  · obtain ⟨head, buffer, hnext⟩ := nextHead_of_buffered buffered
    exact ⟨Request.ofHead head, { session.connection with buffer },
      by rw [nextRequest_eq, hnext]; rfl, rfl⟩
  · have hframed := nextHead_framed session.connection
    rw [nextHead_of_nextRequest_eq_error failed] at hframed
    cases hframed with
    | failure _ _ reads => exact ⟨_, reads.unread, rfl⟩

/-- Two requests, the blank line of the first being cut by a read that fails. -/
def straddling : Stream where
  incoming := [.bytes (Utf8.encode "GET /a\r\n\r".toList), .failure .reset,
    .bytes (Utf8.encode "\nGET /b\r\n\r\n".toList)]

/-- The failed call keeps the beginning of the blank line, and the one after it reads the rest and
with it the second request, which then needs no reading. -/
theorem session_frames_straddling :
    (∃ after, (Session.run straddling []).connection.nextRequest = (.error (.io .reset), after) ∧
        straddling.unread = after.buffer ++ after.stream.unread) ∧
      (Session.run straddling [.next, .next]).requests = [.ofPath "/a".toList] ∧
      ∃ request after, (Session.run straddling [.next, .next]).connection.nextRequest =
          (.ok request, after) ∧
        after.stream = (Session.run straddling [.next, .next]).connection.stream := by
  obtain ⟨_, _, kept⟩ := session_frames straddling []
  obtain ⟨_, buffered, _⟩ := session_frames straddling [.next, .next]
  refine ⟨?_, by decide +kernel, buffered ?_⟩
  · have hfailed : (Session.run straddling []).connection.nextRequest =
        (.error (.io .reset),
          ⟨{ incoming := [.bytes (Utf8.encode "\nGET /b\r\n\r\n".toList)] },
            Utf8.encode "GET /a\r\n\r".toList⟩) := by decide +kernel
    obtain ⟨received, hunread, hkept⟩ := kept _ _ hfailed
    exact ⟨_, hfailed, by rw [hkept]; exact hunread⟩
  · have hbuffer : (Session.run straddling [.next, .next]).connection.buffer =
        Utf8.encode "GET /b\r\n\r\n".toList := by decide +kernel
    rw [hbuffer]
    decide

end Connection

end IndexSearch
