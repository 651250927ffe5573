import IndexSearch.Files.CommonTypes
import IndexSearch.Proofs.Http.Framing
import IndexSearch.Proofs.Http.Writing
import IndexSearch.Site.Serve

/-!
# What a connection is sent

A connection is sent the responses to its requests in order, up to the first one that asks to
close, and of those bytes as many as the limit on writing lets through. The requests are those of
the heads in the bytes that arrive before the first empty or failing read. How these bytes were cut
into reads, and the responses into writes, makes no difference.
-/

namespace IndexSearch

/-- The requests that are answered: those up to the first one that asks to close, and that one too
if it is to be answered before closing. -/
def ClosePolicy.answered (policy : ClosePolicy) : List Request → List Request
  | [] => []
  | request :: rest =>
    if request.wantsClose then
      match policy with
      | .dropFinal => []
      | .respondThenClose => [request]
    else request :: policy.answered rest

/-- The bytes from which a connection can still cut heads before a read comes back empty or
fails. -/
def Connection.arriving (connection : Connection) : Bytes :=
  connection.buffer ++ Stream.delivered connection.stream.incoming

/-- A connection whose writes take something while the limit on them is not reached. -/
structure Connection.Writable (connection : Connection) : Prop where
  moves : connection.stream.writeChunk ≠ some 0
  fits : Stream.Fits connection.stream.writeLimit connection.stream.written

namespace Connection

theorem writable_of_reads {before : Connection} {received buffer : Bytes} {stream : Stream}
    (writable : before.Writable) (reads : before.stream.Reads received stream) :
    (⟨stream, buffer⟩ : Connection).Writable := by
  refine ⟨?_, ?_⟩
  · rw [reads.outgoing]
    exact writable.moves
  · rw [reads.outgoing]
    exact writable.fits

/-- A response is written in full, or its bytes are cut at the limit and the write fails. -/
theorem respond_cases {connection : Connection} (writable : connection.Writable)
    (response : Response) :
    (∃ fault last, connection.respond response = (.error fault, last) ∧
        ∀ more, last.stream.written = Stream.capped connection.stream.writeLimit
          (connection.stream.written ++ (response.render ++ more))) ∨
      ∃ last, connection.respond response = (.ok (), last) ∧ last.Writable ∧
        last.arriving = connection.arriving ∧
        last.stream.writeLimit = connection.stream.writeLimit ∧
        last.stream.written = connection.stream.written ++ response.render := by
  obtain ⟨hstream, hok⟩ :=
    Stream.writeAll_eq response.render writable.moves writable.fits
  rw [respond]
  generalize connection.stream.writeAll response.render = result at hstream hok ⊢
  obtain ⟨outcome, stream⟩ := result
  simp only at hstream hok
  cases outcome with
  | error fault =>
    have hnot : ¬ Stream.Fits connection.stream.writeLimit
        (connection.stream.written ++ response.render) := fun hfits => by cases hok.mpr hfits
    refine Or.inl ⟨.io fault, ⟨stream, connection.buffer⟩, rfl, fun more => ?_⟩
    rw [hstream, ← List.append_assoc, Stream.capped_append_of_not_fits hnot]
  | ok =>
    have hfits := hok.mp rfl
    rw [Stream.capped_of_fits hfits] at hstream
    refine Or.inr ⟨⟨stream, connection.buffer⟩, rfl, ?_, ?_, ?_, ?_⟩
    · exact ⟨by rw [hstream]; exact writable.moves, by rw [hstream]; exact hfits⟩
    · rw [hstream]; rfl
    · rw [hstream]
    · rw [hstream]

end Connection

theorem Response.protocol_prefix_render (response : Response) :
    Utf8.encode "HTTP/1.1 ".toList <+: response.render := by
  unfold render head
  simp only [List.append_assoc, Utf8.encode, List.flatMap_append]
  exact List.prefix_append _ _

namespace Site

def respondAll (site : Site) (requests : List Request) : Bytes :=
  requests.flatMap fun request => (site.answer request).render

/-- The bytes that answer those received, while nothing limits writing: the response to each head
that is answered, made from this head alone. -/
def output (site : Site) (policy : ClosePolicy) (bytes : Bytes) : Bytes :=
  site.respondAll (policy.answered ((headsOf bytes).map Request.ofHead))

/-- Serving one connection leads to another through exchanges that others may follow. -/
inductive Reaches (site : Site) (policy : ClosePolicy) : Connection → Connection → Prop
  | here (connection : Connection) : Reaches site policy connection connection
  | next {connection after later : Connection}
      (exchanged : site.exchange policy connection = (true, after))
      (reached : Reaches site policy after later) : Reaches site policy connection later

variable {site : Site} {policy : ClosePolicy}

theorem serve_of_exchange_false {connection after : Connection}
    (h : site.exchange policy connection = (false, after)) :
    site.serve policy connection = after := by
  rw [serve]
  split
  · rename_i h'
    rw [h] at h'
    cases h'
    rfl
  · rename_i h'
    rw [h] at h'
    cases h'

theorem serve_of_exchange_true {connection after : Connection}
    (h : site.exchange policy connection = (true, after)) :
    site.serve policy connection = site.serve policy after := by
  rw [serve]
  split
  · rename_i h'
    rw [h] at h'
    cases h'
  · rename_i h'
    rw [h] at h'
    cases h'
    rfl

theorem serve_of_reaches {connection later : Connection}
    (h : site.Reaches policy connection later) :
    site.serve policy connection = site.serve policy later := by
  induction h with
  | here => rfl
  | next exchanged _ ih => rw [serve_of_exchange_true exchanged, ih]

theorem output_unfinished {bytes : Bytes} (h : ¬ blankLine <:+: bytes) :
    site.output policy bytes = [] := by
  rw [output, headsOf_unfinished h]
  rfl

/-- What is sent for a head that comes first, and for those after it. -/
theorem output_head {head : Bytes} (h : IsHead head) (more : Bytes) :
    site.output policy (head ++ more) =
      if (Request.ofHead head).wantsClose then
        match policy with
        | .dropFinal => []
        | .respondThenClose => (site.answer (Request.ofHead head)).render
      else (site.answer (Request.ofHead head)).render ++ site.output policy more := by
  simp only [output, headsOf_append h, List.map_cons, ClosePolicy.answered]
  split
  · cases policy <;> simp [respondAll]
  · rfl

/-- What a client will have been sent when serving its connection has ended. -/
def sent (site : Site) (policy : ClosePolicy) (connection : Connection) : Bytes :=
  Stream.capped connection.stream.writeLimit
    (connection.stream.written ++ site.output policy connection.arriving)

/-- An exchange after which another may follow does not change what is going to have been sent, and
one after which none follows leaves the connection with it. -/
theorem exchange_sent (site : Site) (policy : ClosePolicy) {connection : Connection}
    (writable : connection.Writable) :
    match site.exchange policy connection with
    | (true, after) => after.Writable ∧ site.sent policy after = site.sent policy connection
    | (false, after) => after.stream.written = site.sent policy connection := by
  have hframed := connection.nextHead_framed
  rw [exchange, Connection.nextRequest_eq]
  generalize connection.nextHead = result at hframed ⊢
  obtain ⟨outcome, next⟩ := result
  cases hframed with
  | @failure received stream fault unfinished reads delivered =>
    have harriving : connection.arriving = connection.buffer ++ received := by
      rw [Connection.arriving, delivered]
    simp only [Except.map]
    rw [sent, harriving, output_unfinished unfinished, List.append_nil,
      Stream.capped_of_fits writable.fits, reads.outgoing]
  | @head received head buffer stream isHead cut reads delivered =>
    have harriving : connection.arriving = head ++ (⟨stream, buffer⟩ : Connection).arriving := by
      rw [Connection.arriving, delivered, ← List.append_assoc, cut, List.append_assoc]
      rfl
    have hnext : (⟨stream, buffer⟩ : Connection).Writable :=
      Connection.writable_of_reads writable reads
    have hstream : stream = { connection.stream with incoming := stream.incoming } :=
      reads.outgoing
    have hsent : site.sent policy connection =
        Stream.capped stream.writeLimit (stream.written ++
          site.output policy (head ++ (⟨stream, buffer⟩ : Connection).arriving)) := by
      rw [sent, harriving, hstream]
    rw [hsent, output_head isHead]
    simp only [Except.map]
    -- A failed response is the limit cutting the bytes, so what was to follow it does not count.
    have hrespond := Connection.respond_cases hnext (site.answer (Request.ofHead head))
    cases hclose : (Request.ofHead head).wantsClose with
    | true =>
      cases policy with
      | dropFinal => simp [Stream.capped_of_fits hnext.fits]
      | respondThenClose =>
        rcases hrespond with ⟨fault, last, hfailed, hwritten⟩ |
          ⟨last, hdone, hlast, _, hlimit, hwritten⟩
        · simpa [hfailed] using hwritten []
        · have hfits := hlast.fits
          rw [hwritten, hlimit] at hfits
          simp [hdone, Stream.capped_of_fits hfits, hwritten]
    | false =>
      rcases hrespond with ⟨fault, last, hfailed, hwritten⟩ |
        ⟨last, hdone, hlast, hrest, hlimit, hwritten⟩
      · simpa [hfailed] using hwritten (site.output policy _)
      · simp [hdone, hlast, sent, hrest, hlimit, hwritten, List.append_assoc]

/-- What a client will have been sent, it has been sent when serving its connection has ended. -/
theorem serve_sent {connection : Connection} (writable : connection.Writable) :
    (site.serve policy connection).stream.written = site.sent policy connection := by
  fun_induction serve site policy connection with
  | case1 connection after exchanged =>
    have hsent := site.exchange_sent policy writable
    rw [exchanged] at hsent
    exact hsent
  | case2 connection after exchanged ih =>
    have hsent := site.exchange_sent policy writable
    rw [exchanged] at hsent
    rw [ih hsent.1, hsent.2]

/-- Serving a connection comes to an exchange after which none follows. -/
theorem serve_ends (site : Site) (policy : ClosePolicy) (connection : Connection) :
    ∃ later, site.Reaches policy connection later ∧
      site.exchange policy later = (false, site.serve policy connection) := by
  fun_induction serve site policy connection with
  | case1 connection after exchanged => exact ⟨connection, .here connection, exchanged⟩
  | case2 connection after exchanged ih =>
    obtain ⟨later, reached, ended⟩ := ih
    exact ⟨later, .next exchanged reached, ended⟩

/-- A response that cannot be written is the last thing that serving a connection does. -/
theorem serve_of_failed_respond {connection next last : Connection} {request : Request}
    {fault : ConnectionFault} (read : connection.nextRequest = (.ok request, next))
    (answered : request ∈ policy.answered [request])
    (failed : next.respond (site.answer request) = (.error fault, last)) :
    site.serve policy connection = last := by
  refine serve_of_exchange_false ?_
  have hanswered : (request.wantsClose && policy == .dropFinal) = false := by
    cases policy <;> cases hclose : request.wantsClose <;> simp_all [ClosePolicy.answered]
  simp [exchange, read, failed, hanswered]

/-- Serving a stream ends, and has written then the responses to the heads that were delivered, in
order and up to the first request to close, as far as the limit lets them through. Nothing follows
a response that could not be written. -/
theorem serve_written (site : Site) (policy : ClosePolicy) (stream : Stream)
    (unwritten : stream.written = []) (moves : stream.writeChunk ≠ some 0) :
    let start : Connection := ⟨stream, []⟩
    (∃ later, site.Reaches policy start later ∧
        site.exchange policy later = (false, site.serve policy start)) ∧
      (site.serve policy start).stream.written =
        Stream.capped stream.writeLimit (site.output policy (Stream.delivered stream.incoming)) ∧
      ∀ later, site.Reaches policy start later →
        ∀ request next, later.nextRequest = (.ok request, next) →
          request ∈ policy.answered [request] →
            ∀ fault last, next.respond (site.answer request) = (.error fault, last) →
              site.serve policy start = last := by
  intro start
  refine ⟨serve_ends site policy start, ?_, ?_⟩
  · have hwritable : start.Writable := by
      refine ⟨moves, fun most _ => ?_⟩
      rw [show start.stream.written = [] from unwritten]
      exact Nat.zero_le most
    rw [serve_sent hwritable, sent, show start.stream.written = [] from unwritten]
    rfl
  · intro later reached request next read answered fault last failed
    rw [serve_of_reaches reached, serve_of_failed_respond read answered failed]

def bare : Site where
  root := ⟨.ofEntries [] [], []⟩
  engine := ⟨[.ofShard (Shard.ofEntries { terms := [], docs := [] })], List.cons_ne_nil _ _⟩
  crawlRoot := []
  mediaType := .byExtension

/-- Two requests and a part of a third, cut within a blank line, on a stream that takes three bytes
at a time and four in all. -/
def crowded : Stream where
  incoming := [.bytes (Utf8.encode "GET /a\r\n\r".toList),
    .bytes (Utf8.encode "\nGET /b\r\n\r\nGET".toList), .bytes []]
  writeChunk := some 3
  writeLimit := some 4

/-- The first response fails after four bytes, and the second request is not answered. -/
theorem serve_written_crowded :
    (bare.serve .dropFinal ⟨crowded, []⟩).stream.written = Utf8.encode "HTTP".toList ∧
      ∃ fault last, (⟨crowded, []⟩ : Connection).nextRequest.2.respond
          (bare.answer (.ofPath "/a".toList)) = (.error fault, last) ∧
        bare.serve .dropFinal ⟨crowded, []⟩ = last := by
  obtain ⟨_, written, ended⟩ := serve_written bare .dropFinal crowded rfl (by decide)
  have hread : (⟨crowded, []⟩ : Connection).nextRequest = (.ok (.ofPath "/a".toList),
      ⟨{ crowded with incoming := [.bytes []] }, Utf8.encode "GET /b\r\n\r\nGET".toList⟩) := by
    decide +kernel
  have hrequests : ClosePolicy.dropFinal.answered
      ((headsOf (Stream.delivered crowded.incoming)).map Request.ofHead) =
        [.ofPath "/a".toList, .ofPath "/b".toList] := by decide +kernel
  obtain ⟨rest, hrest⟩ := (bare.answer (.ofPath "/a".toList)).protocol_prefix_render
  constructor
  · rw [written, output, hrequests, respondAll, List.flatMap_cons, ← hrest]
    rfl
  · have hwritable : (⟨crowded, []⟩ : Connection).nextRequest.2.Writable := by
      rw [hread]
      exact ⟨by decide, fun most _ => Nat.zero_le most⟩
    rcases Connection.respond_cases hwritable (bare.answer (.ofPath "/a".toList)) with
      ⟨fault, last, hrespond, _⟩ | ⟨last, _, hlast, _, hlimit, hwritten⟩
    · exact ⟨fault, last, hrespond,
        ended _ (.here _) _ _ (by rw [hread]) (by decide) fault last hrespond⟩
    · rw [hread] at hlimit hwritten
      have hshort := hlast.fits 4 hlimit
      have hlength : (Utf8.encode "HTTP/1.1 ".toList).length = 9 := by decide
      rw [hwritten, ← hrest, List.length_append, List.length_append, hlength] at hshort
      omega

end Site

end IndexSearch
