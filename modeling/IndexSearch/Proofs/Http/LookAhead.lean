import IndexSearch.Proofs.Http.Framing

/-!
# Look-ahead

A call for the next request reads on only while its buffer holds no blank line, so it stops at the
first read that brings one, and what it leaves behind the head came with that read. A buffer may
grow to any length over calls that fail. But then it holds no blank line, and the next head cannot
end before the bytes of a later read.
-/

namespace IndexSearch

namespace Stream

variable {size : Nat} {stream after : Stream}

/-- Some reads, one after the other, each of which found bytes. -/
inductive Receives (size : Nat) : Stream → List Bytes → Stream → Prop
  | none (stream : Stream) : Receives size stream [] stream
  | read {stream next after : Stream} {piece : Bytes} {pieces : List Bytes}
      (found : stream.read size = (.ok piece, next)) (nonempty : piece ≠ [])
      (others : Receives size next pieces after) : Receives size stream (piece :: pieces) after

theorem length_le_of_read {piece : Bytes} (h : stream.read size = (.ok piece, after)) :
    piece.length ≤ size := by
  unfold read at h
  split at h
  · cases h
    exact Nat.zero_le size
  · cases h
  · rename_i held rest hincoming
    split at h
    · rename_i hshort
      cases h
      exact hshort
    · cases h
      rw [List.length_take]
      exact Nat.min_le_left _ _

theorem Receives.length_le {pieces : List Bytes} (h : stream.Receives size pieces after) :
    ∀ piece ∈ pieces, piece.length ≤ size := by
  induction h with
  | none => exact List.forall_mem_nil _
  | read found _ _ ih => exact List.forall_mem_cons.mpr ⟨length_le_of_read found, ih⟩

end Stream

/-- With these pieces, and not with fewer of them, the bytes in front hold a blank line. -/
structure Completes (begun : Bytes) (pieces : List Bytes) : Prop where
  finished : blankLine <:+: begun ++ pieces.flatten
  first : ∀ earlier, earlier <+: pieces → earlier ≠ pieces →
    ¬ blankLine <:+: begun ++ earlier.flatten

namespace Completes

variable {begun piece : Bytes} {pieces : List Bytes}

theorem nil_iff : Completes begun [] ↔ blankLine <:+: begun := by
  constructor
  · intro h
    simpa using h.finished
  · intro h
    refine ⟨by simpa using h, ?_⟩
    intro earlier hearlier hproper
    exact absurd (List.prefix_nil.mp hearlier) hproper

theorem cons_iff : Completes begun (piece :: pieces) ↔
    ¬ blankLine <:+: begun ∧ Completes (begun ++ piece) pieces := by
  constructor
  · intro h
    have hbegun := h.first [] List.nil_prefix (List.cons_ne_nil _ _).symm
    refine ⟨by simpa using hbegun, by simpa using h.finished, ?_⟩
    intro earlier hearlier hproper
    have hlater := h.first (piece :: earlier) (List.cons_prefix_cons.mpr ⟨rfl, hearlier⟩)
      (fun heq => hproper (List.cons.inj heq).2)
    simpa using hlater
  · rintro ⟨unfinished, h⟩
    refine ⟨by simpa using h.finished, ?_⟩
    intro earlier hearlier hproper
    rcases List.prefix_cons_iff.mp hearlier with rfl | ⟨others, rfl, hothers⟩
    · simpa using unfinished
    · have hlater := h.first others hothers (fun heq => hproper (congrArg (piece :: ·) heq))
      simpa using hlater

end Completes

namespace Connection

variable {connection after : Connection} {head : Bytes}

/-- A call that succeeds stops at the first read that completes a head. -/
theorem exists_completes_of_nextHeadFrom {scanned : Nat}
    (clear : ClearBefore scanned connection.buffer)
    (h : connection.nextHeadFrom scanned = (.ok head, after)) :
    ∃ pieces, connection.stream.Receives readSize pieces after.stream ∧
      Completes connection.buffer pieces ∧
      connection.buffer ++ pieces.flatten = head ++ after.buffer := by
  fun_induction nextHeadFrom connection scanned with
  | case1 connection scanned cut buffer hcut =>
    cases h
    have hsplit := (cutHead?_eq_some hcut).1
    have hhead := isHead_of_cutHead? clear hcut
    refine ⟨[], .none _, Completes.nil_iff.mpr ?_, by simpa using hsplit⟩
    rw [hsplit]
    exact List.infix_append_of_infix_left hhead.1.isInfix
  | case2 => cases h
  | case3 => cases h
  | case4 connection scanned hcut content stream hread nonempty ih =>
    have unfinished := cutHead?_eq_none clear hcut
    obtain ⟨pieces, hreads, hcompletes, hsplit⟩ := ih (clearBefore_append unfinished content) h
    refine ⟨content :: pieces, .read hread nonempty hreads,
      Completes.cons_iff.mpr ⟨unfinished, hcompletes⟩, ?_⟩
    rw [← hsplit, List.flatten_cons, List.append_assoc]

/-- Where some reads complete a head, a call makes just these. -/
theorem nextHeadFrom_of_completes {stream next : Stream} {pieces : List Bytes}
    (reads : stream.Receives readSize pieces next) {buffer : Bytes} {scanned : Nat}
    (clear : ClearBefore scanned buffer) (completes : Completes buffer pieces) :
    ∃ head left, nextHeadFrom ⟨stream, buffer⟩ scanned = (.ok head, ⟨next, left⟩) := by
  induction reads generalizing buffer scanned with
  | none stream =>
    cases hcut : cutHead? buffer scanned with
    | none => exact absurd (Completes.nil_iff.mp completes) (cutHead?_eq_none clear hcut)
    | some cut => exact ⟨cut.1, cut.2, by rw [nextHeadFrom, hcut]⟩
  | @read stream between next piece pieces found nonempty others ih =>
    obtain ⟨unfinished, hlater⟩ := Completes.cons_iff.mp completes
    obtain ⟨head, left, hnext⟩ := ih (clearBefore_append unfinished piece) hlater
    refine ⟨head, left, ?_⟩
    rw [nextHeadFrom, cutHead?_of_unfinished clear unfinished]
    dsimp only
    split
    · rename_i hread
      rw [found] at hread
      cases hread
    · rename_i hread
      rw [found] at hread
      cases hread
      rw [if_neg nonempty, hnext]

/-- What is left behind a head came with the last read, and is less than that. -/
theorem length_lt_of_completes {pieces : List Bytes} {left : Bytes}
    (bounded : blankLine <:+: connection.buffer → connection.buffer.length < readSize)
    (received : ∀ piece ∈ pieces, piece.length ≤ readSize)
    (completes : Completes connection.buffer pieces) (isHead : IsHead head)
    (split : connection.buffer ++ pieces.flatten = head ++ left) : left.length < readSize := by
  have hlength := congrArg List.length split
  rcases List.eq_nil_or_concat' pieces with rfl | ⟨earlier, last, rfl⟩
  · have hbuffer := bounded (Completes.nil_iff.mp completes)
    simp only [List.flatten_nil, List.append_nil, List.length_append] at hlength
    omega
  · have hlast := received last (by simp)
    have unfinished := completes.first earlier (List.prefix_append _ _) (by simp)
    rw [List.flatten_concat, ← List.append_assoc] at split hlength
    by_contra hlong
    -- A head that ended before the last read would have been found before it.
    have hbefore : head <+: connection.buffer ++ earlier.flatten := by
      refine List.prefix_of_prefix_length_le ?_ (List.prefix_append _ last) ?_
      · rw [split]
        exact List.prefix_append head left
      · simp only [List.length_append] at hlength ⊢
        omega
    exact unfinished (isHead.1.isInfix.trans hbefore.isInfix)

/-- A buffer as long as a whole read holds no blank line. -/
def Restrained (connection : Connection) : Prop :=
  blankLine <:+: connection.buffer → connection.buffer.length < readSize

theorem length_lt_of_nextHead (h : connection.Restrained)
    (hnext : connection.nextHead = (.ok head, after)) : after.buffer.length < readSize := by
  have hframed := nextHead_framed connection
  rw [hnext] at hframed
  cases hframed with
  | head isHead =>
    obtain ⟨pieces, hreads, hcompletes, hsplit⟩ :=
      exists_completes_of_nextHeadFrom (clearBefore_zero _) hnext
    exact length_lt_of_completes h hreads.length_le hcompletes isHead hsplit

theorem unfinished_of_nextHead {fault : ConnectionFault}
    (hnext : connection.nextHead = (.error fault, after)) : ¬ blankLine <:+: after.buffer := by
  have hframed := nextHead_framed connection
  rw [hnext] at hframed
  cases hframed with
  | failure _ unfinished => exact unfinished

/-- A call that succeeds leaves less than a read, and one that fails leaves no blank line. -/
theorem restrained_nextHead (h : connection.Restrained) : connection.nextHead.2.Restrained := by
  intro buffered
  cases hnext : connection.nextHead with
  | mk outcome after =>
    rw [hnext] at buffered
    cases outcome with
    | ok head => exact length_lt_of_nextHead h hnext
    | error fault => exact absurd buffered (unfinished_of_nextHead hnext)

theorem restrained_perform {session : Session} (h : session.connection.Restrained)
    (call : Call) : (session.perform call).connection.Restrained := by
  cases call with
  | respond response => exact h
  | next => exact restrained_nextHead h

theorem restrained_run (stream : Stream) (calls : List Call) :
    (Session.run stream calls).connection.Restrained := by
  apply List.foldlRecOn (motive := fun session : Session => session.connection.Restrained)
  · intro _
    exact Nat.succ_pos _
  · intro session h call _
    exact restrained_perform h call

/-- What is read ahead stays bounded, whatever calls were made before and however they went. A call
that succeeds leaves at most 1023 bytes in the buffer; it has made the reads up to the first one
with which the buffer held a blank line, and none where it held one already. Whenever there are
such reads to be made, the call makes them and succeeds; and one that fails leaves no blank line. -/
theorem lookAhead_bounded (stream : Stream) (calls : List Call) :
    let connection := (Session.run stream calls).connection
    (∀ request after, connection.nextRequest = (.ok request, after) →
      after.buffer.length ≤ 1023 ∧
        ∃ pieces, connection.stream.Receives readSize pieces after.stream ∧
          Completes connection.buffer pieces) ∧
      (∀ pieces next, connection.stream.Receives readSize pieces next →
        Completes connection.buffer pieces →
        ∃ request after, connection.nextRequest = (.ok request, after) ∧ after.stream = next) ∧
      ∀ fault after, connection.nextRequest = (.error fault, after) →
        ¬ blankLine <:+: after.buffer := by
  intro connection
  refine ⟨?_, ?_, ?_⟩
  · intro request after h
    obtain ⟨head, hnext, -⟩ := exists_of_nextRequest_eq_ok h
    have hlength := length_lt_of_nextHead (restrained_run stream calls) hnext
    obtain ⟨pieces, hreads, hcompletes, -⟩ :=
      exists_completes_of_nextHeadFrom (clearBefore_zero _) hnext
    exact ⟨Nat.le_of_lt_succ hlength, pieces, hreads, hcompletes⟩
  · intro pieces next reads completes
    obtain ⟨head, left, hnext⟩ :=
      nextHeadFrom_of_completes reads (clearBefore_zero _) completes
    refine ⟨Request.ofHead head, ⟨next, left⟩, ?_, rfl⟩
    rw [nextRequest_eq, nextHead, hnext]
    rfl
  · intro fault after h
    exact unfinished_of_nextHead (nextHead_of_nextRequest_eq_error h)

/-- A head that is longer than a read, and behind which more follows than another read takes. -/
def overdue : Stream where
  incoming := [.bytes (List.replicate 1021 120 ++ [13, 10, 13]), .failure .reset,
    .bytes (10 :: List.replicate 1024 121)]

/-- A call that fails leaves a whole read in the buffer, and the one after it finishes the head with
the first byte that it reads. The others of that read stay in the buffer, and these are 1023. -/
theorem lookAhead_bounded_overdue :
    let connection := (Session.run overdue [.next]).connection
    connection.buffer.length = 1024 ∧
      ∃ request after, connection.nextRequest = (.ok request, after) ∧
        after.stream.unread = [121] ∧
        after.buffer = List.replicate 1023 121 ∧ after.buffer.length ≤ 1023 := by
  obtain ⟨hbounded, hmade, -⟩ := lookAhead_bounded overdue [.next]
  have hconnection : (Session.run overdue [.next]).connection =
      ⟨{ incoming := [.bytes (10 :: List.replicate 1024 121)] },
        List.replicate 1021 120 ++ [13, 10, 13]⟩ := by decide +kernel
  rw [hconnection] at hbounded hmade ⊢
  have hreads : Stream.Receives readSize { incoming := [.bytes (10 :: List.replicate 1024 121)] }
      [10 :: List.replicate 1023 121] { incoming := [.bytes [121]] } :=
    .read (by decide +kernel) (List.cons_ne_nil _ _) (.none _)
  have hcompletes : Completes (List.replicate 1021 120 ++ [13, 10, 13])
      [10 :: List.replicate 1023 121] :=
    Completes.cons_iff.mpr ⟨by decide +kernel, Completes.nil_iff.mpr (by decide +kernel)⟩
  obtain ⟨request, after, hnext, hstream⟩ := hmade _ _ hreads hcompletes
  refine ⟨by decide +kernel, request, after, hnext, ?_, ?_, (hbounded _ _ hnext).1⟩
  · rw [hstream]
    decide +kernel
  · have hafter : (nextRequest ⟨_, _⟩).2 = after := congrArg Prod.snd hnext
    rw [← hafter]
    decide +kernel

end Connection

end IndexSearch
