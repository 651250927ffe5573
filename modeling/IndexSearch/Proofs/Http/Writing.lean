import IndexSearch.Http.Stream

/-!
# Writing under limits

Writing some data in as many pieces as it takes writes all of it, or as much as the limit on all
writes leaves room for. That it ends there is no matter of how a full stream refuses a write.
-/

namespace IndexSearch.Stream

/-- The first bytes of some bytes, as far as the limit on all writes lets them through. -/
def capped (limit : Option Nat) (bytes : Bytes) : Bytes :=
  match limit with
  | none => bytes
  | some limit => bytes.take limit

def Fits (limit : Option Nat) (bytes : Bytes) : Prop :=
  ∀ most, limit = some most → bytes.length ≤ most

theorem capped_of_fits {limit : Option Nat} {bytes : Bytes} (h : Fits limit bytes) :
    capped limit bytes = bytes := by
  cases limit with
  | none => rfl
  | some most => exact List.take_of_length_le (h most rfl)

/-- Bytes that are cut at the limit stay as they are, whatever was to follow them. -/
theorem capped_append_of_not_fits {limit : Option Nat} {bytes : Bytes} (h : ¬ Fits limit bytes)
    (more : Bytes) : capped limit (bytes ++ more) = capped limit bytes := by
  cases limit with
  | none => exact False.elim (h fun _ hmost => by cases hmost)
  | some most =>
    have hlong : most ≤ bytes.length := by
      by_cases hle : bytes.length ≤ most
      · exact False.elim (h fun _ hmost => by cases hmost; exact hle)
      · omega
    exact List.take_append_of_le_length hlong

/-- A write takes as much as there is room for, and leaves a full stream as it is. -/
theorem write_cases (stream : Stream) (data : Bytes) :
    (stream.room data.length = 0 ∧ (stream.write data).2 = stream ∧
        ∀ count, (stream.write data).1 = .ok count → count = 0) ∨
      (0 < stream.room data.length ∧ stream.write data =
        (.ok (stream.room data.length),
          { stream with written := stream.written ++ data.take (stream.room data.length) })) := by
  by_cases hroom : stream.room data.length = 0
  · refine Or.inl ⟨hroom, ?_⟩
    simp only [write, hroom, if_true]
    cases stream.writeFault with
    | none => exact ⟨rfl, fun count h => by cases h; rfl⟩
    | some fault => exact ⟨rfl, fun count h => by cases h⟩
  · exact Or.inr ⟨Nat.pos_of_ne_zero hroom, by simp only [write, hroom, if_false]⟩

/-- A stream has no room only if the limit is reached. -/
theorem limit_of_room_eq_zero {stream : Stream} {data : Bytes} (moves : stream.writeChunk ≠ some 0)
    (nonempty : data ≠ []) (h : stream.room data.length = 0) :
    ∃ most, stream.writeLimit = some most ∧ most ≤ stream.written.length := by
  have hdata := List.length_pos_iff.mpr nonempty
  have hchunk : 0 < stream.writeChunk.getD data.length := by
    cases hc : stream.writeChunk with
    | none => simpa using hdata
    | some chunk =>
      have hne : chunk ≠ 0 := fun heq => moves (by rw [hc, heq])
      simpa using Nat.pos_of_ne_zero hne
  cases hl : stream.writeLimit with
  | none => simp only [room, hl, Option.map_none, Option.getD_none] at h; omega
  | some most =>
    simp only [room, hl, Option.map_some, Option.getD_some] at h
    exact ⟨most, rfl, by omega⟩

theorem fits_of_room {stream : Stream} (data : Bytes)
    (fits : Fits stream.writeLimit stream.written) :
    Fits stream.writeLimit (stream.written ++ data.take (stream.room data.length)) := by
  intro most hmost
  have hwritten := fits most hmost
  have hroom : stream.room data.length ≤ most - stream.written.length := by
    simp only [room, hmost, Option.map_some, Option.getD_some]
    omega
  simp only [List.length_append, List.length_take]
  omega

theorem writeAll_full {stream : Stream} {data : Bytes} (moves : stream.writeChunk ≠ some 0)
    (nonempty : data ≠ []) (fits : Fits stream.writeLimit stream.written)
    (h : stream.room data.length = 0) :
    capped stream.writeLimit (stream.written ++ data) = stream.written ∧
      ¬ Fits stream.writeLimit (stream.written ++ data) := by
  obtain ⟨most, hmost, hfull⟩ := limit_of_room_eq_zero moves nonempty h
  have heq : most = stream.written.length := Nat.le_antisymm hfull (fits most hmost)
  constructor
  · rw [hmost, heq, capped, List.take_left]
  · intro hfits
    have hlong := hfits most hmost
    have hdata := List.length_pos_iff.mpr nonempty
    rw [List.length_append] at hlong
    omega

/-- Writing all of some data leaves the stream with it up to the limit, and succeeds exactly if it
is within the limit. -/
theorem writeAll_eq {stream : Stream} (data : Bytes) (moves : stream.writeChunk ≠ some 0)
    (fits : Fits stream.writeLimit stream.written) :
    (stream.writeAll data).2 =
        { stream with written := capped stream.writeLimit (stream.written ++ data) } ∧
      ((stream.writeAll data).1 = .ok () ↔ Fits stream.writeLimit (stream.written ++ data)) := by
  fun_induction writeAll stream data with
  | case1 stream => simp [capped_of_fits fits, fits]
  | case2 stream data nonempty fault after h =>
    rcases write_cases stream data with ⟨hroom, hafter, _⟩ | ⟨_, hwrite⟩
    · obtain ⟨hcapped, hnot⟩ := writeAll_full moves nonempty fits hroom
      obtain rfl : after = stream := by rw [h] at hafter; exact hafter
      simp [hcapped, hnot]
    · rw [hwrite] at h
      cases h
  | case3 stream data nonempty after h =>
    rcases write_cases stream data with ⟨hroom, hafter, _⟩ | ⟨hroom, hwrite⟩
    · obtain ⟨hcapped, hnot⟩ := writeAll_full moves nonempty fits hroom
      obtain rfl : after = stream := by rw [h] at hafter; exact hafter
      simp [hcapped, hnot]
    · rw [hwrite, Prod.mk.injEq, Except.ok.injEq] at h
      omega
  | case4 stream data nonempty count after h positive ih =>
    rcases write_cases stream data with ⟨_, _, hcount⟩ | ⟨_, hwrite⟩
    · exact absurd (hcount count (by rw [h])) positive
    · rw [hwrite, Prod.mk.injEq, Except.ok.injEq] at h
      obtain ⟨rfl, rfl⟩ := h
      simpa [List.append_assoc] using ih moves (fits_of_room data fits)

end IndexSearch.Stream
