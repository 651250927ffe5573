import IndexSearch.Proofs.Shard.Loading

/-!
# Shard bytes that end too early

A reader of the shard format looks at no byte behind those that it takes. So what it makes of some
bytes stands whatever follows them, unless they ended too early for it. Of a shard that is cut
anywhere before its end nothing else can be made, since the whole of it reads back as that shard.
Nothing is said here about bytes in which something was changed and not cut off.
-/

namespace IndexSearch.ShardFormat

variable {α β : Type}

/-- What was read, with more bytes behind what is left. -/
def followedBy (more : Bytes) (found : α × Bytes) : α × Bytes :=
  (found.1, found.2 ++ more)

/-- Bytes behind those that were read make no difference, unless these ended too early. -/
def Definitive (item : Decoder α) : Prop :=
  ∀ bytes more, item bytes = .error .endOfBuffer ∨
    item (bytes ++ more) = (item bytes).map (followedBy more)

namespace Definitive

theorem of_unread (outcome : Except DecodeFault α) :
    Definitive fun bytes => outcome.map (·, bytes) := by
  intro bytes more
  cases outcome <;> exact Or.inr rfl

theorem bind {first : Decoder α} {next : α → Decoder β} (hfirst : Definitive first)
    (hnext : ∀ value, Definitive (next value)) :
    Definitive (fun bytes => do
      let (value, rest) ← first bytes
      next value rest) := by
  intro bytes more
  dsimp only
  rcases hfirst bytes more with early | hmore
  · left
    rw [early]
    rfl
  · cases hread : first bytes with
    | error fault =>
      right
      rw [hmore, hread]
      rfl
    | ok found =>
      rw [hmore, hread]
      exact hnext found.1 found.2 more

end Definitive

/-- Whether a number goes on is seen from the byte that was read and not from the next one. -/
theorem definitive_readWithin (last left : Nat) : Definitive (Varint.readWithin last left) := by
  intro bytes more
  induction left generalizing bytes with
  | zero => exact Or.inr rfl
  | succ left ih =>
    cases bytes with
    | nil => exact Or.inl rfl
    | cons b bytes =>
      rw [List.cons_append, Varint.readWithin, Varint.readWithin]
      by_cases low : b.toNat < 128
      · right
        rw [if_pos low, if_pos low]
        split <;> rfl
      · rw [if_neg low, if_neg low]
        rcases ih bytes with early | hmore
        · left
          rw [early]
        · right
          rw [hmore]
          cases Varint.readWithin last left bytes <;> rfl

theorem definitive_read (width : Width) : Definitive (Varint.read width) :=
  definitive_readWithin width.lastByte width.maxBytes

/-- The length is looked at before the content. -/
theorem definitive_readBytes (count : Nat) : Definitive (readBytes count) := by
  intro bytes more
  by_cases enough : count ≤ bytes.length
  · right
    have hmore : count ≤ (bytes ++ more).length := by
      rw [List.length_append]
      omega
    rw [readBytes, readBytes, if_pos enough, if_pos hmore,
      List.take_append_of_le_length enough, List.drop_append_of_le_length enough]
    rfl
  · left
    rw [readBytes, if_neg enough]

def textOf (content : Bytes) : Except DecodeFault Text :=
  (Utf8.decode? content).elim (.error .badText) .ok

/-- The content of a text is checked once all of it was read, and nothing else is looked at then. -/
theorem readText_eq (bytes : Bytes) : readText bytes = (do
    let (count, rest) ← Varint.read .w64 bytes
    let (content, rest) ← readBytes count rest
    (textOf content).map (·, rest)) := by
  rw [readText]
  cases Varint.read .w64 bytes with
  | error fault => rfl
  | ok counted =>
    dsimp only [bind, Except.bind]
    cases readBytes counted.1 counted.2 with
    | error fault => rfl
    | ok found =>
      dsimp only [textOf]
      cases Utf8.decode? found.1 <;> rfl

theorem definitive_readText : Definitive readText := by
  rw [funext readText_eq]
  exact (definitive_read .w64).bind fun count => (definitive_readBytes count).bind fun content =>
    .of_unread (textOf content)

section Sequence

variable {item : Decoder α} (hitem : Definitive item)

include hitem

theorem definitive_readItems (count : Nat) : Definitive (readItems item count) := by
  induction count with
  | zero => exact .of_unread (.ok [])
  | succ count ih =>
    exact hitem.bind fun first => ih.bind fun others => .of_unread (.ok (first :: others))

theorem definitive_readSequence : Definitive (readSequence item) :=
  (definitive_read .w64).bind (definitive_readItems hitem)

end Sequence

theorem definitive_readPosting : Definitive readPosting :=
  (definitive_read .w64).bind fun id => (definitive_read .w32).bind fun frequency =>
    .of_unread (.ok (Posting.mk (UInt64.ofNat id) (UInt32.ofNat frequency)))

theorem definitive_readTermEntry : Definitive readTermEntry :=
  definitive_readText.bind fun term =>
    (definitive_readSequence definitive_readPosting).bind fun postings =>
      .of_unread (.ok (term, postings))

theorem definitive_readDocEntry : Definitive readDocEntry :=
  (definitive_read .w64).bind fun id => definitive_readText.bind fun name =>
    .of_unread (.ok (UInt64.ofNat id, name))

theorem definitive_readEntries : Definitive readEntries :=
  (definitive_readSequence definitive_readTermEntry).bind fun terms =>
    (definitive_readSequence definitive_readDocEntry).bind fun docs =>
      .of_unread (.ok (ShardEntries.mk terms docs))

/-- What is made of some bytes stands, unless they end too early. -/
theorem decode_append {bytes : Bytes} (complete : decode bytes ≠ .error .endOfBuffer)
    (more : Bytes) : decode (bytes ++ more) = decode bytes := by
  rcases definitive_readEntries bytes more with early | hmore
  · refine absurd ?_ complete
    rw [decode, early]
    rfl
  · rw [decode, decode, hmore]
    cases readEntries bytes <;> rfl

/-- Entries that were cut off are not read as anything: what is read of some bytes is read of them
with the missing ones too, and would leave these unread. -/
theorem readEntries_cut {entries : ShardEntries} (short : (encode entries).length < UInt64.size)
    {front missing : Bytes} (cut : front ++ missing = encode entries) (proper : missing ≠ []) :
    readEntries front = .error .endOfBuffer := by
  have hwhole : readEntries (front ++ missing) = .ok (entries, []) := by
    rw [cut, ← List.append_nil (encode entries)]
    exact readEntries_encode entries [] short
  rcases definitive_readEntries front missing with early | hmore
  · exact early
  · rw [hwhole] at hmore
    cases hread : readEntries front with
    | error fault =>
      rw [hread] at hmore
      cases hmore
    | ok found =>
      rw [hread] at hmore
      have hrest : [] = found.2 ++ missing := congrArg Prod.snd (Except.ok.inj hmore)
      exact absurd (List.append_eq_nil_iff.mp hrest.symm).2 proper

/-- What is made of some bytes is final: a shard, or a fault other than that they end too early, is
also what they give with any more bytes. The bytes of a shard, with its entries in any order, give
that shard, and end too early wherever they are cut. They are taken to be fewer than 2^64, as all
that a machine can hold are. -/
theorem decode_definitive :
    (∀ bytes, decode bytes ≠ .error .endOfBuffer →
      ∀ more, decode (bytes ++ more) = decode bytes) ∧
    ∀ entries : ShardEntries, (encode entries).length < UInt64.size →
      decode (encode entries) = .ok (Shard.ofEntries entries) ∧
        ∀ front, front <+: encode entries → front ≠ encode entries →
          decode front = .error .endOfBuffer := by
  constructor
  · intro bytes complete more
    exact decode_append complete more
  · intro entries short
    refine ⟨decode_encode_whole short, ?_⟩
    rintro front ⟨missing, cut⟩ proper
    have hmissing : missing ≠ [] := by
      rintro rfl
      exact proper (by rw [← cut, List.append_nil])
    rw [decode, readEntries_cut short cut hmissing]
    rfl

/-- A number that does not end within its ten bytes is a fault whatever follows. A shard ends too
early at every cut, be it inside of a number or of a character. -/
theorem decode_definitive_cuts :
    (∀ more, decode (List.replicate 10 255 ++ more) = .error .badVarint) ∧
      decode (encode .reordered) = .ok (Shard.ofEntries .reordered) ∧
      ∀ count < (encode .reordered).length,
        decode ((encode .reordered).take count) = .error .endOfBuffer := by
  obtain ⟨hfinal, hshards⟩ := decode_definitive
  obtain ⟨hwhole, hcut⟩ := hshards .reordered (by cbv)
  have hbad : decode (List.replicate 10 255) = .error .badVarint := by decide
  refine ⟨fun more => ?_, hwhole, fun count hcount => ?_⟩
  · rw [hfinal _ (by rw [hbad]; decide) more, hbad]
  · refine hcut _ (List.take_prefix _ _) fun heq => ?_
    have hlength := congrArg List.length heq
    rw [List.length_take] at hlength
    omega

end IndexSearch.ShardFormat
