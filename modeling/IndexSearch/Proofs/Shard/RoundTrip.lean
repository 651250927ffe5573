import IndexSearch.Proofs.Shard.Varint
import IndexSearch.Proofs.Text.Encoding
import IndexSearch.Shard.Encoding

/-!
# Reading back what was written

Each reader of the shard format undoes the writer of the same item: from the bytes of a value it
reads that value and stops where they end, whatever follows. A value is taken to be written in
fewer than 2^64 bytes, since no count or length that goes with it is larger then.
-/

namespace IndexSearch

namespace ShardFormat

/-- A reader undoes a writer. -/
def Undoes {α : Type} (item : Decoder α) (write : α → Bytes) : Prop :=
  ∀ value rest, (write value).length < UInt64.size →
    item (write value ++ rest) = .ok (value, rest)

theorem readBytes_append (content rest : Bytes) :
    readBytes content.length (content ++ rest) = .ok (content, rest) := by
  simp [readBytes]

theorem readText_encodeText : Undoes readText encodeText := by
  intro text rest short
  rw [encodeText, List.length_append] at short
  have hcount : (Utf8.encode text).length < Width.w64.bound := by
    rw [Width.bound]
    omega
  simp [readText, encodeText, List.append_assoc, Varint.read_encode hcount, readBytes_append,
    Utf8.decode?_encode, bind, Except.bind]

theorem readPosting_encodePosting : Undoes readPosting encodePosting := by
  intro posting rest _
  have hid : posting.docId.toNat < Width.w64.bound := posting.docId.toNat_lt_size
  have hfrequency : posting.frequency.toNat < Width.w32.bound := posting.frequency.toNat_lt_size
  simp [readPosting, encodePosting, List.append_assoc, Varint.read_encode hid,
    Varint.read_encode hfrequency, bind, Except.bind]

theorem readDocEntry_encodeDocEntry : Undoes readDocEntry encodeDocEntry := by
  rintro ⟨id, name⟩ rest short
  simp only [encodeDocEntry, List.length_append] at short
  have hid : id.toNat < Width.w64.bound := id.toNat_lt_size
  have hname := readText_encodeText name rest (by omega)
  simp [readDocEntry, encodeDocEntry, List.append_assoc, Varint.read_encode hid, hname, bind,
    Except.bind]

section Sequence

variable {α : Type} {item : Decoder α} {write : α → Bytes}

theorem readItems_flatMap (undoes : Undoes item write) (items : List α) (rest : Bytes)
    (short : (items.flatMap write).length < UInt64.size) :
    readItems item items.length (items.flatMap write ++ rest) = .ok (items, rest) := by
  induction items with
  | nil => rfl
  | cons value items ih =>
    rw [List.flatMap_cons, List.length_append] at short
    have hvalue := undoes value (items.flatMap write ++ rest) (by omega)
    have hitems := ih (by omega)
    simp [readItems, List.append_assoc, hvalue, hitems, bind, Except.bind]

theorem length_le_length_flatMap (nonempty : ∀ value, write value ≠ []) (items : List α) :
    items.length ≤ (items.flatMap write).length := by
  induction items with
  | nil => exact Nat.le_refl 0
  | cons value items ih =>
    have hvalue := List.length_pos_iff.mpr (nonempty value)
    rw [List.flatMap_cons, List.length_append, List.length_cons]
    omega

/-- Items that take a byte each are not more than can be counted. -/
theorem readSequence_encodeSequence (undoes : Undoes item write)
    (nonempty : ∀ value, write value ≠ []) :
    Undoes (readSequence item) (encodeSequence write) := by
  intro items rest short
  rw [encodeSequence, List.length_append] at short
  have hitems := readItems_flatMap undoes items rest (by omega)
  have hlength := length_le_length_flatMap nonempty items
  have hcount : items.length < Width.w64.bound := by
    rw [Width.bound]
    omega
  simp [readSequence, encodeSequence, List.append_assoc, Varint.read_encode hcount, hitems, bind,
    Except.bind]

end Sequence

theorem encodePosting_ne_nil (posting : Posting) : encodePosting posting ≠ [] :=
  List.append_ne_nil_of_left_ne_nil (Varint.encode_ne_nil _) _

theorem encodeText_ne_nil (text : Text) : encodeText text ≠ [] :=
  List.append_ne_nil_of_left_ne_nil (Varint.encode_ne_nil _) _

theorem encodeTermEntry_ne_nil (entry : Text × List Posting) : encodeTermEntry entry ≠ [] :=
  List.append_ne_nil_of_left_ne_nil (encodeText_ne_nil _) _

theorem encodeDocEntry_ne_nil (entry : DocId × Text) : encodeDocEntry entry ≠ [] :=
  List.append_ne_nil_of_left_ne_nil (Varint.encode_ne_nil _) _

theorem readTermEntry_encodeTermEntry : Undoes readTermEntry encodeTermEntry := by
  rintro ⟨term, postings⟩ rest short
  simp only [encodeTermEntry, List.length_append] at short
  have hterm := readText_encodeText term (encodeSequence encodePosting postings ++ rest) (by omega)
  have hpostings := readSequence_encodeSequence readPosting_encodePosting encodePosting_ne_nil
    postings rest (by omega)
  simp [readTermEntry, encodeTermEntry, List.append_assoc, hterm, hpostings, bind, Except.bind]

/-- The second table begins where the first one ends. -/
theorem readEntries_encode : Undoes readEntries encode := by
  rintro ⟨terms, docs⟩ rest short
  simp only [encode, List.length_append] at short
  have hterms := readSequence_encodeSequence readTermEntry_encodeTermEntry encodeTermEntry_ne_nil
    terms (encodeSequence encodeDocEntry docs ++ rest) (by omega)
  have hdocs := readSequence_encodeSequence readDocEntry_encodeDocEntry encodeDocEntry_ne_nil
    docs rest (by omega)
  simp [readEntries, encode, List.append_assoc, hterms, hdocs, bind, Except.bind]

theorem decode_encode {entries : ShardEntries} (short : (encode entries).length < UInt64.size)
    (trailing : Bytes) : decode (encode entries ++ trailing) = .ok (Shard.ofEntries entries) := by
  simp [decode, readEntries_encode entries trailing short, bind, Except.bind]

theorem decode_encode_whole {entries : ShardEntries}
    (short : (encode entries).length < UInt64.size) :
    decode (encode entries) = .ok (Shard.ofEntries entries) := by
  have hwhole := decode_encode short []
  rwa [List.append_nil] at hwhole

end ShardFormat

end IndexSearch
