import IndexSearch.Proofs.Shard.Loading
import IndexSearch.Proofs.Text.WellFormed
import Mathlib.Algebra.Order.BigOperators.Group.List
import Mathlib.Algebra.Order.Group.Nat

/-!
# What a shard's bytes can make its reader do

The counts and lengths in a shard are whatever its bytes say. A reader that counts the items which
it completes, and is the reader of the format otherwise, shows that there is a byte for each of
them: a text takes its length and its content, a posting two numbers, and an entry what stands in
front of its last item. So it stops, with or without a shard, after no more items than there are
bytes. What a shard then holds took two bytes for each of its terms, postings and documents, apart
from its texts. Memory that is set aside ahead of the items is not counted here.
-/

namespace IndexSearch

namespace ShardEntries

def postingCount (entries : ShardEntries) : Nat :=
  (entries.terms.map fun entry => entry.2.length).sum

def textLength (entries : ShardEntries) : Nat :=
  (entries.terms.map fun entry => (Utf8.encode entry.1).length).sum +
    (entries.docs.map fun entry => (Utf8.encode entry.2).length).sum

/-- The entries of both tables with their postings and texts, of which each entry has one. -/
def itemCount (entries : ShardEntries) : Nat :=
  2 * entries.terms.length + entries.postingCount + 2 * entries.docs.length

end ShardEntries

namespace ShardFormat

variable {α β : Type}

/-- What a reader has done: the items that it completed and what came of it. -/
structure Effort (α : Type) where
  completed : Nat
  outcome : Except DecodeFault (α × Bytes)

/-- A reader that counts the items it completes, those before a failure too. -/
abbrev Counter (α : Type) := Bytes → Effort α

namespace Counter

def uncounted (item : Decoder α) : Counter α := fun bytes => ⟨0, item bytes⟩

def complete (value : α) : Counter α := fun bytes => ⟨1, .ok (value, bytes)⟩

def andThen (first : Counter α) (next : α → Counter β) : Counter β := fun bytes =>
  match (first bytes).outcome with
  | .error fault => ⟨(first bytes).completed, .error fault⟩
  | .ok (value, rest) =>
    ⟨(first bytes).completed + (next value rest).completed, (next value rest).outcome⟩

def yield (value : α) : Counter α := uncounted fun bytes => .ok (value, bytes)

end Counter

open Counter

def countText : Counter Text :=
  (uncounted readText).andThen complete

def countItems (item : Counter α) : Nat → Counter (List α)
  | 0 => yield []
  | count + 1 => item.andThen fun first => (countItems item count).andThen fun others =>
      yield (first :: others)

def countSequence (item : Counter α) : Counter (List α) :=
  (uncounted (Varint.read .w64)).andThen (countItems item)

def countPosting : Counter Posting :=
  (uncounted readPosting).andThen complete

def countTermEntry : Counter (Text × List Posting) :=
  countText.andThen fun term => (countSequence countPosting).andThen fun postings =>
    complete (term, postings)

def countDocEntry : Counter (DocId × Text) :=
  (uncounted (Varint.read .w64)).andThen fun id => countText.andThen fun name =>
    complete (UInt64.ofNat id, name)

def countEntries : Counter ShardEntries :=
  (countSequence countTermEntry).andThen fun terms =>
    (countSequence countDocEntry).andThen fun docs => yield ⟨terms, docs⟩

/-- A counting reader comes to what another reader does. -/
def Counts (counter : Counter α) (item : Decoder α) : Prop :=
  ∀ bytes, (counter bytes).outcome = item bytes

namespace Counts

theorem uncounted (item : Decoder α) : Counts (uncounted item) item :=
  fun _ => rfl

theorem complete (value : α) : Counts (complete value) fun bytes => .ok (value, bytes) :=
  fun _ => rfl

theorem yield (value : α) : Counts (yield value) fun bytes => .ok (value, bytes) :=
  fun _ => rfl

theorem andThen {first : Counter α} {next : α → Counter β} {reader : Decoder α}
    {later : α → Decoder β} (hfirst : Counts first reader)
    (hnext : ∀ value, Counts (next value) (later value)) :
    Counts (first.andThen next) (fun bytes => do
      let (value, rest) ← reader bytes
      later value rest) := by
  intro bytes
  dsimp only [Counter.andThen]
  rw [hfirst]
  cases reader bytes with
  | error fault => rfl
  | ok found => exact hnext found.1 found.2

theorem completed (item : Decoder α) :
    Counts ((Counter.uncounted item).andThen Counter.complete) item := by
  intro bytes
  dsimp only [Counter.andThen, Counter.uncounted]
  cases item bytes <;> rfl

end Counts

theorem counts_text : Counts countText readText :=
  .completed readText

theorem counts_items {counter : Counter α} {item : Decoder α} (hitem : Counts counter item)
    (count : Nat) : Counts (countItems counter count) (readItems item count) := by
  induction count with
  | zero => exact .yield []
  | succ count ih =>
    exact hitem.andThen fun first => ih.andThen fun others => .yield (first :: others)

theorem counts_sequence {counter : Counter α} {item : Decoder α} (hitem : Counts counter item) :
    Counts (countSequence counter) (readSequence item) :=
  (Counts.uncounted _).andThen (counts_items hitem)

theorem counts_posting : Counts countPosting readPosting :=
  .completed readPosting

theorem counts_termEntry : Counts countTermEntry readTermEntry :=
  counts_text.andThen fun term => (counts_sequence counts_posting).andThen fun postings =>
    .complete (term, postings)

theorem counts_docEntry : Counts countDocEntry readDocEntry :=
  (Counts.uncounted _).andThen fun id => counts_text.andThen fun name =>
    .complete (UInt64.ofNat id, name)

theorem counts_entries : Counts countEntries readEntries :=
  (counts_sequence counts_termEntry).andThen fun terms =>
    (counts_sequence counts_docEntry).andThen fun docs =>
      .yield (ShardEntries.mk terms docs)

/-- Where a reader stands: the items completed so far, and the bytes read so far that are in excess
of them. -/
structure Account where
  done : Nat
  spare : Nat

/-- A reader that starts at one account has a byte, read or left over, for each item that it
completes, and comes to the other account if it succeeds. -/
structure Affords (counter : Counter α) (start : Account) (finish : α → Account) : Prop where
  bounded : ∀ bytes, (counter bytes).completed ≤ bytes.length + start.spare
  reaches : ∀ bytes value rest, (counter bytes).outcome = .ok (value, rest) →
    (finish value).done = start.done + (counter bytes).completed ∧
    (counter bytes).completed + rest.length + (finish value).spare ≤ bytes.length + start.spare

namespace Affords

theorem uncounted {item : Decoder α} {size : α → Nat}
    (takes : ∀ bytes value rest, item bytes = .ok (value, rest) →
      rest.length + size value ≤ bytes.length) :
    Affords (uncounted item) ⟨0, 0⟩ fun value => ⟨0, size value⟩ := by
  refine ⟨fun bytes => Nat.zero_le _, fun bytes value rest hread => ⟨rfl, ?_⟩⟩
  have := takes bytes value rest hread
  simp only [Counter.uncounted]
  omega

section Value

variable {value : α} {start : Account} {finish : α → Account}

theorem complete (done : (finish value).done = start.done + 1)
    (spare : (finish value).spare + 1 ≤ start.spare) : Affords (complete value) start finish := by
  refine ⟨fun bytes => ?_, fun bytes result rest hread => ?_⟩
  · simp only [Counter.complete]
    omega
  · cases hread
    exact ⟨done, by simp only [Counter.complete]; omega⟩

theorem yield (done : (finish value).done = start.done)
    (spare : (finish value).spare ≤ start.spare) : Affords (yield value) start finish := by
  refine ⟨fun bytes => Nat.zero_le _, fun bytes result rest hread => ?_⟩
  cases hread
  exact ⟨done, by simp only [Counter.yield, Counter.uncounted]; omega⟩

end Value

/-- What was there before stays there. -/
theorem frame {counter : Counter α} {finish : α → Account}
    (h : Affords counter ⟨0, 0⟩ finish) (start : Account) :
    Affords counter start fun value =>
      ⟨(finish value).done + start.done, (finish value).spare + start.spare⟩ := by
  refine ⟨fun bytes => ?_, fun bytes value rest hread => ?_⟩
  · have := h.bounded bytes
    dsimp only at this
    omega
  · obtain ⟨hdone, hspare⟩ := h.reaches bytes value rest hread
    dsimp only at hdone hspare ⊢
    omega

theorem andThen {first : Counter α} {next : α → Counter β} {start : Account}
    {middle : α → Account} {finish : β → Account} (hfirst : Affords first start middle)
    (hnext : ∀ value, Affords (next value) (middle value) finish) :
    Affords (first.andThen next) start finish := by
  refine ⟨fun bytes => ?_, fun bytes result rest hread => ?_⟩
  · have hbounded := hfirst.bounded bytes
    rw [Counter.andThen]
    split
    · exact hbounded
    · rename_i value middleBytes hmiddle
      -- The second reader is paid from what the first one left, unread or uncharged.
      have hlater := (hnext value).bounded middleBytes
      obtain ⟨_, hspare⟩ := hfirst.reaches bytes value middleBytes hmiddle
      dsimp only
      omega
  · rw [Counter.andThen] at hread ⊢
    split at hread
    · cases hread
    · rename_i value middleBytes hmiddle
      obtain ⟨hdone, hspare⟩ := hfirst.reaches bytes value middleBytes hmiddle
      obtain ⟨hlaterDone, hlaterSpare⟩ := (hnext value).reaches middleBytes result rest hread
      dsimp only
      omega

end Affords

theorem length_lt_of_readText {bytes rest : Bytes} {text : Text}
    (h : readText bytes = .ok (text, rest)) :
    rest.length + (Utf8.encode text).length < bytes.length := by
  obtain ⟨⟨count, middle⟩, hcount, h⟩ := exists_of_bind_eq_ok h
  have hnumber := Varint.length_lt_of_read hcount
  dsimp only [readBytes] at h
  by_cases enough : count ≤ middle.length
  · rw [if_pos enough] at h
    dsimp only [bind, Except.bind] at h
    split at h
    · rename_i hdecode
      cases h
      rw [← Utf8.decode?_eq_some_iff.mp hdecode, List.length_take, List.length_drop]
      omega
    · cases h
  · rw [if_neg enough] at h
    cases h

theorem length_lt_of_readPosting {bytes rest : Bytes} {posting : Posting}
    (h : readPosting bytes = .ok (posting, rest)) : rest.length + 2 ≤ bytes.length := by
  obtain ⟨⟨id, middle⟩, hid, h⟩ := exists_of_bind_eq_ok h
  obtain ⟨⟨frequency, left⟩, hfrequency, h⟩ := exists_of_bind_eq_ok h
  cases h
  have hfirst := Varint.length_lt_of_read hid
  have hsecond := Varint.length_lt_of_read hfrequency
  omega

theorem affords_read (width : Width) :
    Affords (uncounted (Varint.read width)) ⟨0, 0⟩ fun _ => ⟨0, 1⟩ :=
  .uncounted fun _ _ _ => Varint.length_lt_of_read

theorem affords_text :
    Affords countText ⟨0, 0⟩ fun text => ⟨1, (Utf8.encode text).length⟩ :=
  (Affords.uncounted fun _ _ _ => length_lt_of_readText).andThen fun _ =>
    .complete rfl (Nat.le_refl _)

theorem affords_posting : Affords countPosting ⟨0, 0⟩ fun _ => ⟨1, 1⟩ :=
  (Affords.uncounted fun _ _ _ => length_lt_of_readPosting).andThen fun _ =>
    .complete rfl (Nat.le_refl _)

section Sequence

variable {item : Counter α} {finish : α → Account} (hitem : Affords item ⟨0, 0⟩ finish)

include hitem

/-- Whatever their number is, the items are paid for one by one. -/
theorem affords_items (count : Nat) :
    Affords (countItems item count) ⟨0, 0⟩ fun values =>
      ⟨(values.map fun value => (finish value).done).sum,
        (values.map fun value => (finish value).spare).sum⟩ := by
  induction count with
  | zero => exact .yield rfl (Nat.le_refl _)
  | succ count ih =>
    refine hitem.andThen fun first => (ih.frame _).andThen fun others => .yield ?_ ?_
    · rw [List.map_cons, List.sum_cons, Nat.add_comm]
    · simp only [List.map_cons, List.sum_cons]
      omega

theorem affords_sequence :
    Affords (countSequence item) ⟨0, 0⟩ fun values =>
      ⟨(values.map fun value => (finish value).done).sum,
        (values.map fun value => (finish value).spare).sum + 1⟩ :=
  (affords_read .w64).andThen fun count => (affords_items hitem count).frame _

end Sequence

theorem affords_termEntry :
    Affords countTermEntry ⟨0, 0⟩ fun entry =>
      ⟨entry.2.length + 2, entry.2.length + (Utf8.encode entry.1).length⟩ := by
  refine affords_text.andThen fun term =>
    ((affords_sequence affords_posting).frame _).andThen fun postings => .complete ?_ ?_
  · simp
  · simp only [List.map_const', List.sum_replicate_nat, Nat.mul_one]
    omega

theorem affords_docEntry :
    Affords countDocEntry ⟨0, 0⟩ fun entry => ⟨2, (Utf8.encode entry.2).length⟩ :=
  (affords_read .w64).andThen fun _ => (affords_text.frame _).andThen fun _ =>
    .complete rfl (Nat.le_refl _)

theorem affords_entries :
    Affords countEntries ⟨0, 0⟩ fun entries =>
      ⟨entries.itemCount, entries.postingCount + entries.textLength + 2⟩ := by
  refine (affords_sequence affords_termEntry).andThen fun terms =>
    ((affords_sequence affords_docEntry).frame _).andThen fun docs => .yield ?_ ?_
  · simp only [ShardEntries.itemCount, ShardEntries.postingCount, List.sum_map_add,
      List.map_const', List.sum_replicate_nat]
    omega
  · simp only [ShardEntries.textLength, ShardEntries.postingCount, List.sum_map_add]
    omega

/-- Sums over what a table keeps are not larger than over all that was written. -/
theorem sum_map_le_of_sublist_reverse {kept written : List α} (h : kept.Sublist written.reverse)
    (size : α → Nat) : (kept.map size).sum ≤ (written.map size).sum := by
  have hle := (h.map size).sum_le_sum fun _ _ => Nat.zero_le _
  rwa [List.map_reverse, List.sum_reverse] at hle

/-- Entries whose key is repeated take their bytes, but no place in the shard. -/
theorem size_ofEntries_le (entries : ShardEntries) :
    2 * ((Shard.ofEntries entries).termCount + (Shard.ofEntries entries).entries.postingCount +
      (Shard.ofEntries entries).documentCount) + (Shard.ofEntries entries).entries.textLength ≤
    entries.itemCount + entries.postingCount + entries.textLength := by
  have hterms := Table.entries_ofList_sublist entries.terms
  have hdocs := Table.entries_ofList_sublist entries.docs
  have htermCount := hterms.length_le
  have hdocCount := hdocs.length_le
  have hpostings := sum_map_le_of_sublist_reverse hterms fun entry => entry.2.length
  have htermText := sum_map_le_of_sublist_reverse hterms fun entry => (Utf8.encode entry.1).length
  have hdocText := sum_map_le_of_sublist_reverse hdocs fun entry => (Utf8.encode entry.2).length
  rw [List.length_reverse] at htermCount hdocCount
  simp only [Shard.ofEntries, Shard.termCount, Shard.documentCount, Shard.entries, Table.size,
    ShardEntries.itemCount, ShardEntries.postingCount, ShardEntries.textLength]
  omega

/-- Whatever bytes a shard is read from, the reader stops after no more entries, postings and texts
than there are bytes. If it comes to a shard, it has read each of its terms, postings and documents
from two bytes apart from their texts, and the texts from bytes of their own. -/
theorem decode_effort (bytes : Bytes) :
    (countEntries bytes).outcome = readEntries bytes ∧
    (countEntries bytes).completed ≤ bytes.length ∧
    (∀ entries rest, readEntries bytes = .ok (entries, rest) →
      (countEntries bytes).completed = entries.itemCount) ∧
    ∀ shard, decode bytes = .ok shard →
      2 * (shard.termCount + shard.entries.postingCount + shard.documentCount) + 2 +
        shard.entries.textLength ≤ bytes.length := by
  have houtcome := counts_entries bytes
  have hreaches := affords_entries.reaches bytes
  rw [houtcome] at hreaches
  refine ⟨houtcome, affords_entries.bounded bytes, ?_, ?_⟩
  · intro entries rest hread
    obtain ⟨hdone, -⟩ := hreaches entries rest hread
    dsimp only at hdone
    omega
  · intro shard hdecode
    obtain ⟨⟨entries, rest⟩, hread, hshard⟩ := exists_of_bind_eq_ok hdecode
    cases hshard
    obtain ⟨hdone, hspare⟩ := hreaches entries rest hread
    have hsize := size_ofEntries_le entries
    dsimp only at hdone hspare
    omega

/-- A count of 2^64 - 1 terms, of which one is there, is given up after that one. Of three terms
two are kept. -/
theorem decode_effort_forged :
    (countEntries (List.replicate 9 255 ++ [1, 0, 0])).completed = 2 ∧
    ∃ shard, decode (encode .replaced) = .ok shard ∧ shard.termCount = 2 ∧
      2 * (shard.termCount + shard.entries.postingCount + shard.documentCount) + 2 +
        shard.entries.textLength ≤ (encode .replaced).length := by
  obtain ⟨-, -, -, hsizes⟩ := decode_effort (encode .replaced)
  have hdecode : decode (encode .replaced) = .ok (Shard.ofEntries .replaced) :=
    decode_encode_whole (by cbv)
  exact ⟨by decide, _, hdecode, by decide, hsizes _ hdecode⟩

end ShardFormat

end IndexSearch
