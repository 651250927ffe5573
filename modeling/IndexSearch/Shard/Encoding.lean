import IndexSearch.Shard.Basic
import IndexSearch.Shard.Varint
import IndexSearch.Text.Utf8

/-!
# The shard format

A shard is written as the sequence of its term entries and then the sequence of its document
entries. A sequence is a count followed by its items, a text is a byte length followed by UTF-8,
and all numbers are of variable length. Bytes after the last entry are ignored.
-/

namespace IndexSearch.ShardFormat

/-- Reads a value from the front of the bytes and returns it with the bytes after it. -/
abbrev Decoder (α : Type) := Bytes → Except DecodeFault (α × Bytes)

def readBytes (count : Nat) : Decoder Bytes := fun bytes =>
  if count ≤ bytes.length then .ok (bytes.take count, bytes.drop count)
  else .error .endOfBuffer

def readText : Decoder Text := fun bytes => do
  let (count, bytes) ← Varint.read .w64 bytes
  let (content, bytes) ← readBytes count bytes
  match Utf8.decode? content with
  | some text => .ok (text, bytes)
  | none => .error .badText

def readItems {α : Type} (item : Decoder α) : Nat → Decoder (List α)
  | 0, bytes => .ok ([], bytes)
  | count + 1, bytes => do
    let (first, bytes) ← item bytes
    let (others, bytes) ← readItems item count bytes
    .ok (first :: others, bytes)

def readSequence {α : Type} (item : Decoder α) : Decoder (List α) := fun bytes => do
  let (count, bytes) ← Varint.read .w64 bytes
  readItems item count bytes

def readPosting : Decoder Posting := fun bytes => do
  let (id, bytes) ← Varint.read .w64 bytes
  let (frequency, bytes) ← Varint.read .w32 bytes
  .ok (⟨UInt64.ofNat id, UInt32.ofNat frequency⟩, bytes)

def readTermEntry : Decoder (Text × List Posting) := fun bytes => do
  let (term, bytes) ← readText bytes
  let (postings, bytes) ← readSequence readPosting bytes
  .ok ((term, postings), bytes)

def readDocEntry : Decoder (DocId × Text) := fun bytes => do
  let (id, bytes) ← Varint.read .w64 bytes
  let (name, bytes) ← readText bytes
  .ok ((UInt64.ofNat id, name), bytes)

def readEntries : Decoder ShardEntries := fun bytes => do
  let (terms, bytes) ← readSequence readTermEntry bytes
  let (docs, bytes) ← readSequence readDocEntry bytes
  .ok (⟨terms, docs⟩, bytes)

def decode (bytes : Bytes) : Except DecodeFault Shard := do
  let (entries, _) ← readEntries bytes
  .ok (Shard.ofEntries entries)

def encodeText (text : Text) : Bytes :=
  Varint.encode (Utf8.encode text).length ++ Utf8.encode text

def encodeSequence {α : Type} (item : α → Bytes) (items : List α) : Bytes :=
  Varint.encode items.length ++ items.flatMap item

def encodePosting (posting : Posting) : Bytes :=
  Varint.encode posting.docId.toNat ++ Varint.encode posting.frequency.toNat

def encodeTermEntry (entry : Text × List Posting) : Bytes :=
  encodeText entry.1 ++ encodeSequence encodePosting entry.2

def encodeDocEntry (entry : DocId × Text) : Bytes :=
  Varint.encode entry.1.toNat ++ encodeText entry.2

def encode (entries : ShardEntries) : Bytes :=
  encodeSequence encodeTermEntry entries.terms ++ encodeSequence encodeDocEntry entries.docs

end IndexSearch.ShardFormat
