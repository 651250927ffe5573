import IndexSearch.Proofs.Url.Percent

/-!
# Spellings

Bytes are spelled in an alphabet: its plain characters may be written for the bytes that they are
read as, and any byte may have a percent form with digits of either case. Whatever the choices,
reading gives the bytes back. Names in paths and values in forms have alphabets of their own, which
are not fixed here.
-/

namespace IndexSearch.Percent

/-- The characters that are written plainly, and what a reader makes of single bytes before it
decodes the percent forms. It leaves those alone, and no plain character becomes a percent sign. -/
structure Alphabet where
  isPlain : Char → Bool
  read : UInt8 → UInt8
  ascii : ∀ {c}, isPlain c = true → c.toNat < 128
  signless : ∀ {c}, isPlain c = true → read (UInt8.ofNat c.toNat) ≠ 37
  read_sign : read 37 = 37
  read_digit : ∀ {c : Char}, c.isAlphanum = true →
    read (UInt8.ofNat c.toNat) = UInt8.ofNat c.toNat

namespace Alphabet

/-- The spellings of some bytes. -/
inductive Spells (alphabet : Alphabet) : Bytes → Text → Prop where
  | nil : Spells alphabet [] []
  | plain {bytes : Bytes} {text : Text} {c : Char} (plain : alphabet.isPlain c = true)
      (rest : Spells alphabet bytes text) :
      Spells alphabet (alphabet.read (UInt8.ofNat c.toNat) :: bytes) (c :: text)
  | form {bytes : Bytes} {text : Text} {high low : Char} {highValue lowValue : Nat}
      (highDigit : Numeral.digitValue? 16 high = some highValue)
      (lowDigit : Numeral.digitValue? 16 low = some lowValue)
      (rest : Spells alphabet bytes text) :
      Spells alphabet (UInt8.ofNat (16 * highValue + lowValue) :: bytes)
        ('%' :: high :: low :: text)

def isWritten (alphabet : Alphabet) (c : Char) : Bool :=
  alphabet.isPlain c || c.isAlphanum || c == '%'

variable {alphabet : Alphabet} {bytes : Bytes} {text : Text}

theorem ascii_of_isWritten {c : Char} (h : alphabet.isWritten c = true) : c.toNat < 128 := by
  rw [isWritten, Bool.or_eq_true, Bool.or_eq_true, beq_iff_eq] at h
  rcases h with (hplain | halnum) | rfl
  · exact alphabet.ascii hplain
  · exact ascii_of_isAlphanum halnum
  · decide

theorem Spells.isWritten (h : alphabet.Spells bytes text) :
    ∀ c ∈ text, alphabet.isWritten c = true := by
  have hdigit : ∀ {c : Char} {n : Nat}, Numeral.digitValue? 16 c = some n →
      alphabet.isWritten c = true := by
    intro c n hc
    simp [Alphabet.isWritten, isAlphanum_of_digitValue? hc]
  induction h with
  | nil => exact fun _ hc => by cases hc
  | plain plain _ ih =>
    exact List.forall_mem_cons.mpr ⟨by simp [Alphabet.isWritten, plain], ih⟩
  | form highDigit lowDigit _ ih =>
    have hsign : alphabet.isWritten '%' = true := by simp [Alphabet.isWritten]
    exact List.forall_mem_cons.mpr ⟨hsign, List.forall_mem_cons.mpr ⟨hdigit highDigit,
      List.forall_mem_cons.mpr ⟨hdigit lowDigit, ih⟩⟩⟩

/-- What holds of all ASCII characters that a spelling may contain holds of those it contains. -/
theorem Spells.forall_mem (h : alphabet.Spells bytes text) {motive : Char → Prop}
    (checked : ∀ n < 128, alphabet.isWritten (Char.ofNat n) = true → motive (Char.ofNat n)) :
    ∀ c ∈ text, motive c := by
  intro c hc
  have hwritten := h.isWritten c hc
  exact forall_ascii (motive := fun c => alphabet.isWritten c = true → motive c) checked
    (ascii_of_isWritten hwritten) hwritten

/-- Reading a spelling gives the bytes that it spells. -/
theorem Spells.decode_map (h : alphabet.Spells bytes text) :
    decode ((Utf8.encode text).map alphabet.read) = bytes := by
  induction h with
  | nil => rfl
  | plain plain _ ih =>
    rw [Utf8.encode_cons_ascii (alphabet.ascii plain), List.map_cons,
      decode_cons_of_ne (alphabet.signless plain), ih]
  | form highDigit lowDigit _ ih =>
    have hhigh := isAlphanum_of_digitValue? highDigit
    have hlow := isAlphanum_of_digitValue? lowDigit
    have hsign : UInt8.ofNat '%'.toNat = 37 := by decide
    rw [Utf8.encode_cons_ascii (by decide), Utf8.encode_cons_ascii (ascii_of_isAlphanum hhigh),
      Utf8.encode_cons_ascii (ascii_of_isAlphanum hlow), List.map_cons, List.map_cons,
      List.map_cons, hsign, alphabet.read_sign, alphabet.read_digit hhigh,
      alphabet.read_digit hlow, decode_form highDigit lowDigit, ih]

theorem Spells.encodeBytes_append (h : alphabet.Spells bytes text) (front : Bytes) :
    alphabet.Spells (front ++ bytes) (front.flatMap encodeByte ++ text) := by
  induction front with
  | nil => exact h
  | cons b front ih =>
    have hform := Spells.form (digitValue?_byte b).1 (digitValue?_byte b).2 ih
    rwa [byte_of_digits] at hform

/-- A text is spelled where it is encoded with a set that leaves out only plain characters which
are read as themselves. -/
theorem spells_encode {set : Char → Bool}
    (plain : ∀ c, set c = false →
      alphabet.isPlain c = true ∧ alphabet.read (UInt8.ofNat c.toNat) = UInt8.ofNat c.toNat)
    (text : Text) : alphabet.Spells (Utf8.encode text) (encode set text) := by
  induction text with
  | nil => exact .nil
  | cons c text ih =>
    cases hset : set c with
    | true =>
      rw [encode_cons_of_mem hset, Utf8.encode_cons]
      exact ih.encodeBytes_append _
    | false =>
      obtain ⟨hplain, hread⟩ := plain c hset
      rw [encode_cons_of_clear hset, Utf8.encode_cons_ascii (alphabet.ascii hplain), ← hread]
      exact .plain hplain ih

end Alphabet

end IndexSearch.Percent
