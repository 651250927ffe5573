import IndexSearch.Shard.Varint
import Mathlib.Algebra.GroupWithZero.Nat
import Mathlib.Data.Nat.Digits.Defs

/-!
# Numbers of variable length

What reading makes of any bytes, at both widths. A number is read exactly if one stands at the front
that ends within the bytes allowed and stays below the width's bound, be it padded or not. All other
bytes are faults, and which one depends on the bytes up to the last one allowed alone.

The reader adds and multiplies natural numbers. A loop that shifts bits into a machine word, and
loses what does not fit, gives the same values and faults: it never gathers a bit that is lost and
goes on to succeed.
-/

namespace IndexSearch

namespace Width

def bits : Width → Nat
  | .w32 => 32
  | .w64 => 64

theorem bound_eq (width : Width) : width.bound = 2 ^ width.bits := by
  cases width <;> rfl

/-- The last byte allowed holds the bits that are left by seven for each byte before it. -/
theorem two_pow_bits {width : Width} {before : Nat} (h : before + 1 = width.maxBytes) :
    2 ^ width.bits = 128 ^ before * (width.lastByte + 1) := by
  cases width with
  | w32 =>
    obtain rfl : before = 4 := Nat.succ.inj h
    rfl
  | w64 =>
    obtain rfl : before = 9 := Nat.succ.inj h
    rfl

end Width

namespace Varint

/-- All of the bytes have the high bit, so that a number that begins with them goes on. -/
def GoesOn (bytes : Bytes) : Prop :=
  ∀ b ∈ bytes, 128 ≤ b.toNat

theorem goesOn_replicate (count : Nat) {b : UInt8} (high : 128 ≤ b.toNat) :
    GoesOn (List.replicate count b) := by
  intro other h
  rwa [List.eq_of_mem_replicate h]

/-- The bytes of one number: the last has no high bit, and all before it have. -/
def IsNumber (bytes : Bytes) : Prop :=
  ∃ front last, bytes = front ++ [last] ∧ GoesOn front ∧ last.toNat < 128

/-- The sum of the low seven bits of each byte, times 128 to the power of its index. -/
def valueOf (bytes : Bytes) : Nat :=
  Nat.ofDigits 128 (bytes.map fun b => b.toNat % 128)

theorem valueOf_cons (b : UInt8) (bytes : Bytes) :
    valueOf (b :: bytes) = b.toNat % 128 + 128 * valueOf bytes :=
  Nat.ofDigits_cons

theorem valueOf_concat (front : Bytes) {last : UInt8} (low : last.toNat < 128) :
    valueOf (front ++ [last]) = valueOf front + 128 ^ front.length * last.toNat := by
  rw [valueOf, List.map_append, Nat.ofDigits_append, List.length_map, List.map_singleton,
    Nat.ofDigits_singleton, Nat.mod_eq_of_lt low]
  rfl

theorem valueOf_lt (bytes : Bytes) : valueOf bytes < 128 ^ bytes.length := by
  have hdigits : ∀ digit ∈ bytes.map (fun b => b.toNat % 128), digit < 128 := by
    intro digit hdigit
    obtain ⟨b, -, rfl⟩ := List.mem_map.mp hdigit
    exact Nat.mod_lt _ (by decide)
  have hvalue := Nat.ofDigits_lt_base_pow_length (by decide) hdigits
  rwa [List.length_map] at hvalue

/-- A number stays below the bound of a width unless its last byte is the last one allowed and too
large. -/
theorem valueOf_concat_lt_iff {width : Width} {front : Bytes} {b : UInt8} (low : b.toNat < 128)
    (short : front.length < width.maxBytes) : valueOf (front ++ [b]) < 2 ^ width.bits ↔
      ¬ (front.length + 1 = width.maxBytes ∧ width.lastByte < b.toNat) := by
  obtain ⟨left, hleft⟩ := Nat.exists_eq_add_of_lt short
  have hfront := valueOf_lt front
  rw [hleft, Width.two_pow_bits hleft.symm, valueOf_concat front low, Nat.pow_add]
  generalize width.lastByte = last
  generalize valueOf front = value at hfront ⊢
  generalize 128 ^ front.length = place at hfront ⊢
  cases left with
  | zero =>
    rw [Nat.pow_zero, Nat.mul_one, Nat.mul_succ]
    constructor
    · rintro small ⟨-, large⟩
      have hlarge : place * (last + 1) ≤ place * b.toNat := Nat.mul_le_mul_left place large
      rw [Nat.mul_succ] at hlarge
      omega
    · intro fits
      have hfits : place * b.toNat ≤ place * last := Nat.mul_le_mul_left place (by omega)
      omega
  | succ left =>
    refine iff_of_true ?_ (by omega)
    have hb : place * b.toNat ≤ place * 127 := Nat.mul_le_mul_left place (by omega)
    calc value + place * b.toNat
        < place * 128 := by omega
      _ ≤ place * 128 ^ (left + 1) := by
        apply Nat.mul_le_mul_left
        exact Nat.le_self_pow (Nat.succ_ne_zero left) 128
      _ ≤ place * 128 ^ (left + 1) * (last + 1) := Nat.le_mul_of_pos_right _ (Nat.succ_pos last)

/-- Bytes go on up to a length, or up to their end, or up to a byte that ends a number. -/
theorem exists_front (left : Nat) (bytes : Bytes) :
    ∃ front rest, bytes = front ++ rest ∧ GoesOn front ∧
      (front.length = left ∨ front.length < left ∧
        (rest = [] ∨ ∃ b more, rest = b :: more ∧ b.toNat < 128)) := by
  induction left generalizing bytes with
  | zero => exact ⟨[], bytes, rfl, List.forall_mem_nil _, Or.inl rfl⟩
  | succ left ih =>
    cases bytes with
    | nil => exact ⟨[], [], rfl, List.forall_mem_nil _, Or.inr ⟨Nat.succ_pos left, Or.inl rfl⟩⟩
    | cons b bytes =>
      by_cases low : b.toNat < 128
      · exact ⟨[], b :: bytes, rfl, List.forall_mem_nil _,
          Or.inr ⟨Nat.succ_pos left, Or.inr ⟨b, bytes, rfl, low⟩⟩⟩
      · obtain ⟨front, rest, rfl, goesOn, hend⟩ := ih bytes
        refine ⟨b :: front, rest, rfl, List.forall_mem_cons.mpr ⟨by omega, goesOn⟩, ?_⟩
        rw [List.length_cons]
        rcases hend with hfull | ⟨hshort, hrest⟩
        · exact Or.inl (by omega)
        · exact Or.inr ⟨by omega, hrest⟩

section Reading

variable {width : Width} {front bytes : Bytes}

/-- Bytes that go on add to whatever is read behind them. -/
theorem readWithin_append (goesOn : GoesOn front) (last left : Nat) (more : Bytes) :
    readWithin last (front.length + left) (front ++ more) =
      (readWithin last left more).map fun found =>
        (valueOf front + 128 ^ front.length * found.1, found.2) := by
  induction front with
  | nil =>
    rw [List.length_nil, Nat.zero_add, List.nil_append]
    cases readWithin last left more with
    | error fault => rfl
    | ok found => simp [Except.map, valueOf]
  | cons b front ih =>
    obtain ⟨high, goesOn⟩ := List.forall_mem_cons.mp goesOn
    have hleft : (b :: front).length + left = front.length + left + 1 := by
      rw [List.length_cons]
      omega
    rw [hleft, List.cons_append, readWithin, if_neg (by omega), ih goesOn]
    cases readWithin last left more with
    | error fault => rfl
    | ok found =>
      have hdigit : b.toNat % 128 = b.toNat - 128 := by
        have := b.toNat_lt
        omega
      have hplace : 128 ^ (front.length + 1) * found.1 = 128 * (128 ^ front.length * found.1) := by
        rw [Nat.pow_succ', Nat.mul_assoc]
      simp only [Except.map, valueOf_cons, List.length_cons, hdigit, hplace, Nat.mul_add,
        Nat.add_assoc]

theorem read_of_unended (goesOn : GoesOn front) (long : front.length = width.maxBytes)
    (rest : Bytes) : read width (front ++ rest) = .error .badVarint := by
  rw [read, ← long]
  exact readWithin_append goesOn width.lastByte 0 rest

theorem read_of_early (goesOn : GoesOn bytes) (short : bytes.length < width.maxBytes) :
    read width bytes = .error .endOfBuffer := by
  obtain ⟨left, hleft⟩ := Nat.exists_eq_add_of_lt short
  have hread := readWithin_append goesOn width.lastByte (left + 1) []
  rw [read, hleft]
  rwa [List.append_nil] at hread

theorem read_of_ended (goesOn : GoesOn front) {b : UInt8} (low : b.toNat < 128)
    (short : front.length < width.maxBytes) (rest : Bytes) :
    read width (front ++ b :: rest) =
      if valueOf (front ++ [b]) < 2 ^ width.bits then .ok (valueOf (front ++ [b]), rest)
      else .error .badVarint := by
  obtain ⟨left, hleft⟩ := Nat.exists_eq_add_of_lt short
  have hread := readWithin_append goesOn width.lastByte (left + 1) (b :: rest)
  rw [readWithin, if_pos low, ← Nat.add_assoc, ← hleft] at hread
  have hbound := valueOf_concat_lt_iff low short
  rw [read, hread]
  by_cases excessive : left = 0 ∧ width.lastByte < b.toNat
  · have hlarge : ¬ valueOf (front ++ [b]) < 2 ^ width.bits := by
      intro small
      exact hbound.mp small ⟨by omega, excessive.2⟩
    rw [if_pos excessive, if_neg hlarge]
    rfl
  · have hsmall : valueOf (front ++ [b]) < 2 ^ width.bits := by
      apply hbound.mpr
      rintro ⟨hlast, hlarge⟩
      exact excessive ⟨by omega, hlarge⟩
    rw [if_neg excessive, if_pos hsmall, valueOf_concat front low]
    rfl

end Reading

/-- What reading numbers of a width makes of bytes. -/
inductive Reads (width : Width) : Bytes → Except DecodeFault (Nat × Bytes) → Prop
  | number {number : Bytes} (isNumber : IsNumber number) (short : number.length ≤ width.maxBytes)
      (small : valueOf number < 2 ^ width.bits) (rest : Bytes) :
      Reads width (number ++ rest) (.ok (valueOf number, rest))
  | unended {front : Bytes} (goesOn : GoesOn front) (long : front.length = width.maxBytes)
      (rest : Bytes) : Reads width (front ++ rest) (.error .badVarint)
  | excessive {number : Bytes} (isNumber : IsNumber number) (long : number.length = width.maxBytes)
      (large : 2 ^ width.bits ≤ valueOf number) (rest : Bytes) :
      Reads width (number ++ rest) (.error .badVarint)
  | early {bytes : Bytes} (goesOn : GoesOn bytes) (short : bytes.length < width.maxBytes) :
      Reads width bytes (.error .endOfBuffer)

variable {width : Width} {bytes : Bytes} {outcome : Except DecodeFault (Nat × Bytes)}

theorem Reads.read_eq (h : Reads width bytes outcome) : read width bytes = outcome := by
  cases h with
  | number isNumber short small rest =>
    obtain ⟨front, last, rfl, goesOn, low⟩ := isNumber
    rw [List.length_append, List.length_singleton] at short
    rw [List.append_assoc, List.singleton_append, read_of_ended goesOn low short, if_pos small]
  | unended goesOn long rest => exact read_of_unended goesOn long rest
  | excessive isNumber long large rest =>
    obtain ⟨front, last, rfl, goesOn, low⟩ := isNumber
    rw [List.length_append, List.length_singleton] at long
    rw [List.append_assoc, List.singleton_append, read_of_ended goesOn low (by omega),
      if_neg (by omega)]
  | early goesOn short => exact read_of_early goesOn short

theorem reads_read (width : Width) (bytes : Bytes) : Reads width bytes (read width bytes) := by
  obtain ⟨front, rest, rfl, goesOn, hfull | ⟨short, rfl | ⟨b, more, rfl, low⟩⟩⟩ :=
    exists_front width.maxBytes bytes
  · rw [read_of_unended goesOn hfull]
    exact .unended goesOn hfull rest
  · rw [List.append_nil, read_of_early goesOn short]
    exact .early goesOn short
  · have hnumber : IsNumber (front ++ [b]) := ⟨front, b, rfl, goesOn, low⟩
    have hsplit : front ++ b :: more = (front ++ [b]) ++ more := by simp
    rw [read_of_ended goesOn low short, hsplit]
    by_cases small : valueOf (front ++ [b]) < 2 ^ width.bits
    · rw [if_pos small]
      refine .number hnumber ?_ small more
      rw [List.length_append, List.length_singleton]
      exact short
    · rw [if_neg small]
      -- A number that ends before its last byte allowed would be small.
      have hlast := not_not.mp (mt (valueOf_concat_lt_iff low short).mpr small)
      refine .excessive hnumber ?_ (Nat.le_of_not_lt small) more
      rw [List.length_append, List.length_singleton]
      exact hlast.1

theorem read_eq_iff : read width bytes = outcome ↔ Reads width bytes outcome := by
  constructor
  · rintro rfl
    exact reads_read width bytes
  · exact Reads.read_eq

theorem length_lt_of_read {value : Nat} {rest : Bytes}
    (h : read width bytes = .ok (value, rest)) : rest.length < bytes.length := by
  cases read_eq_iff.mp h with
  | number isNumber short small rest =>
    obtain ⟨front, last, rfl, -, -⟩ := isNumber
    simp only [List.length_append, List.length_singleton]
    omega

theorem encode_ne_nil (n : Nat) : encode n ≠ [] := by
  rw [encode]
  split <;> exact List.cons_ne_nil _ _

/-- A number that the allowed bytes have room for is read back. -/
theorem readWithin_encode {last left n : Nat} (short : last < 128)
    (h : n < (last + 1) * 128 ^ left) (rest : Bytes) :
    readWithin last (left + 1) (encode n ++ rest) = .ok (n, rest) := by
  induction left generalizing n with
  | zero =>
    have hsmall : n < 128 := by omega
    have hbyte : n % 256 = n := by omega
    have hlast : ¬ last < n := by omega
    rw [encode, if_pos hsmall]
    simp [readWithin, hbyte, hsmall, hlast]
  | succ left ih =>
    rw [encode]
    split
    · rename_i hsmall
      have hbyte : n % 256 = n := by omega
      simp [readWithin, hbyte, hsmall]
    · rename_i hlarge
      have hbyte : (n % 128 + 128) % 256 = n % 128 + 128 := by omega
      have hrest : n / 128 < (last + 1) * 128 ^ left := by
        rw [Nat.div_lt_iff_lt_mul (by decide), Nat.mul_assoc, ← Nat.pow_succ]
        exact h
      rw [List.cons_append, readWithin, UInt8.toNat_ofNat', hbyte, if_neg (by omega), ih hrest]
      exact congrArg (fun value => Except.ok (value, rest)) (by omega)

theorem read_encode {width : Width} {n : Nat} (h : n < width.bound) (rest : Bytes) :
    read width (encode n ++ rest) = .ok (n, rest) := by
  cases width with
  | w32 => exact readWithin_encode (by decide) h rest
  | w64 => exact readWithin_encode (by decide) h rest

def lowBits (bits : Nat) (b : UInt8) : BitVec bits :=
  (b &&& 127).toBitVec.setWidth bits

/-- Gathers a number in a word: the low seven bits of each byte go to their place, and what is
shifted beyond the end of the word is lost. -/
def gather {bits : Nat} (last : Nat) (word : BitVec bits) (place : Nat) :
    Nat → Bytes → Except DecodeFault (BitVec bits × Bytes)
  | 0, _ => .error .badVarint
  | _ + 1, [] => .error .endOfBuffer
  | left + 1, b :: rest =>
    if b.toNat < 128 then
      if left = 0 ∧ last < b.toNat then .error .badVarint
      else .ok (word ||| lowBits bits b <<< place, rest)
    else gather last (word ||| lowBits bits b <<< place) (place + 7) left rest

def readWord (width : Width) (bytes : Bytes) :
    Except DecodeFault (BitVec width.bits × Bytes) :=
  gather width.lastByte (BitVec.ofNat width.bits 0) 0 width.maxBytes bytes

theorem lowBits_eq (bits : Nat) (b : UInt8) :
    lowBits bits b = BitVec.ofNat bits (b.toNat % 128) := by
  apply BitVec.eq_of_toNat_eq
  rw [lowBits, BitVec.toNat_setWidth, BitVec.toNat_ofNat, UInt8.toNat_toBitVec, UInt8.toNat_and]
  exact congrArg (· % 2 ^ bits) (Nat.and_two_pow_sub_one_eq_mod b.toNat 7)

/-- A digit and those above it do not meet in any bit. -/
theorem ofNat_digit (bits : Nat) {digit : Nat} (low : digit < 128) (value : Nat) :
    BitVec.ofNat bits (digit + 128 * value) =
      BitVec.ofNat bits digit ||| BitVec.ofNat bits value <<< 7 := by
  have hjoined : digit + 128 * value = digit ||| 2 ^ 7 * value := by
    rw [Nat.or_comm, ← Nat.two_pow_add_eq_or_of_lt low, Nat.add_comm]
  have hshifted : BitVec.ofNat bits (2 ^ 7 * value) = BitVec.ofNat bits value <<< 7 := by
    apply BitVec.eq_of_toNat_eq
    rw [BitVec.toNat_shiftLeft, BitVec.toNat_ofNat, BitVec.toNat_ofNat, Nat.shiftLeft_eq,
      Nat.mod_mul_mod, Nat.mul_comm]
  rw [hjoined, BitVec.ofNat_or, hshifted]

/-- A word gathers the bits of the number that is read, as far as there is room for them. -/
theorem gather_eq {bits : Nat} (last : Nat) (word : BitVec bits) (place left : Nat)
    (bytes : Bytes) :
    gather last word place left bytes = (readWithin last left bytes).map fun found =>
      (word ||| BitVec.ofNat bits found.1 <<< place, found.2) := by
  induction left generalizing word place bytes with
  | zero => rfl
  | succ left ih =>
    cases bytes with
    | nil => rfl
    | cons b bytes =>
      rw [gather, readWithin, lowBits_eq]
      by_cases low : b.toNat < 128
      · rw [if_pos low, if_pos low, Nat.mod_eq_of_lt low]
        split <;> rfl
      · rw [if_neg low, if_neg low, ih]
        cases readWithin last left bytes with
        | error fault => rfl
        | ok found =>
          have hdigit : b.toNat - 128 = b.toNat % 128 := by
            have := b.toNat_lt
            omega
          have hlow : b.toNat % 128 < 128 := Nat.mod_lt _ (by decide)
          simp only [Except.map]
          rw [hdigit, ofNat_digit bits hlow, BitVec.shiftLeft_or_distrib, ← BitVec.shiftLeft_add,
            Nat.add_comm 7 place, BitVec.or_assoc]

/-- No bit of a number that is read is lost. -/
theorem readWord_eq (width : Width) (bytes : Bytes) :
    (readWord width bytes).map (fun found => (found.1.toNat, found.2)) = read width bytes := by
  have hgather : readWord width bytes = (read width bytes).map fun found =>
      (BitVec.ofNat width.bits 0 ||| BitVec.ofNat width.bits found.1 <<< 0, found.2) :=
    gather_eq width.lastByte (BitVec.ofNat width.bits 0) 0 width.maxBytes bytes
  rw [hgather]
  cases hread : read width bytes with
  | error fault => rfl
  | ok found =>
    obtain ⟨value, rest⟩ := found
    have hsmall : value < 2 ^ width.bits := by
      cases read_eq_iff.mp hread with
      | number _ _ small => exact small
    simp only [Except.map, BitVec.shiftLeft_zero, BitVec.zero_or, BitVec.toNat_ofNat,
      Nat.mod_eq_of_lt hsmall]

/-- What reading a number of 32 or 64 bits makes of any bytes. It gives a value and the bytes after
it exactly if a number stands in front that ends within the bytes allowed and is below the bound,
and the two faults exactly as `Reads` has them; a number that was written is read back; and a word
of that many bits is enough to read in. -/
theorem read_exact (width : Width) :
    (∀ bytes outcome, read width bytes = outcome ↔ Reads width bytes outcome) ∧
      (∀ value rest, value < 2 ^ width.bits →
        read width (encode value ++ rest) = .ok (value, rest)) ∧
      ∀ bytes, (readWord width bytes).map (fun found => (found.1.toNat, found.2)) =
        read width bytes := by
  refine ⟨?_, ?_, ?_⟩
  · intro bytes outcome
    exact read_eq_iff
  · intro value rest small
    rw [← width.bound_eq] at small
    exact read_encode small rest
  · intro bytes
    exact readWord_eq width bytes

/-- The largest number of 64 bits takes ten bytes. With more in its last byte it would not be one,
without that byte it has not ended, and a number may be padded with zeros up to its last byte. -/
theorem read_exact_largest :
    read .w64 (encode (2 ^ 64 - 1) ++ [7]) = .ok (2 ^ 64 - 1, [7]) ∧
      read .w64 (List.replicate 9 255 ++ [2]) = .error .badVarint ∧
      read .w64 (List.replicate 9 255) = .error .endOfBuffer ∧
      read .w32 [128, 128, 128, 128, 0, 9] = .ok (0, [9]) ∧
      (readWord .w64 (List.replicate 9 255 ++ [1])).map (fun found => (found.1.toNat, found.2)) =
        .ok (2 ^ 64 - 1, []) := by
  obtain ⟨hread, hencode, hword⟩ := read_exact .w64
  refine ⟨hencode _ _ (by decide), ?_, ?_, ?_, ?_⟩
  · rw [hread]
    exact .excessive ⟨List.replicate 9 255, 2, rfl, goesOn_replicate 9 (by decide), by decide⟩ rfl
      (by decide) []
  · rw [hread]
    exact .early (goesOn_replicate 9 (by decide)) (by decide)
  · rw [(read_exact .w32).1]
    exact .number ⟨List.replicate 4 128, 0, rfl, goesOn_replicate 4 (by decide), by decide⟩
      (by decide) (by decide) [9]
  · rw [hword]
    decide

end Varint

end IndexSearch
