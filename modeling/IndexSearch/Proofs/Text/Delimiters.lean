import IndexSearch.Proofs.Text.Encoding
import IndexSearch.Proofs.Text.Pieces
import Mathlib.Algebra.Group.Nat.Defs
import Mathlib.Data.List.Basic

/-!
# Cutting bytes at delimiters

An ASCII character of a decoded text is an ASCII byte of what was decoded: a longer sequence never
comes to a code point below 128, and a gap is written as U+FFFD. So bytes may be cut at ASCII
delimiters and each piece decoded by itself, or all of them decoded and the text cut. Whatever is
malformed stays within its piece.

The character NUL is left out. It is what a code point beyond Unicode would be read as, and the
bounds on sequences above are not looked at here.
-/

namespace IndexSearch.Utf8

/-- The least code point that an open sequence can still come to. -/
def Pending.least (p : Pending) : Nat :=
  (p.bits * 64 + (p.low - 128)) * 64 ^ (p.owed - 1)

/-- The bits that a continuation byte adds are not below those that its lower bound would add. -/
theorem Pending.least_le {p : Pending} {n : Nat} (low : p.low ≤ n) :
    p.least ≤ (p.bits * 64 + (n - 128)) * 64 ^ (p.owed - 1) := by
  have hbits : p.bits * 64 + (p.low - 128) ≤ p.bits * 64 + (n - 128) := by omega
  exact Nat.mul_le_mul_right _ hbits

theorem Pending.least_of_owed {owed bits : Nat} (more : ¬ owed ≤ 1) :
    Pending.least ⟨owed - 1, 0x80, 0xBF, bits⟩ = bits * 64 ^ (owed - 1) := by
  have howed : owed - 1 = owed - 1 - 1 + 1 := by omega
  rw [howed, Nat.pow_succ]
  simp [Pending.least, Nat.mul_assoc, Nat.mul_comm (64 ^ _)]

/-- An open sequence, if there is one, comes to no code point of ASCII. -/
def Beyond (state : Option Pending) : Prop :=
  ∀ p ∈ state, 128 ≤ p.least

theorem beyond_none : Beyond none :=
  fun _ hp => by cases hp

/-- The bounds of the second byte exclude the overlong forms, which begin too low. -/
theorem lead_beyond {b : UInt8} {p : Pending} (h : lead b = .opening p) : Beyond (some p) := by
  rintro _ ⟨⟩
  simp only [lead] at h
  split at h
  · cases h
  · split at h
    · cases h
    · split at h
      · cases h
        simp only [Pending.least]
        omega
      · split at h
        · cases h
          simp only [Pending.least]
          split <;> omega
        · split at h
          · cases h
            simp only [Pending.least]
            split <;> omega
          · cases h

theorem start_beyond (b : UInt8) : Beyond (start b).1 := by
  rw [start]
  cases hb : lead b with
  | char c => exact beyond_none
  | opening p => exact lead_beyond hb
  | stray => exact beyond_none

theorem step_beyond {state : Option Pending} (beyond : Beyond state) (b : UInt8) :
    Beyond (step state b).1 := by
  cases state with
  | none => exact start_beyond b
  | some p =>
    simp only [step]
    split
    · rename_i hwithin
      split
      · exact beyond_none
      · rename_i more
        rintro _ ⟨⟩
        rw [Pending.least_of_owed more]
        exact Nat.le_trans (beyond p rfl) (Pending.least_le hwithin.1)
    · exact start_beyond b

/-- What a byte completes between two sequences is its own character. -/
theorem eq_of_mem_start {b : UInt8} {c : Char} (h : some c ∈ (start b).2) :
    b.toNat < 128 ∧ c = Char.ofNat b.toNat := by
  rw [start] at h
  cases hb : lead b with
  | char found =>
    simp only [hb, List.mem_singleton, Option.some.injEq] at h
    subst h
    simp only [lead] at hb
    repeat' split at hb
    all_goals cases hb
    rename_i hascii
    exact ⟨hascii, rfl⟩
  | opening p => simp [hb] at h
  | stray => simp [hb] at h

theorem toNat_ofNat_of_beyond {n : Nat} (beyond : 128 ≤ n) :
    (Char.ofNat n).toNat = 0 ∨ 128 ≤ (Char.ofNat n).toNat := by
  by_cases hvalid : n.isValidChar
  · rw [toNat_ofNat_of_valid hvalid]
    exact Or.inr beyond
  · rw [Char.ofNat, dif_neg hvalid]
    exact Or.inl rfl

/-- An ASCII character that a byte completes is that byte. -/
theorem eq_of_mem_step {state : Option Pending} (beyond : Beyond state) {b : UInt8} {c : Char}
    (positive : 0 < c.toNat) (ascii : c.toNat < 128) (h : some c ∈ (step state b).2) :
    b.toNat < 128 ∧ c = Char.ofNat b.toNat := by
  cases state with
  | none => exact eq_of_mem_start h
  | some p =>
    simp only [step] at h
    split at h
    · rename_i hwithin
      split at h
      · rename_i howed
        have hcode : p.least ≤ p.bits * 64 + (b.toNat - 128) := by
          have hleast := Pending.least_le hwithin.1
          have hlast : p.owed - 1 = 0 := by omega
          rwa [hlast, Nat.pow_zero, Nat.mul_one] at hleast
        simp only [List.mem_singleton, Option.some.injEq] at h
        have hfar := toNat_ofNat_of_beyond (Nat.le_trans (beyond p rfl) hcode)
        rw [← h] at hfar
        omega
      · cases h
    · rcases List.mem_cons.mp h with hgap | hstart
      · cases hgap
      · exact eq_of_mem_start hstart

theorem mem_of_mem_unitsFrom {state : Option Pending} (beyond : Beyond state) {bytes : Bytes}
    {c : Char} (positive : 0 < c.toNat) (ascii : c.toNat < 128)
    (h : some c ∈ unitsFrom state bytes) : UInt8.ofNat c.toNat ∈ bytes := by
  induction bytes generalizing state with
  | nil => cases state <;> simp [unitsFrom] at h
  | cons b bytes ih =>
    rw [unitsFrom] at h
    rcases List.mem_append.mp h with hfirst | hrest
    · obtain ⟨hbyte, rfl⟩ := eq_of_mem_step beyond positive ascii hfirst
      rw [toNat_ofNat_of_valid (Or.inl (by omega)), UInt8.ofNat_toNat]
      exact List.mem_cons_self
    · exact List.mem_cons_of_mem b (ih (step_beyond beyond b) hrest)

/-- An ASCII character of a decoded text is one of the bytes that were decoded. -/
theorem mem_of_mem_decodeLossy {bytes : Bytes} {b : UInt8} (positive : 0 < b.toNat)
    (ascii : b.toNat < 128) (h : Char.ofNat b.toNat ∈ decodeLossy bytes) : b ∈ bytes := by
  have hcode : (Char.ofNat b.toNat).toNat = b.toNat := toNat_ofNat_of_valid (Or.inl (by omega))
  rw [decodeLossy, List.mem_map] at h
  obtain ⟨unit, hunit, hchar⟩ := h
  cases unit with
  | none =>
    have hgap : replacement.toNat < 128 := by
      rw [show replacement = Char.ofNat b.toNat from hchar, hcode]
      exact ascii
    exact absurd hgap (by decide)
  | some c =>
    obtain rfl : c = Char.ofNat b.toNat := hchar
    have hmem := mem_of_mem_unitsFrom beyond_none (by omega) (by omega) hunit
    rwa [hcode, UInt8.ofNat_toNat] at hmem

/-- An open sequence gives something in the end, if only a gap. -/
theorem unitsFrom_some_ne_nil (p : Pending) (bytes : Bytes) : unitsFrom (some p) bytes ≠ [] := by
  induction bytes generalizing p with
  | nil => exact List.cons_ne_nil _ _
  | cons b bytes ih =>
    rw [unitsFrom]
    simp only [step]
    split
    · split
      · exact List.cons_ne_nil _ _
      · exact ih _
    · exact List.cons_ne_nil _ _

/-- Only no bytes at all are decoded to the empty text. -/
theorem decodeLossy_eq_nil_iff {bytes : Bytes} : decodeLossy bytes = [] ↔ bytes = [] := by
  constructor
  · intro h
    cases bytes with
    | nil => rfl
    | cons b bytes =>
      rw [decodeLossy, List.map_eq_nil_iff, units, unitsFrom, step, start] at h
      cases hb : lead b with
      | char c => simp [hb] at h
      | opening p =>
        rw [hb] at h
        exact absurd h (unitsFrom_some_ne_nil p bytes)
      | stray => simp [hb] at h
  · rintro rfl
    rfl

/-- Delimiters as characters and as bytes: the same ones of ASCII, without NUL. -/
structure Delimits (onChars : Char → Bool) (onBytes : UInt8 → Bool) : Prop where
  chars : ∀ c, onChars c = true ↔ ∃ b, onBytes b = true ∧ c = Char.ofNat b.toNat
  ascii : ∀ b, onBytes b = true → 0 < b.toNat ∧ b.toNat < 128

/-- One character delimits text as its byte delimits bytes. -/
theorem delimits_char {c : Char} (positive : 0 < c.toNat) (ascii : c.toNat < 128) :
    Delimits (· == c) (· == UInt8.ofNat c.toNat) := by
  have hcode : (UInt8.ofNat c.toNat).toNat = c.toNat := by
    rw [UInt8.toNat_ofNat']
    omega
  constructor
  · intro other
    simp [hcode, Char.ofNat_toNat]
  · intro b h
    rw [beq_iff_eq] at h
    rw [h, hcode]
    exact ⟨positive, ascii⟩

namespace Delimits

variable {onChars : Char → Bool} {onBytes : UInt8 → Bool}

theorem onChars_ofNat (delimits : Delimits onChars onBytes) {b : UInt8} (h : onBytes b = true) :
    onChars (Char.ofNat b.toNat) = true :=
  (delimits.chars _).mpr ⟨b, h, rfl⟩

theorem clear_decodeLossy (delimits : Delimits onChars onBytes) {bytes : Bytes}
    (clear : ∀ b ∈ bytes, onBytes b = false) : ∀ c ∈ decodeLossy bytes, onChars c = false := by
  intro c hc
  by_contra hdelimiter
  rw [Bool.not_eq_false] at hdelimiter
  obtain ⟨b, hb, rfl⟩ := (delimits.chars c).mp hdelimiter
  obtain ⟨hpositive, hascii⟩ := delimits.ascii b hb
  rw [clear b (mem_of_mem_decodeLossy hpositive hascii hc)] at hb
  cases hb

end Delimits

/-- Cutting a decoded text at delimiters gives the pieces of its bytes, each decoded by itself. -/
theorem splitOnP_decodeLossy {onChars : Char → Bool} {onBytes : UInt8 → Bool}
    (delimits : Delimits onChars onBytes) (bytes : Bytes) :
    (decodeLossy bytes).splitOnP onChars = (bytes.splitOnP onBytes).map decodeLossy := by
  induction bytes using separated_induction onBytes with
  | clear bytes clear =>
    rw [List.splitOnP_eq_singleton clear,
      List.splitOnP_eq_singleton (delimits.clear_decodeLossy clear)]
    rfl
  | cut before b after clear hb ih =>
    have hascii := (delimits.ascii b hb).2
    rw [decodeLossy_append_ascii hascii,
      List.splitOnP_append_cons _ _ (delimits.onChars_ofNat hb),
      List.splitOnP_append_cons _ _ hb, List.map_append, ih,
      List.splitOnP_eq_singleton clear,
      List.splitOnP_eq_singleton (delimits.clear_decodeLossy clear)]
    rfl

end IndexSearch.Utf8
